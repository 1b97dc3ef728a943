import FxToushi.Data.Lines

namespace FxToushi.Py.Utf8

open Data

/-! # UTF-8

A byte below 128 encodes the character with its number, and is part of no other.
-/

def encode (text : List Char) : List UInt8 := text.flatMap String.utf8EncodeChar

/-- `bytes.decode("utf-8")`, with `none` for a `UnicodeDecodeError`. -/
def decode (bytes : List UInt8) : Option (List Char) :=
  bytes.toByteArray.utf8Decode?.map Array.toList

theorem decode_encode (text : List Char) : decode (encode text) = some text := by
  have decoded : (encode text).toByteArray.utf8Decode? = some text.toArray :=
    List.utf8Decode?_utf8Encode
  rw [decode, decoded]
  rfl

theorem toNat_ofNat_of_lt {number : Nat} (small : number < 256) :
    (UInt8.ofNat number).toNat = number := by
  rw [UInt8.toNat_ofNat']
  exact Nat.mod_eq_of_lt small

theorem not_low_ofNat {number : Nat} (high : 128 ≤ number) (small : number < 256) :
    ¬ (UInt8.ofNat number).toNat < 128 := by
  rw [toNat_ofNat_of_lt small]
  omega

theorem low_of_mem_encodeChar {char : Char} {byte : UInt8}
    (member : byte ∈ String.utf8EncodeChar char) (low : byte.toNat < 128) :
    byte.toNat = char.toNat := by
  have number : char.val.toNat = char.toNat := rfl
  simp only [String.utf8EncodeChar, number] at member
  split at member
  · obtain rfl := List.mem_singleton.mp member
    exact toNat_ofNat_of_lt (by omega)
  -- the bytes of a longer encoding are all 128 or more
  · exfalso
    split at member
    · rcases List.mem_cons.mp member with rfl | member
      · exact not_low_ofNat (by omega) (by omega) low
      · obtain rfl := List.mem_singleton.mp member
        exact not_low_ofNat (by omega) (by omega) low
    · split at member
      · simp only [List.mem_cons, List.not_mem_nil, or_false] at member
        rcases member with rfl | rfl | rfl
        · exact not_low_ofNat (by omega) (by omega) low
        · exact not_low_ofNat (by omega) (by omega) low
        · exact not_low_ofNat (by omega) (by omega) low
      · simp only [List.mem_cons, List.not_mem_nil, or_false] at member
        rcases member with rfl | rfl | rfl | rfl
        · exact not_low_ofNat (by omega) (by omega) low
        · exact not_low_ofNat (by omega) (by omega) low
        · exact not_low_ofNat (by omega) (by omega) low
        · exact not_low_ofNat (by omega) (by omega) low

theorem low_of_mem_encode {text : List Char} {byte : UInt8} (member : byte ∈ encode text)
    (low : byte.toNat < 128) : ∃ char ∈ text, byte.toNat = char.toNat := by
  obtain ⟨char, inText, member⟩ := List.mem_flatMap.mp member
  exact ⟨char, inText, low_of_mem_encodeChar member low⟩

theorem plain_encode {text : List Char} (visible : ∀ char ∈ text, 32 ≤ char.toNat) :
    Plain (encode text) := by
  have other : ∀ byte : UInt8, byte.toNat < 32 → byte ∉ encode text := by
    intro byte low member
    obtain ⟨char, inText, same⟩ := low_of_mem_encode member (by omega)
    have := visible char inText
    omega
  exact ⟨other lineFeed (by decide), other carriageReturn (by decide)⟩

theorem encode_cons_low {char : Char} (low : char.toNat < 128) (rest : List Char) :
    encode (char :: rest) = UInt8.ofNat char.toNat :: encode rest := by
  have single : String.utf8EncodeChar char = [UInt8.ofNat char.toNat] :=
    if_pos (Nat.le_of_lt_succ low)
  rw [encode, List.flatMap_cons, single]
  rfl

end FxToushi.Py.Utf8
