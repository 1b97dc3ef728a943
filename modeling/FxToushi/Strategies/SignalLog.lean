import FxToushi.Core.JsonlLogs
import FxToushi.Data.Runs

namespace FxToushi.Strategies.SignalLog

open FxToushi.Core Data Py

/-! # The log of strategy signals

A log that grows too large is cut down to its last bytes from the next record
on.  A file is the bytes it holds; a file that does not exist holds none.
-/

/-- `tail[tail.find(b"\n") + 1:]`, or all of a tail without a new line. -/
def afterNewline (tail : List UInt8) : List UInt8 :=
  match tail.dropWhile fun byte => byte != lineFeed with
  | [] => tail
  | _ :: rest => rest

def tailBytes (content : List UInt8) (keepBytes : Int) : List UInt8 :=
  if keepBytes ≤ 0 then []
  else if content.length ≤ keepBytes then content
  else afterNewline (content.drop (content.length - keepBytes.toNat))

def maybeRotateLog (content : List UInt8) (maxBytes : Option Int) (keepBytes : Int) :
    List UInt8 :=
  match maxBytes with
  | none => content
  | some maxBytes =>
    if maxBytes ≤ 0 then content
    else if content.length ≤ maxBytes then content
    else tailBytes content keepBytes

/-- A call of `_append_jsonl`.  There is no record where `json.dumps` raises, or the
encoding of what it returns, which is before anything of it is written. -/
structure Append where
  record : Option Record
  maxBytes : Option Int
  keepBytes : Int

def line (record : Record) : List UInt8 := Utf8.encode record.document

def appendJsonl (content : List UInt8) (call : Append) : List UInt8 :=
  let content := maybeRotateLog content call.maxBytes call.keepBytes
  match call.record with
  | none => content
  | some record => content ++ line record ++ Utf8.encode ['\n']

/-- The lines that the calls append. -/
def lines (calls : List Append) : List (List UInt8) :=
  calls.filterMap fun call => call.record.map line

/-! ## Cutting at a byte -/

section Cutting

variable {records : List (List UInt8)} {content : List UInt8}

theorem frame_cons (record : List UInt8) (rest : List (List UInt8)) :
    frame (record :: rest) = record ++ lineFeed :: frame rest := by
  simp [frame]

theorem afterNewline_line {start : List UInt8} (plain : lineFeed ∉ start) (rest : List UInt8) :
    afterNewline (start ++ lineFeed :: rest) = rest := by
  have dropped : (start ++ lineFeed :: rest).dropWhile (fun byte => byte != lineFeed) =
      lineFeed :: rest := by
    induction start with
    | nil => simp
    | cons byte start ih =>
      obtain ⟨other, later⟩ := not_or.mp (fun either => plain (List.mem_cons.mpr either))
      rw [List.cons_append, List.dropWhile_cons_of_pos (by simpa using Ne.symm other), ih later]
  rw [afterNewline, dropped]

/-- Wherever the records are cut, those after the first new line are whole. -/
theorem afterNewline_frame (plain : ∀ record ∈ records, lineFeed ∉ record) {count : Nat}
    (inside : count < (frame records).length) :
    ∃ kept, kept <:+ records ∧ afterNewline ((frame records).drop count) = frame kept := by
  induction records generalizing count with
  | nil => exact absurd inside (Nat.not_lt_zero count)
  | cons record rest ih =>
    obtain ⟨own, later⟩ := List.forall_mem_cons.mp plain
    rw [frame_cons] at inside ⊢
    by_cases within : count ≤ record.length
    · refine ⟨rest, List.suffix_cons record rest, ?_⟩
      rw [List.drop_append_of_le_length within]
      exact afterNewline_line (fun member => own (List.mem_of_mem_drop member)) _
    · rw [List.length_append, List.length_cons] at inside
      obtain ⟨kept, suffix, whole⟩ :=
        @ih later (count - (record.length + 1)) (by omega)
      refine ⟨kept, suffix.trans (List.suffix_cons record rest), ?_⟩
      rw [← whole, List.drop_append, List.drop_eq_nil_of_le (by omega), List.nil_append,
        show count - record.length = count - (record.length + 1) + 1 by omega,
        List.drop_succ_cons]

theorem maybeRotateLog_frame (plain : ∀ record ∈ records, lineFeed ∉ record)
    (maxBytes : Option Int) (keepBytes : Int) :
    ∃ kept, kept <:+ records ∧ maybeRotateLog (frame records) maxBytes keepBytes = frame kept := by
  cases maxBytes with
  | none => exact ⟨records, List.suffix_rfl, rfl⟩
  | some maxBytes =>
    simp only [maybeRotateLog]
    split
    · exact ⟨records, List.suffix_rfl, rfl⟩
    · split
      · exact ⟨records, List.suffix_rfl, rfl⟩
      · rw [tailBytes]
        split
        · exact ⟨[], List.nil_suffix, rfl⟩
        · split
          · exact ⟨records, List.suffix_rfl, rfl⟩
          · exact afterNewline_frame plain (by omega)

end Cutting

/-! ## Whole records -/

theorem plain_line (record : Record) : Plain (line record) :=
  Utf8.plain_encode record.renders.visible

theorem encode_newline : Utf8.encode ['\n'] = [lineFeed] := rfl

theorem plain_lines {calls : List Append} {record : List UInt8} (member : record ∈ lines calls) :
    lineFeed ∉ record := by
  obtain ⟨call, -, written⟩ := List.mem_filterMap.mp member
  obtain ⟨source, -, rfl⟩ := Option.map_eq_some_iff.mp written
  exact (plain_line source).1

/-- The log holds the last of the appended lines, whole, and ends with the line that the last
call appends. -/
theorem log_keeps_whole_lines (calls : List Append) :
    ∃ kept, kept <:+ lines calls ∧ runFrom appendJsonl [] calls = frame kept ∧
      ∀ call ∈ calls.getLast?, ∀ record ∈ call.record, kept.getLast? = some (line record) := by
  induction calls using List.reverseRecOn with
  | nil => exact ⟨[], List.nil_suffix, rfl, by simp⟩
  | append_singleton before call ih =>
    obtain ⟨held, suffix, content, -⟩ := ih
    have plain : ∀ record ∈ held, lineFeed ∉ record :=
      fun record member => plain_lines (suffix.mem member)
    obtain ⟨kept, keptSuffix, rotated⟩ :=
      maybeRotateLog_frame plain call.maxBytes call.keepBytes
    have stepped : runFrom appendJsonl [] (before ++ [call]) =
        appendJsonl (runFrom appendJsonl [] before) call := List.foldl_append
    have later : lines (before ++ [call]) = lines before ++ lines [call] := List.filterMap_append
    rw [stepped, content, later, appendJsonl, rotated, List.getLast?_concat]
    cases given : call.record with
    | none =>
      refine ⟨kept, ?_, rfl, ?_⟩
      · rw [show lines [call] = [] by simp [lines, given], List.append_nil]
        exact keptSuffix.trans suffix
      · intro other same record none
        obtain rfl := Option.some.inj same
        rw [given] at none
        cases none
    | some record =>
      refine ⟨kept ++ [line record], ?_, ?_, ?_⟩
      · rw [show lines [call] = [line record] by simp [lines, given]]
        obtain ⟨front, whole⟩ := keptSuffix.trans suffix
        exact ⟨front, by rw [← whole, List.append_assoc]⟩
      · rw [frame_append, encode_newline]
        simp [frame]
      · intro other same written own
        obtain rfl := Option.some.inj same
        obtain rfl := Option.some.inj (given.symm.trans own)
        exact List.getLast?_concat

end FxToushi.Strategies.SignalLog
