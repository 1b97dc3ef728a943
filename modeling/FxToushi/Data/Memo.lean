import FxToushi.Data.Dict

namespace FxToushi.Data

/-! # Memo tables

A function answered from a table: an input whose key the table has is answered
with what is stored there, any other input is computed and its answer may be
stored.  The answers are right as long as the inputs that share a key share
their answer.
-/

structure Memo (Input Key Value Answer : Type*) where
  /-- Inputs without a key pass the table by. -/
  key : Input → Option Key
  compute : Input → Answer
  /-- What is kept of a computed answer. -/
  stored : Input → Option Value
  answerOf : Value → Answer
  answerOf_stored : ∀ input value, stored input = some value → answerOf value = compute input

namespace Memo

variable {Input Key Value Answer : Type*} [DecidableEq Key]

def keep (memo : Memo Input Key Value Answer) (table : Dict Key Value) (key : Key)
    (input : Input) : Dict Key Value :=
  match memo.stored input with
  | some value => table.set key value
  | none => table

def ask (memo : Memo Input Key Value Answer) (table : Dict Key Value) (input : Input) :
    Answer × Dict Key Value :=
  match memo.key input with
  | none => (memo.compute input, table)
  | some key =>
    match table.get? key with
    | some value => (memo.answerOf value, table)
    | none => (memo.compute input, memo.keep table key input)

/-- Every entry of the table was stored for one of the inputs, under its key. -/
def FilledBy (memo : Memo Input Key Value Answer) (inputs : List Input)
    (table : Dict Key Value) : Prop :=
  ∀ key value, table.get? key = some value →
    ∃ input ∈ inputs, memo.key input = some key ∧ memo.stored input = some value

variable {memo : Memo Input Key Value Answer} {inputs : List Input} {table : Dict Key Value}
  {input : Input}

theorem filledBy_empty : memo.FilledBy inputs Dict.empty := by
  intro key value found
  exact absurd found (by simp [Dict.get?, Dict.empty, Dict.lookup])

theorem FilledBy.append (filled : memo.FilledBy inputs table) (later : List Input) :
    memo.FilledBy (inputs ++ later) table := by
  intro key value found
  obtain ⟨earlier, asked, named, kept⟩ := filled key value found
  exact ⟨earlier, List.mem_append_left _ asked, named, kept⟩

theorem FilledBy.ask (filled : memo.FilledBy inputs table) :
    memo.FilledBy (inputs ++ [input]) (memo.ask table input).2 := by
  have unchanged := filled.append [input]
  cases named : memo.key input with
  | none => simpa [Memo.ask, named] using unchanged
  | some key =>
    cases found : table.get? key with
    | some value => simpa [Memo.ask, named, found] using unchanged
    | none =>
      cases kept : memo.stored input with
      | none => simpa [Memo.ask, named, found, keep, kept] using unchanged
      | some value =>
        simp only [Memo.ask, named, found, keep, kept]
        intro other stored there
        rw [Dict.get?_set] at there
        by_cases same : key = other
        · rw [if_pos same] at there
          obtain rfl := Option.some.inj there
          exact ⟨input, List.mem_append_right _ (List.mem_singleton_self _),
            named.trans (congrArg some same), kept⟩
        · rw [if_neg same] at there
          exact unchanged other stored there

theorem ask_eq_compute (filled : memo.FilledBy inputs table)
    (agree : ∀ earlier ∈ inputs, memo.key earlier = memo.key input →
      (memo.key input).isSome → (memo.stored earlier).isSome →
        memo.compute earlier = memo.compute input) :
    (memo.ask table input).1 = memo.compute input := by
  cases named : memo.key input with
  | none => simp [ask, named]
  | some key =>
    cases found : table.get? key with
    | none => simp [ask, named, found]
    | some value =>
      obtain ⟨earlier, asked, sameKey, kept⟩ := filled key value found
      have right := agree earlier asked (sameKey.trans named.symm) (by simp [named])
        (by simp [kept])
      simp only [ask, named, found]
      rw [memo.answerOf_stored earlier value kept, right]

end Memo

end FxToushi.Data
