import Mathlib.Data.List.Basic
import Mathlib.Data.List.Induction
import Mathlib.Order.Lattice

namespace FxToushi.Data

/-! # Causal operators on lists

An operator that answers every input with one output, where an output depends
on its own input and the earlier ones only.  Operators compose, so whatever is
built from causal parts agrees on two lists for as long as the lists agree.
-/

structure Causal (Input Output : Type*) where
  apply : List Input → List Output
  length_apply : ∀ inputs, (apply inputs).length = inputs.length
  apply_take : ∀ inputs count, apply (inputs.take count) = (apply inputs).take count

namespace Causal

variable {Input Middle Output State Left Right : Type*}

theorem take_congr (operator : Causal Input Output) {first second : List Input} {count : Nat}
    (same : first.take count = second.take count) :
    (operator.apply first).take count = (operator.apply second).take count := by
  rw [← operator.apply_take, ← operator.apply_take, same]

theorem getElem?_congr (operator : Causal Input Output) {first second : List Input}
    {count place : Nat} (same : first.take count = second.take count) (before : place < count) :
    (operator.apply first)[place]? = (operator.apply second)[place]? := by
  have agree := congrArg (fun outputs => outputs[place]?) (operator.take_congr same)
  simpa [List.getElem?_take, before] using agree

/-! ## Scans -/

def scanFrom (step : State → Input → State × Output) (state : State) :
    List Input → List Output
  | [] => []
  | input :: rest => (step state input).2 :: scanFrom step (step state input).1 rest

theorem length_scanFrom (step : State → Input → State × Output) (state : State)
    (inputs : List Input) : (scanFrom step state inputs).length = inputs.length := by
  induction inputs generalizing state with
  | nil => rfl
  | cons input rest ih => simp [scanFrom, ih]

theorem scanFrom_take (step : State → Input → State × Output) (state : State)
    (inputs : List Input) (count : Nat) :
    scanFrom step state (inputs.take count) = (scanFrom step state inputs).take count := by
  induction inputs generalizing state count with
  | nil => simp [scanFrom]
  | cons input rest ih =>
    cases count with
    | zero => rfl
    | succ count => simp [scanFrom, ih]

/-- The outputs of a machine that reads one input after the other. -/
def scan (step : State → Input → State × Output) (start : State) : Causal Input Output where
  apply := scanFrom step start
  length_apply := length_scanFrom step start
  apply_take := scanFrom_take step start

/-- Every output a function of the inputs seen so far. -/
def ofSeen (output : List Input → Output) : Causal Input Output :=
  scan (fun seen input => (seen ++ [input], output (seen ++ [input]))) []

/-- The previous input, and `fill` at the first place. -/
def shift (fill : Input) : Causal Input Input :=
  scan (fun previous input => (input, previous)) fill

/-! ## Compositions -/

def map (image : Input → Output) : Causal Input Output where
  apply := List.map image
  length_apply _ := List.length_map image
  apply_take _ _ := List.map_take

def comp (outer : Causal Middle Output) (inner : Causal Input Middle) : Causal Input Output where
  apply inputs := outer.apply (inner.apply inputs)
  length_apply inputs := by rw [outer.length_apply, inner.length_apply]
  apply_take inputs count := by rw [inner.apply_take, outer.apply_take]

def zipWith (combine : Left → Right → Output) (left : Causal Input Left)
    (right : Causal Input Right) : Causal Input Output where
  apply inputs := List.zipWith combine (left.apply inputs) (right.apply inputs)
  length_apply inputs := by simp [left.length_apply, right.length_apply]
  apply_take inputs count := by rw [left.apply_take, right.apply_take, List.take_zipWith]

end Causal

end FxToushi.Data

namespace FxToushi.Data

/-! # Readings over time

Readings that may be missing: the last one present, filling the missing ones
from the past, and what a series of dated readings says as of a moment.
-/

variable {Reading : Type*}

/-- The last reading that is not missing. -/
def lastPresent (readings : List (Option Reading)) : Option Reading :=
  (readings.filterMap id).getLast?

/-! ## Filling forward -/

def fillStep (last reading : Option Reading) : Option Reading × Option Reading :=
  (reading.or last, reading.or last)

/-- Every missing reading takes the last one present before it. -/
def forwardFill : Causal (Option Reading) (Option Reading) := .scan fillStep none

/-! ## As of a moment -/

/-- A list whose good entries come first splits into the good and the others. -/
theorem split_good {Entry : Type*} {good : Entry → Bool} {entries : List Entry}
    (initial : entries.Pairwise (fun first second => good second → good first)) :
    entries = entries.filter good ++ entries.filter (fun entry => !good entry) := by
  induction entries with
  | nil => rfl
  | cons entry rest ih =>
    obtain ⟨first, later⟩ := List.pairwise_cons.mp initial
    cases here : good entry with
    | true => simpa [here] using ih later
    | false =>
      have none_good : ∀ other ∈ rest, good other = false := by
        intro other member
        cases there : good other with
        | false => rfl
        | true => exact absurd (first other member there) (by simp [here])
      have front : rest.filter good = [] :=
        List.filter_eq_nil_iff.mpr (fun other member => by simp [none_good other member])
      have back : rest.filter (fun entry => !good entry) = rest :=
        List.filter_eq_self.mpr (fun other member => by simp [none_good other member])
      simp [here, front, back]

section AsOf

variable {Time : Type*} [LinearOrder Time]

/-- The reading at the last date that is not after the moment. -/
def asOf (dated : List (Time × Option Reading)) (moment : Time) : Option Reading :=
  ((dated.filter (fun entry => decide (entry.1 ≤ moment))).getLast?).bind Prod.snd

end AsOf

end FxToushi.Data
