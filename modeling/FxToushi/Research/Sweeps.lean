import FxToushi.Core.Resync
import FxToushi.Data.Batches
import FxToushi.Data.Products
import FxToushi.Py.Containers
import FxToushi.Py.JsonSorted

namespace FxToushi.Research.Sweeps

open FxToushi.Core Resync Data Py

/-! # Parameter sweeps

A sweep is expanded into the parameters of its runs, and each run is put on a queue,
a log of JSON lines.
-/

inductive ScheduleError where
  | sweepConfigMissing
  | invalidSweepConfig
  | python (error : PyError)
deriving Repr, DecidableEq

structure SweepReservation where
  runId : String
  experimentId : String
  sweepMethod : String
  parameters : Mapping
  status : String
  createdAt : String

def SweepReservation.toDict (reservation : SweepReservation) : Mapping :=
  [("run_id", .str reservation.runId),
    ("experiment_id", .str reservation.experimentId),
    ("sweep_method", .str reservation.sweepMethod),
    ("parameters", .map reservation.parameters),
    ("status", .str reservation.status),
    ("created_at", .str reservation.createdAt)]

/-! ## Expanding a sweep -/

/-- The values that a key of the grid goes over. -/
def valuesOf : Value → List Value
  | .list items => items
  | value => [value]

def expandGrid (grid : Mapping) : List Mapping :=
  grid.foldl
    (fun results entry => results.flatMap fun base =>
      (valuesOf entry.2).map fun value => Mapping.set base entry.1 value)
    [[]]

def expandSweep (payload : Mapping) : List Mapping :=
  match payload.get? "params" with
  | some (.list items) => items.filterMap Value.mapping?
  | _ =>
    match payload.get? "grid" with
    | some (.map grid) => expandGrid grid
    | _ => [[]]

section Grids

variable {grid : Mapping}

theorem set_of_absent {mapping : Mapping} {key : String} (absent : key ∉ mapping.map Prod.fst)
    (value : Value) : Mapping.set mapping key value = mapping ++ [(key, value)] := by
  induction mapping with
  | nil => rfl
  | cons entry rest ih =>
    rw [List.map_cons, List.mem_cons, not_or] at absent
    rw [Mapping.set, if_neg (Ne.symm absent.1), ih absent.2, List.cons_append]

/-- With distinct keys the loop puts every key behind those before it. -/
theorem foldl_set_eq_nested (distinct : (grid.map Prod.fst).Nodup) (bases : List Mapping)
    (apart : ∀ base ∈ bases, ∀ key ∈ grid.map Prod.fst, key ∉ base.map Prod.fst) :
    grid.foldl (fun results entry => results.flatMap fun base =>
        (valuesOf entry.2).map fun value => Mapping.set base entry.1 value) bases =
      nested bases (grid.map fun entry => (entry.1, valuesOf entry.2)) := by
  induction grid generalizing bases with
  | nil => rfl
  | cons entry rest ih =>
    obtain ⟨fresh, distinct⟩ := List.nodup_cons.mp distinct
    have grown : (bases.flatMap fun base =>
          (valuesOf entry.2).map fun value => Mapping.set base entry.1 value) =
        bases.flatMap fun base =>
          (valuesOf entry.2).map fun value => base ++ [(entry.1, value)] := by
      refine List.flatMap_congr fun base member => ?_
      have absent := apart base member entry.1 List.mem_cons_self
      exact List.map_congr_left fun value _ => set_of_absent absent value
    rw [List.foldl_cons, grown, ih distinct]
    · rfl
    · intro base member key later inBase
      obtain ⟨earlier, among, added⟩ := List.mem_flatMap.mp member
      obtain ⟨value, -, rfl⟩ := List.mem_map.mp added
      rw [List.map_append, List.mem_append] at inBase
      cases inBase with
      | inl before => exact apart earlier among key (List.mem_cons_of_mem _ later) before
      | inr last =>
        obtain rfl := List.mem_singleton.mp last
        exact fresh later

theorem expandGrid_eq (distinct : (grid.map Prod.fst).Nodup) :
    expandGrid grid = (choices (grid.map fun entry => valuesOf entry.2)).map
      fun combo => (grid.map Prod.fst).zip combo := by
  rw [expandGrid, foldl_set_eq_nested distinct [[]] (by simp), nested_eq]
  simp [List.map_map, Function.comp_def]

/-- The parameters give every key of the grid, in the order of the grid, one of its values. -/
def Assigns (grid params : Mapping) : Prop :=
  List.Forall₂ (fun param entry => param.1 = entry.1 ∧ param.2 ∈ valuesOf entry.2) params grid

theorem assigns_iff {params : Mapping} : Assigns grid params ↔
    ∃ combo, List.Forall₂ (fun value values => value ∈ values) combo
        (grid.map fun entry => valuesOf entry.2) ∧ (grid.map Prod.fst).zip combo = params := by
  induction grid generalizing params with
  | nil =>
    constructor
    · intro assigned
      obtain rfl := List.forall₂_nil_right_iff.mp assigned
      exact ⟨[], .nil, rfl⟩
    · rintro ⟨combo, -, rfl⟩
      exact .nil
  | cons entry rest ih =>
    constructor
    · intro assigned
      obtain ⟨param, params, ⟨key, value⟩, later, rfl⟩ := List.forall₂_cons_right_iff.mp assigned
      obtain ⟨combo, chosen, rfl⟩ := ih.mp later
      exact ⟨param.2 :: combo, .cons value chosen, by simp [← key]⟩
    · rintro ⟨combo, chosen, rfl⟩
      obtain ⟨value, combo, member, later, rfl⟩ := List.forall₂_cons_right_iff.mp chosen
      exact .cons ⟨rfl, member⟩ (ih.mpr ⟨combo, later, rfl⟩)

theorem mem_expandGrid_iff (distinct : (grid.map Prod.fst).Nodup) {params : Mapping} :
    params ∈ expandGrid grid ↔ Assigns grid params := by
  rw [expandGrid_eq distinct, List.mem_map, assigns_iff]
  simp only [mem_choices_iff]

/-- A grid is expanded into every assignment of its values to its keys, as many as there are
choices, in the order in which nested loops over the keys take the values. -/
theorem expandGrid_exact (distinct : (grid.map Prod.fst).Nodup) :
    (∀ params, params ∈ expandGrid grid ↔ Assigns grid params) ∧
      (expandGrid grid).length = (grid.map fun entry => (valuesOf entry.2).length).prod ∧
        ∀ before : Value → Value → Prop,
          (∀ entry ∈ grid, (valuesOf entry.2).Pairwise before) →
            ((expandGrid grid).map fun params => params.map Prod.snd).Pairwise
              (List.Lex before) := by
  refine ⟨fun params => mem_expandGrid_iff distinct, ?_, fun before ordered => ?_⟩
  · rw [expandGrid_eq distinct, List.length_map, length_choices, List.map_map]
    rfl
  · have values : (expandGrid grid).map (fun params => params.map Prod.snd) =
        choices (grid.map fun entry => valuesOf entry.2) := by
      rw [expandGrid_eq distinct, List.map_map]
      refine (List.map_congr_left fun combo member => ?_).trans (List.map_id _)
      have size := (mem_choices_iff.mp member).length_eq
      rw [List.length_map] at size
      exact List.map_snd_zip (by rw [List.length_map, size])
    rw [values]
    refine pairwise_choices fun values member => ?_
    obtain ⟨entry, inGrid, rfl⟩ := List.mem_map.mp member
    exact ordered entry inGrid

end Grids

def channelGrid : Mapping :=
  [("lookback", .list [.int 20, .int 55]), ("exit", .str "close"),
    ("atr", .list [.int 14, .int 21])]

theorem expandGrid_channelGrid :
    (∀ params, params ∈ expandGrid channelGrid ↔ Assigns channelGrid params) ∧
      (expandGrid channelGrid).length = 4 :=
  have exact := @expandGrid_exact channelGrid (by decide)
  ⟨exact.1, exact.2.1⟩

/-! ## Run ids -/

/-- `format(number, "0{width}x")` for a number that is no wider. -/
def hexText : Nat → Nat → List Char
  | 0, _ => []
  | width + 1, number => hexText width (number / 16) ++ [Json.hexDigit (number % 16)]

/-- `str(uuid.UUID(int=value))`. -/
def uuidText (value : Nat) : List Char :=
  let hex := hexText 32 value
  hex.take 8 ++ '-' :: ((hex.drop 8).take 4 ++ '-' :: ((hex.drop 12).take 4 ++
    '-' :: ((hex.drop 16).take 4 ++ '-' :: hex.drop 20)))

/-- A reading of the clock in milliseconds, and the bits that are drawn. -/
structure Draw where
  tsMs : Nat
  randA : Fin 4096
  randB : Fin 4611686018427387904
deriving Repr, DecidableEq

def Draw.value (draw : Draw) : Nat :=
  (draw.tsMs &&& (1 <<< 48 - 1)) <<< 80 ||| 0x7 <<< 76 ||| draw.randA.val <<< 64 |||
    0b10 <<< 62 ||| draw.randB.val

def uuid7 (draw : Draw) : String := String.ofList (uuidText draw.value)

section Ids

theorem length_hexText (width number : Nat) : (hexText width number).length = width := by
  induction width generalizing number with
  | zero => rfl
  | succ width ih => rw [hexText, List.length_append, ih, List.length_singleton]

theorem hexText_add (left right number : Nat) :
    hexText (left + right) number = hexText left (number / 16 ^ right) ++ hexText right number := by
  induction right generalizing number with
  | zero => simp [hexText]
  | succ right ih =>
    rw [← Nat.add_assoc, hexText, ih, hexText, List.append_assoc, Nat.div_div_eq_div_mul,
      Nat.pow_succ']

theorem hexText_mod (width number : Nat) :
    hexText width (number % 16 ^ width) = hexText width number := by
  induction width generalizing number with
  | zero => rfl
  | succ width ih =>
    have high : number % 16 ^ (width + 1) / 16 = number / 16 % 16 ^ width := by
      rw [Nat.pow_succ', Nat.mod_mul_right_div_self]
    have low : number % 16 ^ (width + 1) % 16 = number % 16 := by
      rw [Nat.pow_succ', Nat.mod_mul_right_mod]
    rw [hexText, high, low, ih, hexText]

theorem hexDigit_lt {left right : Nat} (digit : right < 16) (less : left < right) :
    Json.hexDigit left < Json.hexDigit right := by
  have every : ∀ right < 16, ∀ left < right, Json.hexDigit left < Json.hexDigit right := by decide
  exact every right digit left less

theorem hexText_lt {width left right : Nat} (fits : right < 16 ^ width) (less : left < right)
    (first second : List Char) : hexText width left ++ first < hexText width right ++ second := by
  induction width generalizing left right first second with
  | zero => omega
  | succ width ih =>
    rw [hexText, hexText, List.append_assoc, List.append_assoc]
    rcases Nat.lt_or_ge (left / 16) (right / 16) with leading | leading
    · exact ih (by omega) leading _ _
    · have same : left / 16 = right / 16 := by omega
      rw [same]
      refine List.append_left_lt (List.cons_lt_cons_iff.mpr (.inl ?_))
      exact hexDigit_lt (Nat.mod_lt _ (by decide)) (by omega)

theorem uuidText_eq (value : Nat) : uuidText value =
    hexText 8 (value / 16 ^ 24) ++ '-' :: (hexText 4 (value / 16 ^ 20) ++
      '-' :: (hexText 4 (value / 16 ^ 16) ++ '-' :: (hexText 4 (value / 16 ^ 12) ++
        '-' :: hexText 12 value))) := by
  have split : hexText 32 value = hexText 8 (value / 16 ^ 24) ++ (hexText 4 (value / 16 ^ 20) ++
      (hexText 4 (value / 16 ^ 16) ++ (hexText 4 (value / 16 ^ 12) ++ hexText 12 value))) := by
    rw [← hexText_add 4 12, ← hexText_add 4 16, ← hexText_add 4 20, ← hexText_add 8 24]
  have sizes := length_hexText
  unfold uuidText
  simp only [split]
  simp [List.drop_append, List.drop_eq_nil_of_le, sizes]

theorem hexText_inj {width left right : Nat} (fitsLeft : left < 16 ^ width)
    (fitsRight : right < 16 ^ width) (same : hexText width left = hexText width right) :
    left = right := by
  rcases lt_trichotomy left right with less | equal | greater
  · have before := hexText_lt fitsRight less [] []
    rw [same] at before
    exact absurd before (List.lt_irrefl _)
  · exact equal
  · have before := hexText_lt fitsLeft greater [] []
    rw [same] at before
    exact absurd before (List.lt_irrefl _)

theorem uuidText_inj {left right : Nat} (fitsLeft : left < 16 ^ 32) (fitsRight : right < 16 ^ 32)
    (same : uuidText left = uuidText right) : left = right := by
  have size : ∀ width (first second : Nat), (hexText width first).length =
      (hexText width second).length :=
    fun width first second => (length_hexText width first).trans (length_hexText width second).symm
  rw [uuidText_eq, uuidText_eq] at same
  obtain ⟨first, same⟩ := List.append_inj same (size 8 _ _)
  obtain ⟨second, same⟩ := List.append_inj (List.cons.inj same).2 (size 4 _ _)
  obtain ⟨third, same⟩ := List.append_inj (List.cons.inj same).2 (size 4 _ _)
  obtain ⟨fourth, same⟩ := List.append_inj (List.cons.inj same).2 (size 4 _ _)
  have fifth := (List.cons.inj same).2
  refine hexText_inj fitsLeft fitsRight ?_
  rw [show 32 = 8 + 24 from rfl, hexText_add, hexText_add, first, show 24 = 4 + 20 from rfl,
    hexText_add, hexText_add, second, show 20 = 4 + 16 from rfl, hexText_add, hexText_add, third,
    show 16 = 4 + 12 from rfl, hexText_add, hexText_add, fourth, fifth]

/-- The time is above the version, the first bits that are drawn, the variant and the other bits. -/
theorem Draw.value_eq (draw : Draw) : draw.value =
    (((draw.tsMs % 2 ^ 48 * 16 + 7) * 4096 + draw.randA.val) * 4 + 2) * 2 ^ 62 +
      draw.randB.val := by
  have time : draw.tsMs &&& (1 <<< 48 - 1) = draw.tsMs % 2 ^ 48 :=
    Nat.and_two_pow_sub_one_eq_mod _ 48
  have small := draw.randA.isLt
  have smaller := draw.randB.isLt
  rw [Draw.value, time]
  generalize draw.tsMs % 2 ^ 48 = ts
  have version : ts <<< 80 ||| 0x7 <<< 76 = (ts * 16 + 7) <<< 76 := by
    rw [← Nat.shiftLeft_add_eq_or_of_lt (by decide)]
    simp only [Nat.shiftLeft_eq]
    omega
  have first : (ts * 16 + 7) <<< 76 ||| draw.randA.val <<< 64 =
      ((ts * 16 + 7) * 4096 + draw.randA.val) <<< 64 := by
    rw [← Nat.shiftLeft_add_eq_or_of_lt (by rw [Nat.shiftLeft_eq]; omega)]
    simp only [Nat.shiftLeft_eq]
    omega
  have layout : ((ts * 16 + 7) * 4096 + draw.randA.val) <<< 64 ||| 0b10 <<< 62 =
      (((ts * 16 + 7) * 4096 + draw.randA.val) * 4 + 2) <<< 62 := by
    rw [← Nat.shiftLeft_add_eq_or_of_lt (by decide)]
    simp only [Nat.shiftLeft_eq]
    omega
  rw [version, first, layout, ← Nat.shiftLeft_add_eq_or_of_lt smaller, Nat.shiftLeft_eq]

theorem Draw.value_lt (draw : Draw) : draw.value < 16 ^ 32 := by
  have time := Nat.mod_lt draw.tsMs (show 0 < 2 ^ 48 by decide)
  have small := draw.randA.isLt
  have smaller := draw.randB.isLt
  rw [draw.value_eq]
  omega

theorem getElem?_group {count width number : Nat} {text : List Char} (sized : text.length = count)
    (rest : List Char) : (text ++ '-' :: (hexText (width + 1) number ++ rest))[count + 1]? =
      some (Json.hexDigit (number / 16 ^ width % 16)) := by
  have front : hexText (1 + width) number =
      Json.hexDigit (number / 16 ^ width % 16) :: hexText width number := by
    rw [hexText_add]
    rfl
  rw [List.getElem?_append_right (by omega), sized, Nat.add_sub_cancel_left, Nat.add_comm width,
    front]
  rfl

theorem uuidText_lt {first second : Draw} (earlier : first.tsMs % 2 ^ 48 < second.tsMs % 2 ^ 48) :
    uuidText first.value < uuidText second.value := by
  have smallFirst := first.randA.isLt
  have smallerFirst := first.randB.isLt
  have smallSecond := second.randA.isLt
  have smallerSecond := second.randB.isLt
  have within := Nat.mod_lt second.tsMs (show 0 < 2 ^ 48 by decide)
  rw [uuidText_eq, uuidText_eq, first.value_eq, second.value_eq]
  generalize first.tsMs % 2 ^ 48 = before at *
  generalize second.tsMs % 2 ^ 48 = behind at *
  rcases Nat.lt_or_ge (before / 65536) (behind / 65536) with high | high
  · exact hexText_lt (by omega) (by omega) _ _
  · have same : ((((before * 16 + 7) * 4096 + first.randA.val) * 4 + 2) * 2 ^ 62 +
          first.randB.val) / 16 ^ 24 =
        ((((behind * 16 + 7) * 4096 + second.randA.val) * 4 + 2) * 2 ^ 62 +
          second.randB.val) / 16 ^ 24 := by omega
    rw [same]
    refine List.append_left_lt (List.cons_lt_cons_iff.mpr (.inr ⟨rfl, ?_⟩))
    rw [← hexText_mod 4, ← hexText_mod 4 (_ / 16 ^ 20)]
    exact hexText_lt (Nat.mod_lt _ (by decide)) (by omega) _ _

/-- Ids tell the milliseconds and all bits that are drawn, they are in the order of the
milliseconds as texts, and each shows its version and variant. -/
theorem uuid7_ids (first second : Draw) :
    (uuid7 first = uuid7 second ↔ first.tsMs % 2 ^ 48 = second.tsMs % 2 ^ 48 ∧
        first.randA = second.randA ∧ first.randB = second.randB) ∧
      (first.tsMs % 2 ^ 48 < second.tsMs % 2 ^ 48 → (uuid7 first).toList < (uuid7 second).toList) ∧
        (uuid7 first).toList[14]? = some '7' ∧
          ∃ variant ∈ ['8', '9', 'a', 'b'], (uuid7 first).toList[19]? = some variant := by
  have smallFirst := first.randA.isLt
  have smallerFirst := first.randB.isLt
  have smallSecond := second.randA.isLt
  have smallerSecond := second.randB.isLt
  refine ⟨⟨fun same => ?_, fun same => ?_⟩, fun earlier => ?_, ?_, ?_⟩
  · have equal := uuidText_inj first.value_lt second.value_lt (String.ofList_injective same)
    rw [first.value_eq, second.value_eq] at equal
    exact ⟨by omega, Fin.ext (by omega), Fin.ext (by omega)⟩
  · have equal : first.value = second.value := by
      rw [first.value_eq, second.value_eq, same.1, same.2.1, same.2.2]
    rw [uuid7, uuid7, equal]
  · rw [uuid7, uuid7, String.toList_ofList, String.toList_ofList]
    exact uuidText_lt earlier
  · rw [uuid7, String.toList_ofList, uuidText_eq, ← List.cons_append, ← List.append_assoc,
      getElem?_group (by simp [length_hexText]), first.value_eq]
    have digit : ((((first.tsMs % 2 ^ 48 * 16 + 7) * 4096 + first.randA.val) * 4 + 2) * 2 ^ 62 +
        first.randB.val) / 16 ^ 16 / 16 ^ 3 % 16 = 7 := by omega
    rw [digit]
    rfl
  · rw [uuid7, String.toList_ofList, uuidText_eq, ← List.cons_append, ← List.append_assoc,
      ← List.cons_append, ← List.append_assoc, getElem?_group (by simp [length_hexText]),
      first.value_eq]
    have digit : ((((first.tsMs % 2 ^ 48 * 16 + 7) * 4096 + first.randA.val) * 4 + 2) * 2 ^ 62 +
        first.randB.val) / 16 ^ 12 / 16 ^ 3 % 16 = 8 + first.randB.val / 2 ^ 60 := by omega
    rw [digit]
    have top : first.randB.val / 2 ^ 60 < 4 := by omega
    have every : ∀ bits < 4, Json.hexDigit (8 + bits) ∈ ['8', '9', 'a', 'b'] := by decide
    exact ⟨_, every _ top, rfl⟩

end Ids

/-! ## The queue -/

/-- What `_load_payload` finds. -/
inductive SweepConfig where
  | missing
  | invalid
  | loaded (payload : Value)

/-- The ids of the reservations, and the clock as it is read for each, come from outside. -/
structure Call where
  experimentId : String
  config : SweepConfig
  draws : Nat → Draw × UtcTime

def sweepMethod (payload : Mapping) : String := textField payload "method" "grid"

def reserve (call : Call) (payload : Mapping) (params : Mapping × Nat) : SweepReservation where
  runId := uuid7 (call.draws params.2).1
  experimentId := call.experimentId
  sweepMethod := sweepMethod payload
  parameters := params.1
  status := "queued"
  createdAt := (call.draws params.2).2.wholeSecond.isoText

def plan (call : Call) : Except ScheduleError (List SweepReservation) :=
  match call.config with
  | .missing => .error .sweepConfigMissing
  | .invalid => .error .invalidSweepConfig
  | .loaded (.map payload) => .ok ((expandSweep payload).zipIdx.map (reserve call payload))
  | .loaded _ => .error (.python .attributeError)

def appendQueue (queue : List Char) (reservations : List SweepReservation) : List Char :=
  reservations.foldl (fun content reservation => appendLine content reservation.toDict) queue

/-- What a call returns or raises, and the queue it leaves. -/
def schedule (queue : List Char) (call : Call) :
    Except ScheduleError (List SweepReservation) × List Char :=
  match plan call with
  | .error error => (.error error, queue)
  | .ok reservations => (.ok reservations, appendQueue queue reservations)

def after (queue : List Char) (call : Call) : List Char := (schedule queue call).2

def readReservation : Value → Except PyError SweepReservation
  | .map payload => do
      let parameters ← dictOf (orValue (field payload "parameters") (.map []))
      return {
        runId := textField payload "run_id" ""
        experimentId := textField payload "experiment_id" ""
        sweepMethod := textField payload "sweep_method" "grid"
        parameters
        status := textField payload "status" "queued"
        createdAt := textField payload "created_at" "" }
  | _ => .error .attributeError

def listQueue (queue : List Char) : Except PyError (List SweepReservation) :=
  tryMap readReservation (readLines id queue)

/-- What the calls that go through have reserved. -/
def reserved (calls : List Call) : List SweepReservation :=
  calls.flatMap fun call => (plan call).toOption.getD []

/-- No text or key has a line break that a document does not escape. -/
def Plain (chars : List Char) : Prop := ∀ char ∈ chars, char ∉ foreignBreaks

/-- A sweep that is loaded is well formed, and the texts that are put on the queue are plain. -/
structure Call.Plain (call : Call) : Prop where
  experimentId : Sweeps.Plain call.experimentId.toList
  config : ∀ payload, call.config = .loaded (.map payload) →
    Json.WellFormed (.map payload) ∧ Sweeps.Plain (Json.chars (.map payload)) ∧
      Sweeps.Plain (sweepMethod payload).toList

section Queue

theorem wellFormedEntries_iff {entries : Mapping} :
    Json.WellFormedEntries entries ↔ ∀ entry ∈ entries, Json.WellFormed entry.2 := by
  induction entries with
  | nil => simp [Json.WellFormedEntries]
  | cons entry rest ih => simp [Json.WellFormedEntries, ih]

theorem wellFormedItems_iff {items : List Value} :
    Json.WellFormedItems items ↔ ∀ item ∈ items, Json.WellFormed item := by
  induction items with
  | nil => simp [Json.WellFormedItems]
  | cons item rest ih => simp [Json.WellFormedItems, ih]

/-- What can be put on the queue and read back. -/
structure Fit (params : Mapping) : Prop where
  wellFormed : Json.WellFormed (.map params)
  plain : Plain (Json.chars (.map params))

theorem fit_value {payload : Mapping} (fit : Fit payload) {key : String} {value : Value}
    (found : payload.get? key = some value) :
    Json.WellFormed value ∧ Plain (Json.chars value) := by
  have member := Json.mem_of_get? found
  refine ⟨wellFormedEntries_iff.mp fit.wellFormed.2 _ member, fun char inside => ?_⟩
  exact fit.plain char (mem_entryChars_iff.mpr ⟨_, member, .inr inside⟩)

theorem fit_valuesOf {value : Value} (wellFormed : Json.WellFormed value)
    (plain : Plain (Json.chars value)) :
    ∀ item ∈ valuesOf value, Json.WellFormed item ∧ Plain (Json.chars item) := by
  intro item member
  cases value with
  | list items =>
    refine ⟨wellFormedItems_iff.mp wellFormed item member, fun char inside => ?_⟩
    exact plain char (mem_itemChars_iff.mpr ⟨item, member, inside⟩)
  | null | bool _ | int _ | float _ _ | str _ | map _ =>
    obtain rfl := List.mem_singleton.mp member
    exact ⟨wellFormed, plain⟩

theorem fit_expandGrid {grid params : Mapping} (fit : Fit grid)
    (member : params ∈ expandGrid grid) :
    Fit params := by
  have assigned := (mem_expandGrid_iff fit.wellFormed.1).mp member
  have keys : params.map Prod.fst = grid.map Prod.fst :=
    List.forall₂_eq_eq_eq ▸ (List.forall₂_map_left_iff.mpr (List.forall₂_map_right_iff.mpr
      (assigned.imp fun _ _ same => same.1)))
  have values : ∀ param ∈ params, ∃ entry ∈ grid, param.1 = entry.1 ∧
      param.2 ∈ valuesOf entry.2 := by
    intro param among
    obtain ⟨index, within, rfl⟩ := List.mem_iff_getElem.mp among
    have size := assigned.length_eq
    exact ⟨grid[index], List.getElem_mem _, List.forall₂_iff_get.mp assigned |>.2 index within
      (size ▸ within)⟩
  constructor
  · refine ⟨keys ▸ fit.wellFormed.1, wellFormedEntries_iff.mpr fun param among => ?_⟩
    obtain ⟨entry, inGrid, -, chosen⟩ := values param among
    have plain : Plain (Json.chars entry.2) := fun char inside =>
      fit.plain char (mem_entryChars_iff.mpr ⟨entry, inGrid, .inr inside⟩)
    exact (fit_valuesOf (wellFormedEntries_iff.mp fit.wellFormed.2 entry inGrid) plain _ chosen).1
  · intro char inside
    obtain ⟨param, among, inParam⟩ := mem_entryChars_iff.mp inside
    obtain ⟨entry, inGrid, same, chosen⟩ := values param among
    have plain : Plain (Json.chars entry.2) := fun char inside =>
      fit.plain char (mem_entryChars_iff.mpr ⟨entry, inGrid, .inr inside⟩)
    cases inParam with
    | inl inKey =>
      rw [same] at inKey
      exact fit.plain char (mem_entryChars_iff.mpr ⟨entry, inGrid, .inl inKey⟩)
    | inr inValue =>
      exact (fit_valuesOf (wellFormedEntries_iff.mp fit.wellFormed.2 entry inGrid) plain _
        chosen).2 char inValue

theorem fit_expandSweep {payload params : Mapping} (fit : Fit payload)
    (member : params ∈ expandSweep payload) : Fit params := by
  have nothing : Fit [] :=
    ⟨⟨List.nodup_nil, trivial⟩, fun char inside => absurd inside List.not_mem_nil⟩
  unfold expandSweep at member
  split at member
  · rename_i items found
    obtain ⟨item, inItems, mapped⟩ := List.mem_filterMap.mp member
    obtain ⟨wellFormed, plain⟩ := fit_value fit found
    cases item with
    | map entries =>
      obtain rfl := Option.some.inj mapped
      refine ⟨wellFormedItems_iff.mp wellFormed _ inItems, fun char inside => ?_⟩
      exact plain char (mem_itemChars_iff.mpr ⟨_, inItems, inside⟩)
    | null | bool _ | int _ | float _ _ | str _ | list _ => cases mapped
  · split at member
    · rename_i grid found
      obtain ⟨wellFormed, plain⟩ := fit_value fit found
      exact fit_expandGrid ⟨wellFormed, plain⟩ member
    · obtain rfl := List.mem_singleton.mp member
      exact nothing

theorem sweepMethod_ne_empty {payload : Mapping} (wellFormed : Json.WellFormed (.map payload)) :
    sweepMethod payload ≠ "" := by
  rw [sweepMethod, textField, orValue]
  split
  · rename_i truth
    refine Json.text_of_truth ?_ truth
    unfold field
    cases found : payload.get? "method" with
    | none => trivial
    | some value => exact wellFormedEntries_iff.mp wellFormed.2 _ (Json.mem_of_get? found)
  · decide

theorem textField_str {payload : Mapping} {key text default : String}
    (found : payload.get? key = some (.str text)) (given : text ≠ "" ∨ default = "") :
    textField payload key default = text := by
  rw [textField, field, found, Option.getD_some, orValue]
  split
  · rfl
  · rename_i empty
    have none : text = "" := by simpa [Value.truth] using empty
    rw [none]
    exact given.resolve_left fun present => present none

/-- A reservation is read back from its document. -/
theorem readReservation_toDict {reservation : SweepReservation}
    (method : reservation.sweepMethod ≠ "") (status : reservation.status ≠ "") :
    readReservation (.map reservation.toDict) = .ok reservation := by
  have parameters : dictOf (orValue (field reservation.toDict "parameters") (.map [])) =
      .ok reservation.parameters := by
    have found : field reservation.toDict "parameters" = .map reservation.parameters := rfl
    rw [found, orValue]
    split
    · rfl
    · rename_i empty
      have none : reservation.parameters = [] := by simpa [Value.truth] using empty
      rw [none]
      rfl
  rw [readReservation, parameters]
  have runId : textField reservation.toDict "run_id" "" = reservation.runId :=
    textField_str rfl (.inr rfl)
  have experimentId : textField reservation.toDict "experiment_id" "" = reservation.experimentId :=
    textField_str rfl (.inr rfl)
  have sweepMethod : textField reservation.toDict "sweep_method" "grid" = reservation.sweepMethod :=
    textField_str rfl (.inl method)
  have queued : textField reservation.toDict "status" "queued" = reservation.status :=
    textField_str rfl (.inl status)
  have createdAt : textField reservation.toDict "created_at" "" = reservation.createdAt :=
    textField_str rfl (.inr rfl)
  simp only [bind, Except.bind, pure, Except.pure, runId, experimentId, sweepMethod, queued,
    createdAt]

theorem low_hexText {width number : Nat} {char : Char} (member : char ∈ hexText width number) :
    char.toNat < 128 := by
  induction width generalizing number with
  | zero => cases member
  | succ width ih =>
    cases List.mem_append.mp member with
    | inl leading => exact ih leading
    | inr last =>
      obtain rfl := List.mem_singleton.mp last
      have printable := Json.printable_hexDigit (Nat.mod_lt number (show 0 < 16 by decide))
      exact lt_trans printable.2 (by decide)

theorem plain_uuid7 (draw : Draw) : Plain (uuid7 draw).toList := by
  refine plainText_of_low fun char member => ?_
  rw [uuid7, String.toList_ofList, uuidText_eq] at member
  simp only [List.mem_append, List.mem_cons] at member
  rcases member with group | rfl | group | rfl | group | rfl | group | rfl | group
  · exact low_hexText group
  · decide
  · exact low_hexText group
  · decide
  · exact low_hexText group
  · decide
  · exact low_hexText group
  · decide
  · exact low_hexText group

theorem plain_toDict {reservation : SweepReservation} (runId : Plain reservation.runId.toList)
    (experimentId : Plain reservation.experimentId.toList)
    (sweepMethod : Plain reservation.sweepMethod.toList)
    (parameters : Plain (Json.chars (.map reservation.parameters)))
    (status : Plain reservation.status.toList) (createdAt : Plain reservation.createdAt.toList) :
    Plain (Json.chars (.map reservation.toDict)) := by
  refine plainText_payload (rfl : _ = ["run_id", "experiment_id", "sweep_method", "parameters",
    "status", "created_at"]) (by decide) ?_
  simp only [SweepReservation.toDict, List.forall_mem_cons]
  exact ⟨runId, experimentId, sweepMethod, parameters, status, createdAt,
    fun _ member => absurd member List.not_mem_nil⟩

theorem reserved_fit {call : Call} (plain : call.Plain) {reservation : SweepReservation}
    (member : reservation ∈ (plan call).toOption.getD []) :
    Fit reservation.toDict ∧ reservation.sweepMethod ≠ "" ∧ reservation.status ≠ "" := by
  unfold plan at member
  split at member
  · cases member
  · cases member
  · rename_i payload loaded
    obtain ⟨wellFormed, plainPayload, plainMethod⟩ := plain.config payload loaded
    obtain ⟨⟨params, index⟩, inSweep, rfl⟩ := List.mem_map.mp member
    have expanded : params ∈ expandSweep payload := List.fst_mem_of_mem_zipIdx inSweep
    have fit := fit_expandSweep ⟨wellFormed, plainPayload⟩ expanded
    have distinct : ((reserve call payload (params, index)).toDict.map Prod.fst).Nodup := by
      simp [SweepReservation.toDict]
    refine ⟨⟨⟨distinct, trivial, trivial, trivial, fit.wellFormed, trivial, trivial, trivial⟩,
      plain_toDict (plain_uuid7 _) plain.experimentId plainMethod fit.plain ?_
        (plainText_isoText _)⟩,
      sweepMethod_ne_empty wellFormed, by simp [reserve]⟩
    exact (plainText_of_all (by decide) : Plain "queued".toList)
  · cases member

theorem queue_run (queue : List Char) (calls : List Call) : runFrom after queue calls =
    ((reserved calls).map SweepReservation.toDict).foldl appendLine queue := by
  induction calls generalizing queue with
  | nil => rfl
  | cons call calls ih =>
    have split : reserved (call :: calls) = (plan call).toOption.getD [] ++ reserved calls := rfl
    have queued : after queue call = (((plan call).toOption.getD []).map
        SweepReservation.toDict).foldl appendLine queue := by
      rw [after, schedule]
      cases plan call with
      | error error => rfl
      | ok reservations =>
        rw [List.foldl_map]
        rfl
    rw [runFrom, List.foldl_cons, ← runFrom, ih, split, List.map_append, List.foldl_append,
      queued]

/-- What the calls have reserved is listed, in the order in which it was put on the queue. -/
theorem listQueue_run {calls : List Call} (plain : ∀ call ∈ calls, call.Plain) :
    listQueue (runFrom after [] calls) = .ok (reserved calls) := by
  have fits : ∀ reservation ∈ reserved calls,
      Fit reservation.toDict ∧ reservation.sweepMethod ≠ "" ∧ reservation.status ≠ "" := by
    intro reservation member
    obtain ⟨call, among, inCall⟩ := List.mem_flatMap.mp member
    exact reserved_fit (plain call among) inCall
  have written : ∀ payload ∈ (reserved calls).map SweepReservation.toDict,
      Json.WellFormed (.map payload) ∧ PlainText (Json.chars (.map payload)) := by
    intro payload member
    obtain ⟨reservation, among, rfl⟩ := List.mem_map.mp member
    exact ⟨(fits reservation among).1.wellFormed, (fits reservation among).1.plain⟩
  have read := readLines_payloads trims_id written
  rw [queue_run, listQueue, read, List.map_map, tryMap_source]
  refine (tryMap_eq_map fun reservation member => ?_).trans (congrArg _ (List.map_id _))
  exact readReservation_toDict (fits reservation member).2.1 (fits reservation member).2.2

end Queue

def channelCall (config : SweepConfig) : Call where
  experimentId := "EXP-7"
  config
  draws := fun index => ({ tsMs := 1709294400000 + index, randA := 0, randB := 0 },
    { micros := 63844891260000000, covered := by decide })

/-- A sweep is put on the queue, and one whose file is missing is not. -/
theorem listQueue_channelGrid :
    listQueue (runFrom after [] [channelCall (.loaded (.map [("grid", .map channelGrid)])),
        channelCall .missing]) =
      .ok (reserved [channelCall (.loaded (.map [("grid", .map channelGrid)])),
        channelCall .missing]) := by
  refine listQueue_run fun call member => ?_
  rcases List.mem_cons.mp member with rfl | member
  · refine ⟨plainText_of_all (by decide), fun payload loaded => ?_⟩
    obtain rfl := Value.map.inj (SweepConfig.loaded.inj loaded)
    exact ⟨by decide, plainText_of_all (by decide), plainText_of_all (by decide)⟩
  · obtain rfl := List.mem_singleton.mp member
    exact ⟨plainText_of_all (by decide), fun payload loaded => by cases loaded⟩

end FxToushi.Research.Sweeps
