import FxToushi.Brokers.OrderReceipts
import FxToushi.Py.Utf8

namespace FxToushi.Brokers

open Data Py

/-! # Order states in the log

A state is read back from its line as it was recorded, which is written the
same except for an empty schema version.
-/

/-- The state with the default in place of an empty schema version. -/
def OrderState.versioned (state : OrderState) : OrderState :=
  { state with
    schemaVersion := if state.schemaVersion = "" then defaultSchema else state.schemaVersion }

/-- The line that saving writes is one record, and decodes to the state. -/
def Decodes (codec : Codec) (state decoded : OrderState) : Prop :=
  ∃ record, readJsonl codec (document codec state ++ [lineFeed]) = [.map record] ∧
    stateFromPayload record = .ok decoded

/-- The state is read back with the expected record, and then as it is. -/
def SurvivesLog (codec : Codec) (state expected : OrderState) : Prop :=
  ∃ decoded, Decodes codec state decoded ∧ decoded.toDict = expected.toDict ∧
    Decodes codec decoded decoded

/-- The values of the state are JSON. -/
def OrderState.WellFormed (state : OrderState) : Prop := Json.WellFormed (.map state.toDict)

instance (state : OrderState) : Decidable state.WellFormed :=
  Json.decideWellFormed (.map state.toDict)

/-! ## What is recorded -/

theorem RecoveryAction.toDict_recorded (action : RecoveryAction) :
    action.recorded.toDict = action.toDict := rfl

theorem RecoveryPlan.toDict_recorded (plan : RecoveryPlan) :
    plan.recorded.toDict = plan.toDict := by
  rw [RecoveryPlan.toDict, RecoveryPlan.recorded, List.map_map]
  rfl

theorem OrderState.toDict_recorded (state : OrderState) :
    state.recorded.toDict = state.versioned.toDict := by
  rw [OrderState.recorded, OrderState.versioned]
  cases state.recoveryPlan with
  | none => rfl
  | some plan =>
    simp only [OrderState.toDict, Option.map_some, RecoveryPlan.toDict_recorded]

theorem RecoveryPlan.recorded_recorded (plan : RecoveryPlan) :
    plan.recorded.recorded = plan.recorded := by
  rw [RecoveryPlan.recorded, RecoveryPlan.recorded, List.map_map]
  rfl

theorem OrderState.recorded_recorded (state : OrderState) :
    state.recorded.recorded = state.recorded := by
  have plans : (state.recoveryPlan.map RecoveryPlan.recorded).map RecoveryPlan.recorded =
      state.recoveryPlan.map RecoveryPlan.recorded := by
    rw [Option.map_map]
    exact Option.map_congr fun plan _ => plan.recorded_recorded
  by_cases empty : state.schemaVersion = ""
  · have named : defaultSchema ≠ "" := by decide
    simp only [OrderState.recorded, plans, if_pos empty, if_neg named]
  · simp only [OrderState.recorded, plans, if_neg empty]

theorem OrderState.WellFormed.recorded {state : OrderState} (wellFormed : state.WellFormed) :
    state.recorded.WellFormed := by
  rw [OrderState.WellFormed, state.toDict_recorded]
  exact ⟨wellFormed.1, trivial, wellFormed.2.2⟩

/-! ## Reading back -/

section Reading

variable {codec : Codec} {state decoded : OrderState}

theorem decodes_iff (reads : ReadsBack codec OrderState.WellFormed)
    (wellFormed : state.WellFormed) : Decodes codec state decoded ↔ decoded = state.recorded := by
  have line : readJsonl codec (document codec state ++ [lineFeed]) = [.map state.toDict] := by
    have framed : readJsonl codec (frame ([state].map (document codec))) = [state].map asValue :=
      readJsonl_frame reads (by simpa using wellFormed)
    simpa [frame, asValue] using framed
  have read := stateFromPayload_toDict state
  constructor
  · intro decodes
    obtain ⟨record, only, decoded⟩ := decodes
    have records := line.symm.trans only
    obtain rfl := Value.map.inj (List.cons.inj records).1
    exact Except.ok.inj (decoded.symm.trans read)
  · intro same
    exact ⟨state.toDict, line, same ▸ read⟩

/-- An order state survives the log, an empty schema version apart. -/
theorem survivesLog (reads : ReadsBack codec OrderState.WellFormed)
    (wellFormed : state.WellFormed) : SurvivesLog codec state state.versioned := by
  have recorded := wellFormed.recorded
  refine ⟨state.recorded, (decodes_iff reads wellFormed).mpr rfl, state.toDict_recorded, ?_⟩
  rw [decodes_iff reads recorded, state.recorded_recorded]

end Reading

/-! ## The standard library -/

/-- `json.dumps` without escapes, and `json.loads`. -/
def jsonCodec : Codec where
  dumps := fun payload => Utf8.encode (Json.dumps false (.map payload))
  loads := fun line => (Utf8.decode line).bind Json.loads

theorem jsonCodec_loads (line : List UInt8) :
    jsonCodec.loads line = (Utf8.decode line).bind Json.loads := rfl

theorem document_jsonCodec (state : OrderState) :
    document jsonCodec state = Utf8.encode (Json.dumps false (.map state.toDict)) := rfl

theorem jsonCodec_readsBack : ReadsBack jsonCodec OrderState.WellFormed where
  loads := fun state wellFormed => by
    rw [jsonCodec_loads, document_jsonCodec, Utf8.decode_encode, Option.bind_some]
    exact Json.loads_dumps false wellFormed
  plain := fun state wellFormed =>
    Utf8.plain_encode (Json.renders_dumps false _ wellFormed).visible
  visible := fun state _ => by
    have opens : Json.dumps false (.map state.toDict) =
        '\x7b' :: Json.dumpsEntries false state.toDict := rfl
    rw [document_jsonCodec, opens, Utf8.encode_cons_low (by decide), List.all_cons]
    rfl

def pausedOrder : OrderState where
  orderId := "order-1"
  status := "failed"
  lastTransition := "2024-01-02T00:00:00Z"
  attempt := 2
  evidenceHash := "ab12"
  errorCode := .str "timeout"
  recoveryPlan := some {
    orderId := "order-1"
    planId := "plan-1"
    triggerReason := "timeout"
    actions := [
      { code := "retry", label := "重试", parameters := some [("delay", .float (1 / 2) "0.5")] },
      { code := "manual", label := "a \"call\"", requiresManual := true }]
    runbookRef := "RUN-1"
    status := "open"
    notes := [.str "first\nsecond", .null] }

theorem pausedOrder_survivesLog :
    SurvivesLog jsonCodec pausedOrder pausedOrder.versioned :=
  survivesLog jsonCodec_readsBack (by decide +kernel)

def unversionedOrder : OrderState := { pausedOrder with schemaVersion := "" }

/-- An empty schema version is read back as the default. -/
theorem unversionedOrder_changed :
    unversionedOrder.WellFormed ∧ ¬ SurvivesLog jsonCodec unversionedOrder unversionedOrder := by
  have wellFormed : unversionedOrder.WellFormed := by decide +kernel
  refine ⟨wellFormed, fun survives => ?_⟩
  obtain ⟨decoded, decodes, same, -⟩ := survives
  rw [(decodes_iff jsonCodec_readsBack wellFormed).mp decodes] at same
  obtain ⟨version, -⟩ := List.cons.inj same
  exact absurd (Value.str.inj (Prod.mk.inj version).2) (by decide)

end FxToushi.Brokers
