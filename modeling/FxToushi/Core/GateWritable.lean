import FxToushi.Core.GateRoundTrip
import FxToushi.Py.JsonWellFormed

namespace FxToushi.Core.GateDocument

open Data Py

/-! # Writing a gate state

A gate state that was read from a text, and then updated, is written to a text
that loads.
-/

variable {Moment : Type} {iso : IsoFormat Moment}

theorem wellFormed_getOr {data : Mapping} (wellFormed : Json.WellFormedEntries data) (key : String)
    {default : Value} (flat : Json.WellFormed default) :
    Json.WellFormed (getOr data key default) := by
  rw [getOr]
  cases found : data.get? key with
  | none => exact flat
  | some value => exact Json.wellFormed_get? wellFormed found

theorem wellFormed_datetimeToIso (moment : Option Moment) :
    Json.WellFormed (datetimeToIso iso moment) := by
  cases moment <;> exact trivial

theorem mapping?_eq {data : Value} {entries : Mapping} (mapped : data.mapping? = some entries) :
    data = .map entries := by
  cases data with
  | map found => rw [Option.some.inj mapped]
  | _ => cases mapped

theorem NewsGateState.wellFormed_toDict {state : NewsGateState Moment} :
    Json.WellFormed (state.toDict iso) ↔ Json.WellFormed state.reason := by
  simp [NewsGateState.toDict, Json.WellFormed, Json.WellFormedEntries, wellFormed_datetimeToIso]

theorem CalendarGateState.wellFormed_toDict {state : CalendarGateState} :
    Json.WellFormed state.toDict ↔ Json.WellFormed state.reason := by
  simp [CalendarGateState.toDict, Json.WellFormed, Json.WellFormedEntries]

theorem SpreadGateState.wellFormed_toDict {state : SpreadGateState Moment} :
    Json.WellFormed (state.toDict iso) ↔
      Json.WellFormed state.state ∧ Json.WellFormed state.reason := by
  simp [SpreadGateState.toDict, Json.WellFormed, Json.WellFormedEntries, wellFormed_datetimeToIso]

theorem LiquidityGateState.wellFormed_toDict {state : LiquidityGateState Moment} :
    Json.WellFormed (state.toDict iso) ↔
      Json.WellFormed state.state ∧ Json.WellFormed state.recommendation := by
  simp [LiquidityGateState.toDict, Json.WellFormed, Json.WellFormedEntries,
    wellFormed_datetimeToIso]

theorem NewsGateState.wellFormed_of_fromDict {data : Value} {state : NewsGateState Moment}
    (wellFormed : Json.WellFormed data) (read : NewsGateState.fromDict iso data = some state) :
    Json.WellFormed (state.toDict iso) := by
  obtain ⟨entries, mapped, read⟩ := Option.bind_eq_some_iff.mp read
  obtain ⟨blocked, -, read⟩ := Option.bind_eq_some_iff.mp read
  obtain ⟨releaseTs, -, same⟩ := Option.bind_eq_some_iff.mp read
  cases same
  rw [mapping?_eq mapped] at wellFormed
  exact NewsGateState.wellFormed_toDict.mpr (wellFormed_getOr wellFormed.2 _ trivial)

theorem CalendarGateState.wellFormed_of_fromDict {data : Value} {state : CalendarGateState}
    (wellFormed : Json.WellFormed data) (read : CalendarGateState.fromDict data = some state) :
    Json.WellFormed state.toDict := by
  obtain ⟨entries, mapped, read⟩ := Option.bind_eq_some_iff.mp read
  obtain ⟨blocked, -, read⟩ := Option.bind_eq_some_iff.mp read
  obtain ⟨holidayBlock, -, same⟩ := Option.bind_eq_some_iff.mp read
  cases same
  rw [mapping?_eq mapped] at wellFormed
  exact CalendarGateState.wellFormed_toDict.mpr (wellFormed_getOr wellFormed.2 _ trivial)

theorem SpreadGateState.wellFormed_of_fromDict {data : Value} {state : SpreadGateState Moment}
    (wellFormed : Json.WellFormed data) (read : SpreadGateState.fromDict iso data = some state) :
    Json.WellFormed (state.toDict iso) := by
  obtain ⟨entries, mapped, read⟩ := Option.bind_eq_some_iff.mp read
  obtain ⟨word, found, read⟩ := Option.bind_eq_some_iff.mp read
  obtain ⟨cooldownEta, -, same⟩ := Option.bind_eq_some_iff.mp read
  cases same
  rw [mapping?_eq mapped] at wellFormed
  exact SpreadGateState.wellFormed_toDict.mpr
    ⟨Json.wellFormed_get? wellFormed.2 found, wellFormed_getOr wellFormed.2 _ trivial⟩

theorem LiquidityGateState.wellFormed_of_fromDict {data : Value}
    {state : LiquidityGateState Moment} (wellFormed : Json.WellFormed data)
    (read : LiquidityGateState.fromDict iso data = some state) :
    Json.WellFormed (state.toDict iso) := by
  obtain ⟨entries, mapped, read⟩ := Option.bind_eq_some_iff.mp read
  obtain ⟨updatedAt, -, same⟩ := Option.bind_eq_some_iff.mp read
  cases same
  rw [mapping?_eq mapped] at wellFormed
  exact LiquidityGateState.wellFormed_toDict.mpr
    ⟨wellFormed_getOr wellFormed.2 _ trivial, wellFormed_getOr wellFormed.2 _ trivial⟩

theorem RiskGateState.wellFormed_of_fromDict {data : Value} {risk : RiskGateState}
    (wellFormed : Json.WellFormed data) (read : RiskGateState.fromDict data = some risk) :
    Json.WellFormed risk.toDict := by
  obtain ⟨entries, mapped, read⟩ := Option.bind_eq_some_iff.mp read
  obtain ⟨reduceOnly, -, same⟩ := Option.bind_eq_some_iff.mp read
  cases same
  rw [mapping?_eq mapped] at wellFormed
  have field : ∀ key, Json.WellFormed (getOr entries key) :=
    fun key => wellFormed_getOr wellFormed.2 key trivial
  simp [RiskGateState.toDict, Json.WellFormed, Json.WellFormedEntries, field]

theorem wellFormed_texts (texts : List String) : Json.WellFormedItems (texts.map .str) :=
  Json.wellFormedItems_map fun _ _ => trivial

/-- Characters and keys are texts, and the items of a list were in it. -/
theorem wellFormed_iterate {value : Value} {items : List Value} (wellFormed : Json.WellFormed value)
    (iterated : (iterate value).toOption = some items) : Json.WellFormedItems items := by
  cases value with
  | list found =>
    cases iterated
    exact wellFormed
  | str text =>
    cases iterated
    have texts := wellFormed_texts (text.toList.map (fun char => String.ofList [char]))
    rwa [List.map_map] at texts
  | map entries =>
    cases iterated
    have texts := wellFormed_texts (entries.map Prod.fst)
    rwa [List.map_map] at texts
  | null => cases iterated
  | bool value => cases iterated
  | int value => cases iterated
  | float value text => cases iterated

theorem HumanGateState.wellFormed_of_fromDict {data : Value} {human : HumanGateState Moment}
    (wellFormed : Json.WellFormed data) (read : HumanGateState.fromDict iso data = some human) :
    Json.WellFormed (human.toDict iso) := by
  obtain ⟨entries, mapped, read⟩ := Option.bind_eq_some_iff.mp read
  obtain ⟨doubleEntryRequired, -, read⟩ := Option.bind_eq_some_iff.mp read
  obtain ⟨requiredRoles, required, read⟩ := Option.bind_eq_some_iff.mp read
  obtain ⟨acknowledgedRoles, acknowledged, read⟩ := Option.bind_eq_some_iff.mp read
  obtain ⟨manualCommentRequired, -, read⟩ := Option.bind_eq_some_iff.mp read
  obtain ⟨commentMinLength, -, read⟩ := Option.bind_eq_some_iff.mp read
  obtain ⟨ackDeadline, -, same⟩ := Option.bind_eq_some_iff.mp read
  cases same
  rw [mapping?_eq mapped] at wellFormed
  have flat : Json.WellFormed (.list []) := trivial
  have requiredFine := wellFormed_iterate (wellFormed_getOr wellFormed.2 _ flat) required
  have acknowledgedFine := wellFormed_iterate (wellFormed_getOr wellFormed.2 _ flat) acknowledged
  simp [HumanGateState.toDict, Json.WellFormed, Json.WellFormedEntries, wellFormed_datetimeToIso,
    requiredFine, acknowledgedFine]

/-! ## Blocks -/

def GateBlockState.Writable (iso : IsoFormat Moment) (block : GateBlockState Moment) : Prop :=
  Json.WellFormed (.map (block.toEntries iso))

theorem GateBlockState.writable_iff {block : GateBlockState Moment} :
    block.Writable iso ↔ (∀ news ∈ block.news, Json.WellFormed (news.toDict iso)) ∧
      (∀ calendar ∈ block.calendar, Json.WellFormed calendar.toDict) ∧
      ∀ spread ∈ block.spread, Json.WellFormed (spread.toDict iso) := by
  obtain ⟨news, calendar, spread⟩ := block
  cases news <;> cases calendar <;> cases spread <;>
    simp [Writable, toEntries, Json.WellFormed, Json.WellFormedEntries]

theorem ifTrue_some {State : Type} {read : Value → Option State} {value : Value} {state : State}
    (found : GateBlockState.ifTrue read value = some (some state)) : read value = some state := by
  rw [GateBlockState.ifTrue] at found
  split at found
  · obtain ⟨other, readOther, same⟩ := Option.map_eq_some_iff.mp found
    cases same
    exact readOther
  · cases found

theorem GateBlockState.writable_of_fromDict {data : Value} {block : GateBlockState Moment}
    (wellFormed : Json.WellFormed data) (read : GateBlockState.fromDict iso data = some block) :
    block.Writable iso := by
  obtain ⟨entries, mapped, read⟩ := Option.bind_eq_some_iff.mp read
  obtain ⟨news, newsRead, read⟩ := Option.bind_eq_some_iff.mp read
  obtain ⟨calendar, calendarRead, read⟩ := Option.bind_eq_some_iff.mp read
  obtain ⟨spread, spreadRead, same⟩ := Option.bind_eq_some_iff.mp read
  cases same
  rw [mapping?_eq mapped] at wellFormed
  have field : ∀ key, Json.WellFormed (getOr entries key) :=
    fun key => wellFormed_getOr wellFormed.2 key trivial
  refine writable_iff.mpr ⟨?_, ?_, ?_⟩
  · intro state member
    have same : news = some state := member
    rw [same] at newsRead
    exact NewsGateState.wellFormed_of_fromDict (field "news") (ifTrue_some newsRead)
  · intro state member
    have same : calendar = some state := member
    rw [same] at calendarRead
    exact CalendarGateState.wellFormed_of_fromDict (field "calendar") (ifTrue_some calendarRead)
  · intro state member
    have same : spread = some state := member
    rw [same] at spreadRead
    exact SpreadGateState.wellFormed_of_fromDict (field "spread") (ifTrue_some spreadRead)

theorem writable_of_blocksFrom {entries : Mapping} {blocks : List (String × GateBlockState Moment)}
    (wellFormed : Json.WellFormedEntries entries)
    (read : MarketGateState.blocksFrom iso entries = some blocks) :
    ∀ entry ∈ blocks, entry.2.Writable iso := by
  induction entries generalizing blocks with
  | nil =>
    cases read
    simp
  | cons entry rest ih =>
    obtain ⟨first, later, readFirst, readLater, rfl⟩ := blocksFrom_cons read
    rw [List.forall_mem_cons]
    exact ⟨GateBlockState.writable_of_fromDict wellFormed.1 readFirst, ih wellFormed.2 readLater⟩

theorem wellFormed_entries {entries : Mapping} (distinct : (entries.map Prod.fst).Nodup)
    (values : ∀ entry ∈ entries, Json.WellFormed entry.2) : Json.WellFormed (.map entries) := by
  refine ⟨distinct, ?_⟩
  clear distinct
  induction entries with
  | nil => trivial
  | cons entry rest ih =>
    rw [List.forall_mem_cons] at values
    exact ⟨values.1, ih values.2⟩

/-! ## The whole state -/

/-- What makes a gate state a JSON document. -/
structure GateState.Writable (iso : IsoFormat Moment) (gate : GateState Moment) : Prop where
  news : Json.WellFormed (gate.market.news.toDict iso)
  calendar : Json.WellFormed gate.market.calendar.toDict
  spread : Json.WellFormed (gate.market.spread.toDict iso)
  liquidity : Json.WellFormed (gate.market.liquidity.toDict iso)
  latencyDataStatus : Json.WellFormed gate.market.latencyDataStatus
  slippageDataStatus : Json.WellFormed gate.market.slippageDataStatus
  profitReadinessStatus : Json.WellFormed gate.market.profitReadinessStatus
  distinct : (gate.market.perSymbol.map Prod.fst).Nodup
  perSymbol : ∀ entry ∈ gate.market.perSymbol, entry.2.Writable iso
  risk : Json.WellFormed gate.risk.toDict
  human : Json.WellFormed (gate.human.toDict iso)
  cfgHash : Json.WellFormed gate.cfgHash
  dataHash : Json.WellFormed gate.dataHash
  schemaVersion : Json.WellFormed gate.schemaVersion

theorem writable_default : (GateState.default : GateState Moment).Writable iso where
  news := NewsGateState.wellFormed_toDict.mpr trivial
  calendar := CalendarGateState.wellFormed_toDict.mpr trivial
  spread := SpreadGateState.wellFormed_toDict.mpr ⟨trivial, trivial⟩
  liquidity := LiquidityGateState.wellFormed_toDict.mpr ⟨trivial, trivial⟩
  latencyDataStatus := trivial
  slippageDataStatus := trivial
  profitReadinessStatus := trivial
  distinct := List.nodup_nil
  perSymbol := by simp [GateState.default, MarketGateState.default]
  risk := by simp [GateState.default, RiskGateState.default, RiskGateState.toDict, Json.WellFormed,
    Json.WellFormedEntries]
  human := by simp [GateState.default, HumanGateState.default, HumanGateState.toDict,
    Json.WellFormed, Json.WellFormedEntries, Json.WellFormedItems, datetimeToIso]
  cfgHash := trivial
  dataHash := trivial
  schemaVersion := trivial

theorem MarketGateState.wellFormed_toDict {market : MarketGateState Moment}
    (news : Json.WellFormed (market.news.toDict iso))
    (calendar : Json.WellFormed market.calendar.toDict)
    (spread : Json.WellFormed (market.spread.toDict iso))
    (liquidity : Json.WellFormed (market.liquidity.toDict iso))
    (latency : Json.WellFormed market.latencyDataStatus)
    (slippage : Json.WellFormed market.slippageDataStatus)
    (readiness : Json.WellFormed market.profitReadinessStatus)
    (distinct : (market.perSymbol.map Prod.fst).Nodup)
    (perSymbol : ∀ entry ∈ market.perSymbol, entry.2.Writable iso) :
    Json.WellFormed (market.toDict iso) := by
  have blocks : Json.WellFormed (.map (perSymbolDict iso market.perSymbol)) := by
    refine wellFormed_entries (keys_perSymbolDict market.perSymbol distinct) ?_
    intro entry member
    obtain ⟨block, known, same⟩ := mem_perSymbolDict market.perSymbol member
    rw [same]
    exact perSymbol _ known
  refine wellFormed_entries (by simp) ?_
  simp only [List.forall_mem_cons, List.not_mem_nil, false_implies, implies_true, and_true]
  exact ⟨news, calendar, spread, liquidity, latency, slippage, readiness, blocks⟩

theorem given_sublist (key : String) (value : Value) :
    (GateState.given key value).Sublist [(key, value)] := by
  cases value <;> simp [GateState.given]

theorem GateState.wellFormed_toDict {gate : GateState Moment} (writable : gate.Writable iso) :
    Json.WellFormed (gate.toDict iso) := by
  have market := MarketGateState.wellFormed_toDict writable.news writable.calendar writable.spread
    writable.liquidity writable.latencyDataStatus writable.slippageDataStatus
    writable.profitReadinessStatus writable.distinct writable.perSymbol
  have among := (((List.Sublist.refl [("market", gate.market.toDict iso),
    ("risk", gate.risk.toDict), ("human", gate.human.toDict iso),
    ("auto_execute", Value.bool gate.autoExecute)]).append
      (given_sublist "cfg_hash" gate.cfgHash)).append
      (given_sublist "data_hash" gate.dataHash)).append
      (given_sublist "schema_version" gate.schemaVersion)
  refine wellFormed_entries ((among.map Prod.fst).nodup (by simp)) ?_
  intro entry member
  have listed := among.subset member
  simp only [List.cons_append, List.nil_append, List.mem_cons, List.not_mem_nil, or_false] at listed
  rcases listed with rfl | rfl | rfl | rfl | rfl | rfl | rfl
  · exact market
  · exact writable.risk
  · exact writable.human
  · exact trivial
  · exact writable.cfgHash
  · exact writable.dataHash
  · exact writable.schemaVersion

theorem distinct_perSymbolEntries {data entries : Mapping}
    (wellFormed : Json.WellFormedEntries data)
    (read : MarketGateState.perSymbolEntries data = some entries) :
    (entries.map Prod.fst).Nodup ∧ Json.WellFormedEntries entries := by
  rw [MarketGateState.perSymbolEntries] at read
  split at read
  · have field : Json.WellFormed (getOr data "per_symbol") :=
      wellFormed_getOr wellFormed "per_symbol" trivial
    rw [mapping?_eq read] at field
    exact field
  · cases read
    exact ⟨List.nodup_nil, trivial⟩

/-- What is read from a well-formed document can be written. -/
theorem GateState.writable_of_fromDict {data : Value} {gate : GateState Moment}
    (wellFormed : Json.WellFormed data) (read : GateState.fromDict iso data = some gate) :
    gate.Writable iso := by
  obtain ⟨entries, mapped, read⟩ := Option.bind_eq_some_iff.mp read
  obtain ⟨market, marketRead, read⟩ := Option.bind_eq_some_iff.mp read
  obtain ⟨risk, riskRead, read⟩ := Option.bind_eq_some_iff.mp read
  obtain ⟨human, humanRead, same⟩ := Option.bind_eq_some_iff.mp read
  cases same
  obtain ⟨marketData, marketFound, marketRead⟩ := Option.bind_eq_some_iff.mp marketRead
  obtain ⟨riskData, riskFound, riskRead⟩ := Option.bind_eq_some_iff.mp riskRead
  obtain ⟨humanData, humanFound, humanRead⟩ := Option.bind_eq_some_iff.mp humanRead
  rw [mapping?_eq mapped] at wellFormed
  have marketFine := Json.wellFormed_get? wellFormed.2 marketFound
  obtain ⟨sections, sectionsMapped, marketRead⟩ := Option.bind_eq_some_iff.mp marketRead
  rw [mapping?_eq sectionsMapped] at marketFine
  obtain ⟨blocks, blocksFound, marketRead⟩ := Option.bind_eq_some_iff.mp marketRead
  obtain ⟨perSymbol, perSymbolRead, marketRead⟩ := Option.bind_eq_some_iff.mp marketRead
  obtain ⟨news, newsRead, marketRead⟩ := Option.bind_eq_some_iff.mp marketRead
  obtain ⟨calendar, calendarRead, marketRead⟩ := Option.bind_eq_some_iff.mp marketRead
  obtain ⟨spread, spreadRead, marketRead⟩ := Option.bind_eq_some_iff.mp marketRead
  obtain ⟨liquidity, liquidityRead, same⟩ := Option.bind_eq_some_iff.mp marketRead
  cases same
  obtain ⟨newsData, newsFound, newsRead⟩ := Option.bind_eq_some_iff.mp newsRead
  obtain ⟨calendarData, calendarFound, calendarRead⟩ := Option.bind_eq_some_iff.mp calendarRead
  obtain ⟨spreadData, spreadFound, spreadRead⟩ := Option.bind_eq_some_iff.mp spreadRead
  obtain ⟨distinct, blocksFine⟩ := distinct_perSymbolEntries marketFine.2 blocksFound
  have blank : Json.WellFormed (.map []) := ⟨List.nodup_nil, trivial⟩
  have field : ∀ key, Json.WellFormed (getOr entries key) :=
    fun key => wellFormed_getOr wellFormed.2 key trivial
  have status : ∀ key, Json.WellFormed (getOr sections key (.str "ok")) :=
    fun key => wellFormed_getOr marketFine.2 key trivial
  exact {
    news := NewsGateState.wellFormed_of_fromDict (Json.wellFormed_get? marketFine.2 newsFound)
      newsRead
    calendar := CalendarGateState.wellFormed_of_fromDict
      (Json.wellFormed_get? marketFine.2 calendarFound) calendarRead
    spread := SpreadGateState.wellFormed_of_fromDict (Json.wellFormed_get? marketFine.2 spreadFound)
      spreadRead
    liquidity := LiquidityGateState.wellFormed_of_fromDict
      (wellFormed_getOr marketFine.2 _ blank) liquidityRead
    latencyDataStatus := status "latency_data_status"
    slippageDataStatus := status "slippage_data_status"
    profitReadinessStatus := status "profit_readiness_status"
    distinct := by rwa [keys_of_blocksFrom perSymbolRead]
    perSymbol := writable_of_blocksFrom blocksFine perSymbolRead
    risk := RiskGateState.wellFormed_of_fromDict (Json.wellFormed_get? wellFormed.2 riskFound)
      riskRead
    human := HumanGateState.wellFormed_of_fromDict (Json.wellFormed_get? wellFormed.2 humanFound)
      humanRead
    cfgHash := field "cfg_hash"
    dataHash := field "data_hash"
    schemaVersion := field "schema_version" }

theorem GateState.loads_toJson {gate : GateState Moment} (writable : gate.Writable iso) :
    Json.loads (gate.toJson iso) = some (Json.sortKeys (gate.toDict iso)) :=
  Json.loads_dumpsIndented (Json.wellFormed_sortKeys _ (GateState.wellFormed_toDict writable))

end FxToushi.Core.GateDocument
