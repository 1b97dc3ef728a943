import FxToushi.Core.GateDocument

namespace FxToushi.Core.GateDocument

open Data Py

/-! # Reading back a gate state

Each record reads back as it was written.  Sorting the keys of a document sorts
those of the values in its records and changes nothing else.
-/

variable {Moment : Type} {iso : IsoFormat Moment}

theorem datetimeFromIso_datetimeToIso [iso.ReadsBack] (moment : Option Moment) :
    datetimeFromIso iso (datetimeToIso iso moment) = some moment := by
  cases moment with
  | none => rfl
  | some moment =>
    simp [datetimeToIso, datetimeFromIso, withOffset, IsoFormat.ReadsBack.unpadded,
      IsoFormat.ReadsBack.offset, IsoFormat.ReadsBack.inverse]

@[simp] theorem isTrue_bool (value : Bool) : isTrue (.bool value) = value := rfl

/-! ## Round trips -/

@[simp] theorem NewsGateState.fromDict_toDict [iso.ReadsBack] (state : NewsGateState Moment) :
    NewsGateState.fromDict iso (state.toDict iso) = some state := by
  simp [NewsGateState.toDict, NewsGateState.fromDict, Value.mapping?, Mapping.get?, getOr,
    datetimeFromIso_datetimeToIso]

@[simp] theorem CalendarGateState.fromDict_toDict (state : CalendarGateState) :
    CalendarGateState.fromDict state.toDict = some state := by
  simp [CalendarGateState.toDict, CalendarGateState.fromDict, Value.mapping?, Mapping.get?, getOr]

@[simp] theorem SpreadGateState.fromDict_toDict [iso.ReadsBack] (state : SpreadGateState Moment) :
    SpreadGateState.fromDict iso (state.toDict iso) = some state := by
  simp [SpreadGateState.toDict, SpreadGateState.fromDict, Value.mapping?, Mapping.get?, getOr,
    datetimeFromIso_datetimeToIso]

@[simp] theorem LiquidityGateState.fromDict_toDict [iso.ReadsBack]
    (state : LiquidityGateState Moment) :
    LiquidityGateState.fromDict iso (state.toDict iso) = some state := by
  simp [LiquidityGateState.toDict, LiquidityGateState.fromDict, Value.mapping?, Mapping.get?,
    getOr, datetimeFromIso_datetimeToIso]

@[simp] theorem RiskGateState.fromDict_toDict (risk : RiskGateState) :
    RiskGateState.fromDict risk.toDict = some risk := by
  simp [RiskGateState.toDict, RiskGateState.fromDict, Value.mapping?, Mapping.get?, getOr]

@[simp] theorem HumanGateState.fromDict_toDict [iso.ReadsBack] (human : HumanGateState Moment) :
    HumanGateState.fromDict iso (human.toDict iso) = some human := by
  simp [HumanGateState.toDict, HumanGateState.fromDict, Value.mapping?, Mapping.get?, getOr,
    datetimeFromIso_datetimeToIso, iterate, Except.toOption, intOf?, Value.toInt?]

theorem ifTrue_written {State : Type} {read : Value → Option State} {value : Value} {state : State}
    (full : isTrue value = true) (reads : read value = some state) :
    GateBlockState.ifTrue read value = some (some state) := by
  rw [GateBlockState.ifTrue, if_pos full, reads]
  rfl

theorem getOr_cons (first : String) (value : Value) (rest : Mapping) (key : String)
    (default : Value) : getOr ((first, value) :: rest) key default =
      if first = key then value else getOr rest key default := by
  rw [getOr, Json.get?_cons]
  split <;> rfl

@[simp] theorem GateBlockState.fromDict_toEntries [iso.ReadsBack] (block : GateBlockState Moment) :
    GateBlockState.fromDict iso (.map (block.toEntries iso)) = some block := by
  obtain ⟨news, calendar, spread⟩ := block
  have newsRead : GateBlockState.ifTrue (NewsGateState.fromDict iso)
      (getOr (GateBlockState.toEntries iso ⟨news, calendar, spread⟩) "news") = some news := by
    cases news with
    | none => cases calendar <;> cases spread <;> rfl
    | some news => exact ifTrue_written rfl (NewsGateState.fromDict_toDict news)
  have calendarRead : GateBlockState.ifTrue CalendarGateState.fromDict
      (getOr (GateBlockState.toEntries iso ⟨news, calendar, spread⟩) "calendar") =
        some calendar := by
    cases calendar with
    | none => cases news <;> cases spread <;> rfl
    | some calendar =>
      cases news <;> exact ifTrue_written rfl (CalendarGateState.fromDict_toDict calendar)
  have spreadRead : GateBlockState.ifTrue (SpreadGateState.fromDict iso)
      (getOr (GateBlockState.toEntries iso ⟨news, calendar, spread⟩) "spread") = some spread := by
    cases spread with
    | none => cases news <;> cases calendar <;> rfl
    | some spread =>
      cases news <;> cases calendar <;>
        exact ifTrue_written rfl (SpreadGateState.fromDict_toDict spread)
  simp [GateBlockState.fromDict, Value.mapping?, newsRead, calendarRead, spreadRead]

theorem toEntries_isEmpty (block : GateBlockState Moment) :
    (block.toEntries iso).isEmpty = true ↔ block = {} := by
  obtain ⟨news, calendar, spread⟩ := block
  cases news <;> cases calendar <;> cases spread <;> simp [GateBlockState.toEntries]

/-! ## Blocks by symbol -/

def blockAt (blocks : List (String × GateBlockState Moment)) (symbol : String) :
    Option (GateBlockState Moment) :=
  (blocks.find? (fun entry => entry.1 == symbol)).map Prod.snd

theorem blockAt_cons (first : String) (block : GateBlockState Moment)
    (rest : List (String × GateBlockState Moment)) (symbol : String) :
    blockAt ((first, block) :: rest) symbol =
      if first = symbol then some block else blockAt rest symbol := by
  by_cases same : first = symbol <;> simp [blockAt, same]

theorem blocksFrom_cons {symbol : String} {block : Value} {rest : Mapping}
    {blocks : List (String × GateBlockState Moment)}
    (read : MarketGateState.blocksFrom iso ((symbol, block) :: rest) = some blocks) :
    ∃ first later, GateBlockState.fromDict iso block = some first ∧
      MarketGateState.blocksFrom iso rest = some later ∧ blocks = (symbol, first) :: later := by
  obtain ⟨first, readFirst, read⟩ := Option.bind_eq_some_iff.mp read
  obtain ⟨later, readLater, same⟩ := Option.bind_eq_some_iff.mp read
  exact ⟨first, later, readFirst, readLater, (Option.some.inj same).symm⟩

theorem keys_of_blocksFrom {entries : Mapping} {blocks : List (String × GateBlockState Moment)}
    (read : MarketGateState.blocksFrom iso entries = some blocks) :
    blocks.map Prod.fst = entries.map Prod.fst := by
  induction entries generalizing blocks with
  | nil =>
    cases read
    rfl
  | cons entry rest ih =>
    obtain ⟨first, later, -, readLater, rfl⟩ := blocksFrom_cons read
    rw [List.map_cons, List.map_cons, ih readLater]

theorem get?_of_blocksFrom {entries : Mapping} {blocks : List (String × GateBlockState Moment)}
    (read : MarketGateState.blocksFrom iso entries = some blocks) (symbol : String) :
    (Mapping.get? entries symbol).map (GateBlockState.fromDict iso) =
      (blockAt blocks symbol).map some := by
  induction entries generalizing blocks with
  | nil =>
    cases read
    rfl
  | cons entry rest ih =>
    obtain ⟨first, later, readFirst, readLater, rfl⟩ := blocksFrom_cons read
    rw [Json.get?_cons, blockAt_cons]
    split
    · exact congrArg some readFirst
    · exact ih readLater

theorem exists_blocksFrom {entries : Mapping}
    (reads : ∀ entry ∈ entries, ∃ block, GateBlockState.fromDict iso entry.2 = some block) :
    ∃ blocks, MarketGateState.blocksFrom iso entries = some blocks := by
  induction entries with
  | nil => exact ⟨[], rfl⟩
  | cons entry rest ih =>
    rw [List.forall_mem_cons] at reads
    obtain ⟨⟨first, readFirst⟩, readRest⟩ := reads
    obtain ⟨later, readLater⟩ := ih readRest
    exact ⟨(entry.1, first) :: later, by
      rw [MarketGateState.blocksFrom, readFirst, readLater]; rfl⟩

section PerSymbol

variable (blocks : List (String × GateBlockState Moment))

theorem mem_perSymbolDict {entry : String × Value}
    (member : entry ∈ MarketGateState.perSymbolDict iso blocks) :
    ∃ block, (entry.1, block) ∈ blocks ∧ entry.2 = .map (block.toEntries iso) := by
  induction blocks with
  | nil => cases member
  | cons first rest ih =>
    rw [MarketGateState.perSymbolDict, List.foldr_cons] at member
    split at member
    · obtain ⟨block, known, same⟩ := ih member
      exact ⟨block, List.mem_cons_of_mem _ known, same⟩
    · cases List.mem_cons.mp (Json.perm_insertEntry.mem_iff.mp member) with
      | inl same =>
        subst same
        exact ⟨first.2, List.mem_cons_self, rfl⟩
      | inr later =>
        obtain ⟨block, known, same⟩ := ih later
        exact ⟨block, List.mem_cons_of_mem _ known, same⟩

theorem keys_perSymbolDict (distinct : (blocks.map Prod.fst).Nodup) :
    ((MarketGateState.perSymbolDict iso blocks).map Prod.fst).Nodup := by
  induction blocks with
  | nil => exact List.nodup_nil
  | cons first rest ih =>
    obtain ⟨fresh, distinctRest⟩ := List.nodup_cons.mp distinct
    rw [MarketGateState.perSymbolDict, List.foldr_cons]
    split
    · exact ih distinctRest
    · rw [(Json.perm_insertEntry.map Prod.fst).nodup_iff]
      refine List.nodup_cons.mpr ⟨?_, ih distinctRest⟩
      intro member
      obtain ⟨entry, found, same⟩ := List.mem_map.mp member
      obtain ⟨block, known, -⟩ := mem_perSymbolDict rest found
      rw [same] at known
      exact fresh (List.mem_map.mpr ⟨_, known, rfl⟩)

theorem get?_perSymbolDict (distinct : (blocks.map Prod.fst).Nodup) (symbol : String) :
    (Mapping.get? (MarketGateState.perSymbolDict iso blocks) symbol) =
      (blockAt blocks symbol).bind (fun block =>
        if (block.toEntries iso).isEmpty then none else some (.map (block.toEntries iso))) := by
  induction blocks with
  | nil => rfl
  | cons first rest ih =>
    obtain ⟨fresh, distinctRest⟩ := List.nodup_cons.mp distinct
    have later := ih distinctRest
    rw [MarketGateState.perSymbolDict, List.foldr_cons, blockAt_cons]
    rw [MarketGateState.perSymbolDict] at later
    by_cases here : first.1 = symbol
    · have absent : blockAt rest symbol = none := by
        rw [blockAt, Option.map_eq_none_iff, List.find?_eq_none]
        intro entry member same
        rw [beq_iff_eq] at same
        exact fresh (List.mem_map.mpr ⟨entry, member, same.trans here.symm⟩)
      rw [if_pos here]
      split
      · rename_i blank
        rw [later, absent, Option.bind_some, if_pos blank]
        rfl
      · rename_i full
        rw [Json.get?_insertEntry, if_pos here, Option.bind_some, if_neg full]
    · rw [if_neg here]
      split
      · exact later
      · rw [Json.get?_insertEntry, if_neg here]
        exact later

end PerSymbol

/-- The blocks that are written read back, without those that say nothing. -/
theorem blocksFrom_perSymbolDict (iso : IsoFormat Moment) [iso.ReadsBack]
    (blocks : List (String × GateBlockState Moment))
    (distinct : (blocks.map Prod.fst).Nodup) :
    ∃ read, MarketGateState.blocksFrom iso (MarketGateState.perSymbolDict iso blocks) = some read ∧
      ∀ symbol, (blockAt read symbol).getD {} = (blockAt blocks symbol).getD {} := by
  have entries : ∀ entry ∈ MarketGateState.perSymbolDict iso blocks,
      ∃ block, GateBlockState.fromDict iso entry.2 = some block := by
    intro entry member
    obtain ⟨block, -, same⟩ := mem_perSymbolDict blocks member
    exact ⟨block, by rw [same, GateBlockState.fromDict_toEntries]⟩
  obtain ⟨read, reads⟩ := exists_blocksFrom entries
  refine ⟨read, reads, ?_⟩
  intro symbol
  have entry := get?_of_blocksFrom reads symbol
  rw [get?_perSymbolDict blocks distinct] at entry
  cases known : blockAt blocks symbol with
  | none =>
    rw [known] at entry
    cases found : blockAt read symbol with
    | none => rfl
    | some block =>
      rw [found] at entry
      cases entry
  | some block =>
    rw [known, Option.bind_some] at entry
    by_cases blank : (block.toEntries iso).isEmpty = true
    · rw [if_pos blank] at entry
      have same := (toEntries_isEmpty block).mp blank
      cases found : blockAt read symbol with
      | none => exact same.symm
      | some other =>
        rw [found] at entry
        cases entry
    · rw [if_neg blank, Option.map_some, GateBlockState.fromDict_toEntries] at entry
      cases found : blockAt read symbol with
      | none =>
        rw [found] at entry
        cases entry
      | some other =>
        rw [found] at entry
        cases entry
        rfl

theorem MarketGateState.perSymbolEntries_toDict (market : MarketGateState Moment) :
    (market.toDict iso).mapping? >>= MarketGateState.perSymbolEntries =
      some (perSymbolDict iso market.perSymbol) := by
  have entries : (if isTrue (.map (perSymbolDict iso market.perSymbol)) = true then
      some (perSymbolDict iso market.perSymbol) else some []) =
        some (perSymbolDict iso market.perSymbol) := by
    cases perSymbolDict iso market.perSymbol <;> rfl
  simp [toDict, Value.mapping?, perSymbolEntries, getOr, Mapping.get?, entries]

theorem MarketGateState.fromDict_toDict_of_read [iso.ReadsBack] {market : MarketGateState Moment}
    {perSymbol : List (String × GateBlockState Moment)}
    (read : blocksFrom iso (perSymbolDict iso market.perSymbol) = some perSymbol) :
    MarketGateState.fromDict iso (market.toDict iso) = some { market with perSymbol } := by
  have entries := @perSymbolEntries_toDict _ iso market
  simp only [toDict, Value.mapping?, bind, Option.bind_some] at entries
  simp [toDict, fromDict, Value.mapping?, entries, getOr, Mapping.get?, read]

theorem MarketGateState.fromDict_toDict (iso : IsoFormat Moment) [iso.ReadsBack]
    (market : MarketGateState Moment)
    (distinct : (market.perSymbol.map Prod.fst).Nodup) :
    ∃ perSymbol, MarketGateState.fromDict iso (market.toDict iso) =
        some { market with perSymbol } ∧
      ∀ symbol, (blockAt perSymbol symbol).getD {} = (blockAt market.perSymbol symbol).getD {} := by
  obtain ⟨perSymbol, read, same⟩ := blocksFrom_perSymbolDict iso market.perSymbol distinct
  exact ⟨perSymbol, fromDict_toDict_of_read read, same⟩

/-! ## Optional entries -/

theorem getOr_given_same {key : String} (value : Value) {rest : Mapping}
    (absent : getOr rest key = .null) : getOr (GateState.given key value ++ rest) key = value := by
  cases value <;> simp [GateState.given, getOr_cons, absent]

theorem getOr_given_other {key other : String} (different : key ≠ other) (value : Value)
    (rest : Mapping) : getOr (GateState.given key value ++ rest) other = getOr rest other := by
  cases value <;> simp [GateState.given, getOr_cons, different]

/-- The entries of a gate state that may be left out. -/
def GateState.optional (gate : GateState Moment) : Mapping :=
  given "cfg_hash" gate.cfgHash ++ (given "data_hash" gate.dataHash ++
    given "schema_version" gate.schemaVersion)

theorem GateState.getOr_cfgHash (gate : GateState Moment) :
    getOr gate.optional "cfg_hash" = gate.cfgHash := by
  refine getOr_given_same _ ?_
  rw [getOr_given_other (by decide), ← List.append_nil (given _ _), getOr_given_other (by decide)]
  rfl

theorem GateState.getOr_dataHash (gate : GateState Moment) :
    getOr gate.optional "data_hash" = gate.dataHash := by
  rw [optional, getOr_given_other (by decide)]
  refine getOr_given_same _ ?_
  rw [← List.append_nil (given _ _), getOr_given_other (by decide)]
  rfl

theorem GateState.getOr_schemaVersion (gate : GateState Moment) :
    getOr gate.optional "schema_version" = gate.schemaVersion := by
  rw [optional, getOr_given_other (by decide), getOr_given_other (by decide),
    ← List.append_nil (given _ _)]
  exact getOr_given_same _ rfl

theorem GateState.toDict_eq (gate : GateState Moment) : gate.toDict iso =
    .map (("market", gate.market.toDict iso) :: ("risk", gate.risk.toDict) ::
      ("human", gate.human.toDict iso) :: ("auto_execute", .bool gate.autoExecute) ::
      gate.optional) := by
  rw [toDict, optional, List.append_assoc, List.append_assoc]
  rfl

theorem GateState.fromDict_toDict_of_read [iso.ReadsBack] {gate : GateState Moment}
    {market : MarketGateState Moment}
    (read : MarketGateState.fromDict iso (gate.market.toDict iso) = some market) :
    GateState.fromDict iso (gate.toDict iso) = some { gate with market } := by
  rw [toDict_eq]
  simp [fromDict, Value.mapping?, Json.get?_cons, getOr_cons, read, getOr_cfgHash, getOr_dataHash,
    getOr_schemaVersion]

theorem GateState.fromDict_toDict (iso : IsoFormat Moment) [iso.ReadsBack] (gate : GateState Moment)
    (distinct : (gate.market.perSymbol.map Prod.fst).Nodup) :
    ∃ perSymbol, GateState.fromDict iso (gate.toDict iso) =
        some { gate with market := { gate.market with perSymbol } } ∧
      ∀ symbol, (blockAt perSymbol symbol).getD {} =
        (blockAt gate.market.perSymbol symbol).getD {} := by
  obtain ⟨perSymbol, read, same⟩ := MarketGateState.fromDict_toDict iso gate.market distinct
  exact ⟨perSymbol, fromDict_toDict_of_read read, same⟩

/-! ## Sorted keys -/

def NewsGateState.sorted (state : NewsGateState Moment) : NewsGateState Moment :=
  { state with reason := Json.sortKeys state.reason }

def CalendarGateState.sorted (state : CalendarGateState) : CalendarGateState :=
  { state with reason := Json.sortKeys state.reason }

def SpreadGateState.sorted (state : SpreadGateState Moment) : SpreadGateState Moment :=
  { state with state := Json.sortKeys state.state, reason := Json.sortKeys state.reason }

def GateBlockState.sorted (block : GateBlockState Moment) : GateBlockState Moment where
  news := block.news.map NewsGateState.sorted
  calendar := block.calendar.map CalendarGateState.sorted
  spread := block.spread.map SpreadGateState.sorted

def RiskGateState.sorted (risk : RiskGateState) : RiskGateState where
  reduceOnly := risk.reduceOnly
  reduceOnlyReason := Json.sortKeys risk.reduceOnlyReason
  killSwitchRecommendation := Json.sortKeys risk.killSwitchRecommendation
  killSwitchReason := Json.sortKeys risk.killSwitchReason

theorem isEmpty_sortEntries (entries : Mapping) :
    (Json.sortEntries entries).isEmpty = entries.isEmpty := by
  have same := (Json.keys_sortEntries entries).length_eq
  cases entries with
  | nil => rfl
  | cons entry rest =>
    cases sorted : Json.sortEntries (entry :: rest) with
    | nil => simp [sorted] at same
    | cons first later => rfl

@[simp] theorem isTrue_sortKeys (value : Value) : isTrue (Json.sortKeys value) = isTrue value := by
  cases value with
  | list items => cases items <;> simp [Json.sortKeys, Json.sortItems, isTrue, Value.truth]
  | map entries => simp [Json.sortKeys, isTrue, Value.truth, isEmpty_sortEntries]
  | _ => rw [Json.sortKeys]

@[simp] theorem datetimeFromIso_sortKeys (value : Value) :
    datetimeFromIso iso (Json.sortKeys value) = datetimeFromIso iso value := by
  cases value with
  | list items => rfl
  | map entries => rfl
  | _ => rw [Json.sortKeys]

theorem getOr_sortEntries (data : Mapping) (key : String) {default : Value}
    (flat : Json.sortKeys default = default) :
    getOr (Json.sortEntries data) key default = Json.sortKeys (getOr data key default) := by
  rw [getOr, getOr, Json.get?_sortEntries]
  cases Mapping.get? data key with
  | none => exact flat.symm
  | some value => rfl

theorem getOr_sorted (data : Mapping) (key : String) :
    getOr (Json.sortEntries data) key = Json.sortKeys (getOr data key) :=
  getOr_sortEntries data key rfl

theorem NewsGateState.fromDict_sortKeys (data : Value) :
    NewsGateState.fromDict iso (Json.sortKeys data) =
      (NewsGateState.fromDict iso data).map NewsGateState.sorted := by
  rw [NewsGateState.fromDict, NewsGateState.fromDict, Json.mapping?_sortKeys]
  cases data.mapping? with
  | none => rfl
  | some data =>
    simp only [Option.map_some, bind, Option.bind_some, Json.get?_sortEntries, getOr_sorted,
      datetimeFromIso_sortKeys]
    cases Mapping.get? data "blocked" with
    | none => rfl
    | some blocked =>
      cases datetimeFromIso iso (getOr data "release_ts") with
      | none => rfl
      | some releaseTs => simp [NewsGateState.sorted]

theorem CalendarGateState.fromDict_sortKeys (data : Value) :
    CalendarGateState.fromDict (Json.sortKeys data) =
      (CalendarGateState.fromDict data).map CalendarGateState.sorted := by
  rw [CalendarGateState.fromDict, CalendarGateState.fromDict, Json.mapping?_sortKeys]
  cases data.mapping? with
  | none => rfl
  | some data =>
    simp only [Option.map_some, bind, Option.bind_some, Json.get?_sortEntries, getOr_sorted]
    cases Mapping.get? data "blocked" with
    | none => rfl
    | some blocked =>
      cases Mapping.get? data "holiday_block" with
      | none => rfl
      | some holidayBlock => simp [CalendarGateState.sorted]

theorem SpreadGateState.fromDict_sortKeys (data : Value) :
    SpreadGateState.fromDict iso (Json.sortKeys data) =
      (SpreadGateState.fromDict iso data).map SpreadGateState.sorted := by
  rw [SpreadGateState.fromDict, SpreadGateState.fromDict, Json.mapping?_sortKeys]
  cases data.mapping? with
  | none => rfl
  | some data =>
    simp only [Option.map_some, bind, Option.bind_some, Json.get?_sortEntries, getOr_sorted,
      datetimeFromIso_sortKeys]
    cases Mapping.get? data "state" with
    | none => rfl
    | some state =>
      cases datetimeFromIso iso (getOr data "cooldown_eta") with
      | none => rfl
      | some cooldownEta => simp [SpreadGateState.sorted]

theorem RiskGateState.fromDict_sortKeys (data : Value) :
    RiskGateState.fromDict (Json.sortKeys data) =
      (RiskGateState.fromDict data).map RiskGateState.sorted := by
  rw [RiskGateState.fromDict, RiskGateState.fromDict, Json.mapping?_sortKeys]
  cases data.mapping? with
  | none => rfl
  | some data =>
    simp only [Option.map_some, bind, Option.bind_some, Json.get?_sortEntries, getOr_sorted]
    cases Mapping.get? data "reduce_only" with
    | none => rfl
    | some reduceOnly => simp [RiskGateState.sorted]

theorem ifTrue_sortKeys {State : Type} {read : Value → Option State} {sorted : State → State}
    (commutes : ∀ value, read (Json.sortKeys value) = (read value).map sorted) (value : Value) :
    GateBlockState.ifTrue read (Json.sortKeys value) =
      (GateBlockState.ifTrue read value).map (Option.map sorted) := by
  rw [GateBlockState.ifTrue, GateBlockState.ifTrue, isTrue_sortKeys, commutes]
  cases isTrue value with
  | false => rfl
  | true => cases read value <;> rfl

theorem GateBlockState.fromDict_sortKeys (data : Value) :
    GateBlockState.fromDict iso (Json.sortKeys data) =
      (GateBlockState.fromDict iso data).map GateBlockState.sorted := by
  rw [GateBlockState.fromDict, GateBlockState.fromDict, Json.mapping?_sortKeys]
  cases data.mapping? with
  | none => rfl
  | some data =>
    simp only [Option.map_some, bind, Option.bind_some, getOr_sorted,
      ifTrue_sortKeys NewsGateState.fromDict_sortKeys,
      ifTrue_sortKeys CalendarGateState.fromDict_sortKeys,
      ifTrue_sortKeys SpreadGateState.fromDict_sortKeys]
    cases GateBlockState.ifTrue (NewsGateState.fromDict iso) (getOr data "news") with
    | none => rfl
    | some news =>
      cases GateBlockState.ifTrue CalendarGateState.fromDict (getOr data "calendar") with
      | none => rfl
      | some calendar =>
        cases GateBlockState.ifTrue (SpreadGateState.fromDict iso)
            (getOr data "spread") with
        | none => rfl
        | some spread => rfl

theorem MarketGateState.perSymbolEntries_sorted (data : Mapping) :
    MarketGateState.perSymbolEntries (Json.sortEntries data) =
      (MarketGateState.perSymbolEntries data).map Json.sortEntries := by
  rw [MarketGateState.perSymbolEntries, MarketGateState.perSymbolEntries, getOr_sorted]
  simp only [isTrue_sortKeys, Json.mapping?_sortKeys]
  split
  · rfl
  · rfl

end FxToushi.Core.GateDocument
