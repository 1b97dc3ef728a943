import FxToushi.Core.GateOperations
import FxToushi.Core.IsoTimes

namespace FxToushi.Core.GateDocument

open Calendar Data Py Risk

/-! # Gate states survive persistence

No operation leaves a block that says nothing, so every block of a reachable state
is written, and read back as it was.
-/

variable {Moment : Type} {iso : IsoFormat Moment}

/-! ## Blocks by symbol -/

/-- Every symbol has one block, which is a good one. -/
structure Kept (good : GateBlockState Moment → Prop) (perSymbol : Blocks Moment) : Prop where
  distinct : (perSymbol.map Prod.fst).Nodup
  each : ∀ entry ∈ perSymbol, good entry.2

section Kept

variable {good : GateBlockState Moment → Prop} {perSymbol : Blocks Moment}

theorem kept_popSymbol (kept : Kept good perSymbol) (symbol : String) :
    Kept good (popSymbol perSymbol symbol) where
  distinct := kept.distinct.sublist (List.filter_sublist.map Prod.fst)
  each := fun entry member => kept.each entry (List.mem_of_mem_filter member)

theorem mem_assign {symbol : String} {block : GateBlockState Moment}
    {entry : String × GateBlockState Moment} (member : entry ∈ Dict.assign symbol block perSymbol) :
    entry = (symbol, block) ∨ entry ∈ perSymbol := by
  induction perSymbol with
  | nil => exact .inl (List.mem_singleton.mp member)
  | cons first rest ih =>
    rw [Dict.assign] at member
    split at member
    · rename_i same
      cases List.mem_cons.mp member with
      | inl here => exact .inl (by rw [here, same])
      | inr later => exact .inr (List.mem_cons_of_mem first later)
    · cases List.mem_cons.mp member with
      | inl here => exact .inr (here ▸ List.mem_cons_self)
      | inr later => exact (ih later).imp_right (List.mem_cons_of_mem first)

theorem kept_assign (kept : Kept good perSymbol) (symbol : String) {block : GateBlockState Moment}
    (fine : good block) : Kept good (Dict.assign symbol block perSymbol) where
  distinct := (Dict.set ⟨perSymbol, kept.distinct⟩ symbol block).distinct
  each := by
    intro entry member
    cases mem_assign member with
    | inl assigned => exact assigned ▸ fine
    | inr old => exact kept.each entry old

variable {Component : Type}
  {assign : GateBlockState Moment → Option Component → GateBlockState Moment}
  {fine : Component → Prop}

/-- A component is set in a good block or a new one, and cleared in a good one that
still says something. -/
structure Assigns (good : GateBlockState Moment → Prop) (fine : Component → Prop)
    (assign : GateBlockState Moment → Option Component → GateBlockState Moment) : Prop where
  sets : ∀ block component, block = {} ∨ good block → fine component →
    good (assign block (some component))
  clears : ∀ block, good block → (assign block none).isEmpty = false → good (assign block none)

theorem kept_assignSymbolComponent (assigns : Assigns good fine assign)
    (kept : Kept good perSymbol) (symbol : String) {value : Option Component}
    (given : ∀ component ∈ value, fine component) :
    Kept good (assignSymbolComponent perSymbol assign symbol value) := by
  have stored {block : GateBlockState Moment} (found : Dict.lookup symbol perSymbol = some block) :
      good block :=
    kept.each (symbol, block) ((Dict.lookup_eq_some_iff kept.distinct).mp found)
  cases value with
  | none =>
    rw [assignSymbolComponent]
    cases found : Dict.lookup symbol perSymbol with
    | none => exact kept
    | some block =>
      dsimp only
      split
      · exact kept_popSymbol kept symbol
      · rename_i filled
        exact kept_assign kept symbol
          (assigns.clears block (stored found) (by simpa using filled))
  | some component =>
    rw [assignSymbolComponent]
    refine kept_assign kept symbol (assigns.sets _ component ?_ (given component rfl))
    cases found : Dict.lookup symbol perSymbol with
    | none => exact .inl rfl
    | some block => exact .inr (stored found)

theorem kept_assignSymbols (assigns : Assigns good fine assign) (kept : Kept good perSymbol)
    {updates : Option (List (String × Option Component))}
    (given : ∀ update ∈ updates.getD [], ∀ component ∈ update.2, fine component) :
    Kept good (assignSymbols perSymbol assign updates) := by
  rw [assignSymbols]
  generalize updates.getD [] = updates at given ⊢
  induction updates generalizing perSymbol with
  | nil => exact kept
  | cons update rest ih =>
    obtain ⟨first, later⟩ := List.forall_mem_cons.mp given
    exact ih (kept_assignSymbolComponent assigns kept update.1 first) later

end Kept

/-! ## Blocks that say something -/

theorem assigns_news : Assigns (fun block : GateBlockState Moment => block.isEmpty = false)
    (fun _ => True) setNews where
  sets := fun _ _ _ _ => rfl
  clears := fun _ _ filled => filled

theorem assigns_calendar : Assigns (fun block : GateBlockState Moment => block.isEmpty = false)
    (fun _ => True) setCalendar where
  sets := fun block _ _ _ => by simp [GateBlockState.isEmpty, setCalendar]
  clears := fun _ _ filled => filled

theorem assigns_spread : Assigns (fun block : GateBlockState Moment => block.isEmpty = false)
    (fun _ => True) setSpread where
  sets := fun block _ _ _ => by simp [GateBlockState.isEmpty, setSpread]
  clears := fun _ _ filled => filled

/-- Every symbol has one block, which says something. -/
def Sound (gate : GateState Moment) : Prop :=
  Kept (fun block => block.isEmpty = false) gate.market.perSymbol

theorem sound_default : Sound (GateState.default : GateState Moment) where
  distinct := List.nodup_nil
  each := fun _ member => absurd member List.not_mem_nil

theorem sound_step {gate : GateState Moment} (sound : Sound gate) (operation : Operation Moment) :
    Sound (step gate operation) := by
  cases operation with
  | updateNews globalState perSymbol =>
    exact kept_assignSymbols assigns_news sound fun _ _ _ _ => trivial
  | updateCalendar globalState perSymbol =>
    exact kept_assignSymbols assigns_calendar sound fun _ _ _ _ => trivial
  | updateSpread globalState perSymbol =>
    have kept : Sound (updateGlobalSpread gate globalState) := by
      cases globalState with
      | none => exact sound
      | some spread =>
        rw [updateGlobalSpread]
        dsimp only
        split
        · exact sound
        · exact sound
    exact kept_assignSymbols assigns_spread kept fun _ _ _ _ => trivial
  | updateLiquidity globalState =>
    cases globalState with
    | none => exact sound
    | some liquidity =>
      rw [step, updateGlobalLiquidity, updateLiquidity]
      dsimp only
      split
      · exact sound
      · exact sound
  | updateRisk update => exact sound
  | applyRiskAssessment riskState => exact sound
  | updateHuman update => exact sound
  | clearSymbol symbol => exact kept_popSymbol sound symbol
  | setProfitReadinessStatus status boardMode allowAutoExecute =>
    cases allowAutoExecute <;> exact sound
  | setAutoExecute boardMode => exact sound
  | setSchemaVersion version => exact sound
  | setHashes cfgHash dataHash => exact sound
  | persistLatest env cfgHash dataHash =>
    rw [step]
    split
    · exact sound
    · exact sound

theorem sound_run (operations : List (Operation Moment)) :
    Sound (runFrom step GateState.default operations) := by
  have throughout : Throughout step Sound GateState.default operations :=
    throughout_of_step (fun _ operation sound => sound_step sound operation) sound_default
  exact throughout.final

/-! ## Reading the blocks back -/

theorem blockAt_eq_lookup (blocks : Blocks Moment) (symbol : String) :
    blockAt blocks symbol = Dict.lookup symbol blocks := by
  induction blocks with
  | nil => rfl
  | cons entry rest ih => rw [blockAt_cons, Dict.lookup, ih]

theorem get?_eq_lookup (entries : Mapping) (key : String) :
    Mapping.get? entries key = Dict.lookup key entries := by
  induction entries with
  | nil => rfl
  | cons entry rest ih => rw [Json.get?_cons, Dict.lookup, ih]

theorem perm_of_blockAt {left right : Blocks Moment} (leftDistinct : (left.map Prod.fst).Nodup)
    (rightDistinct : (right.map Prod.fst).Nodup)
    (same : ∀ symbol, blockAt left symbol = blockAt right symbol) : left.Perm right := by
  refine (List.perm_ext_iff_of_nodup (List.Nodup.of_map _ leftDistinct)
    (List.Nodup.of_map _ rightDistinct)).mpr fun entry => ?_
  have found := same entry.1
  rw [blockAt_eq_lookup, blockAt_eq_lookup] at found
  rw [← Dict.lookup_eq_some_iff leftDistinct, found, Dict.lookup_eq_some_iff rightDistinct]

/-- The same blocks, each of them changed. -/
def mapBlocks (change : GateBlockState Moment → GateBlockState Moment) (blocks : Blocks Moment) :
    Blocks Moment :=
  blocks.map (fun entry => (entry.1, change entry.2))

/-- Entries that hold the blocks read back as them, in their own order. -/
theorem blocksFrom_of_stored {entries : Mapping} {blocks : Blocks Moment}
    {change : GateBlockState Moment → GateBlockState Moment}
    (distinct : (blocks.map Prod.fst).Nodup) (keys : (entries.map Prod.fst).Nodup)
    (stored : ∀ symbol, (Mapping.get? entries symbol).map (GateBlockState.fromDict iso) =
      (blockAt blocks symbol).map fun block => some (change block)) :
    ∃ read, MarketGateState.blocksFrom iso entries = some read ∧
      read.Perm (mapBlocks change blocks) := by
  have reads : ∀ entry ∈ entries, ∃ block, GateBlockState.fromDict iso entry.2 = some block := by
    intro entry member
    have found := stored entry.1
    rw [get?_eq_lookup, (Dict.lookup_eq_some_iff keys).mpr member, Option.map_some] at found
    obtain ⟨block, -, same⟩ := Option.map_eq_some_iff.mp found.symm
    exact ⟨change block, same.symm⟩
  obtain ⟨read, readBack⟩ := exists_blocksFrom reads
  refine ⟨read, readBack, perm_of_blockAt ?_ ?_ fun symbol => ?_⟩
  · rwa [keys_of_blocksFrom readBack]
  · rwa [mapBlocks, List.map_map]
  · have known := (get?_of_blocksFrom readBack symbol).symm.trans (stored symbol)
    have changed : blockAt (mapBlocks change blocks) symbol =
        (blockAt blocks symbol).map change := by
      rw [blockAt_eq_lookup, blockAt_eq_lookup]
      exact Dict.lookup_mapValues symbol change blocks
    rw [changed]
    cases held : blockAt blocks symbol with
    | none =>
      rw [held] at known
      exact Option.map_eq_none_iff.mp known
    | some block =>
      rw [held, Option.map_some] at known
      obtain ⟨found, same, equal⟩ := Option.map_eq_some_iff.mp known
      rw [same, Option.some.inj equal, Option.map_some]

theorem get?_perSymbolDict_of_sound {gate : GateState Moment} (sound : Sound gate)
    (symbol : String) :
    Mapping.get? (MarketGateState.perSymbolDict iso gate.market.perSymbol) symbol =
      (blockAt gate.market.perSymbol symbol).map fun block => .map (block.toEntries iso) := by
  rw [get?_perSymbolDict gate.market.perSymbol sound.distinct]
  cases held : blockAt gate.market.perSymbol symbol with
  | none => rfl
  | some block =>
    have member : (symbol, block) ∈ gate.market.perSymbol :=
      (Dict.lookup_eq_some_iff sound.distinct).mp ((blockAt_eq_lookup _ _).symm.trans held)
    rw [Option.bind_some, Option.map_some, if_neg]
    intro blank
    have filled := sound.each (symbol, block) member
    rw [(toEntries_isEmpty block).mp blank] at filled
    cases filled

/-! ## Sorted states -/

def LiquidityGateState.sorted (state : LiquidityGateState Moment) : LiquidityGateState Moment :=
  { state with
    state := Json.sortKeys state.state
    recommendation := Json.sortKeys state.recommendation }

def HumanGateState.sorted (human : HumanGateState Moment) : HumanGateState Moment :=
  { human with
    requiredRoles := Json.sortItems human.requiredRoles
    acknowledgedRoles := Json.sortItems human.acknowledgedRoles }

def MarketGateState.sorted (market : MarketGateState Moment) : MarketGateState Moment where
  news := market.news.sorted
  calendar := market.calendar.sorted
  spread := market.spread.sorted
  liquidity := market.liquidity.sorted
  latencyDataStatus := Json.sortKeys market.latencyDataStatus
  slippageDataStatus := Json.sortKeys market.slippageDataStatus
  profitReadinessStatus := Json.sortKeys market.profitReadinessStatus
  perSymbol := mapBlocks GateBlockState.sorted market.perSymbol

/-- The state with the keys of every mapping among its values in order; texts and
lists of texts are as they were. -/
def GateState.sorted (gate : GateState Moment) : GateState Moment where
  market := gate.market.sorted
  risk := gate.risk.sorted
  human := gate.human.sorted
  autoExecute := gate.autoExecute
  cfgHash := Json.sortKeys gate.cfgHash
  dataHash := Json.sortKeys gate.dataHash
  schemaVersion := Json.sortKeys gate.schemaVersion

theorem LiquidityGateState.fromDict_sortKeys (data : Value) :
    LiquidityGateState.fromDict iso (Json.sortKeys data) =
      (LiquidityGateState.fromDict iso data).map LiquidityGateState.sorted := by
  rw [LiquidityGateState.fromDict, LiquidityGateState.fromDict, Json.mapping?_sortKeys]
  cases data.mapping? with
  | none => rfl
  | some data =>
    have state := getOr_sortEntries data "state" (show
      Json.sortKeys (.str "normal") = .str "normal" from rfl)
    simp only [Option.map_some, bind, Option.bind_some, state, getOr_sorted,
      datetimeFromIso_sortKeys]
    cases datetimeFromIso iso (getOr data "updated_at") with
    | none => rfl
    | some updatedAt => simp [LiquidityGateState.sorted]

theorem HumanGateState.fromDict_sorted [iso.ReadsBack] (human : HumanGateState Moment) :
    HumanGateState.fromDict iso (Json.sortKeys (human.toDict iso)) = some human.sorted := by
  have roles (items : List Value) :
      (iterate (Json.sortKeys (.list items))).toOption = some (Json.sortItems items) := rfl
  rw [HumanGateState.fromDict, toDict, Json.mapping?_sortKeys]
  simp only [Value.mapping?, Option.map_some, bind, Option.bind_some, Json.get?_sortEntries,
    getOr_sortEntries _ _ (show Json.sortKeys (.list []) = .list [] from rfl), getOr_sorted,
    Json.get?_cons, getOr_cons, datetimeFromIso_sortKeys, String.reduceEq, ↓reduceIte,
    datetimeFromIso_datetimeToIso, roles, isTrue_sortKeys, isTrue_bool]
  rfl

theorem MarketGateState.fromDict_sorted_of_read [iso.ReadsBack] {market : MarketGateState Moment}
    {perSymbol : Blocks Moment}
    (read : blocksFrom iso (Json.sortEntries (perSymbolDict iso market.perSymbol)) =
      some perSymbol) :
    MarketGateState.fromDict iso (Json.sortKeys (market.toDict iso)) =
      some { market.sorted with perSymbol } := by
  have entries := @perSymbolEntries_toDict _ iso market
  rw [fromDict, Json.mapping?_sortKeys]
  simp only [toDict, Value.mapping?, bind, Option.bind_some] at entries
  simp only [toDict, Value.mapping?, Option.map_some, bind, Option.bind_some,
    perSymbolEntries_sorted, entries, read, Json.get?_sortEntries,
    getOr_sortEntries _ _ (show Json.sortKeys (.str "ok") = .str "ok" from rfl),
    getOr_sortEntries _ _ (show Json.sortKeys (.map []) = .map [] from rfl)]
  simp [Json.get?_cons, getOr_cons, NewsGateState.fromDict_sortKeys,
    CalendarGateState.fromDict_sortKeys, SpreadGateState.fromDict_sortKeys,
    LiquidityGateState.fromDict_sortKeys, sorted]

theorem GateState.fromDict_sorted_of_read [iso.ReadsBack] {gate : GateState Moment}
    {market : MarketGateState Moment}
    (read : MarketGateState.fromDict iso (Json.sortKeys (gate.market.toDict iso)) = some market) :
    GateState.fromDict iso (Json.sortKeys (gate.toDict iso)) =
      some { gate.sorted with market } := by
  rw [fromDict, Json.mapping?_sortKeys, toDict_eq]
  simp only [Value.mapping?, Option.map_some, bind, Option.bind_some, Json.get?_sortEntries,
    getOr_sortEntries _ _ (show Json.sortKeys (.bool false) = .bool false from rfl), getOr_sorted]
  simp [Json.get?_cons, getOr_cons, read, RiskGateState.fromDict_sortKeys,
    HumanGateState.fromDict_sorted, getOr_cfgHash, getOr_dataHash, getOr_schemaVersion, sorted]

/-! ## The states that are read -/

/-- Equal states, which may have their blocks in another order. -/
def GateState.Equal (left right : GateState Moment) : Prop :=
  left.market.perSymbol.Perm right.market.perSymbol ∧
    left = withBlocks right left.market.perSymbol

theorem fromDict_toDict_of_sound [iso.ReadsBack] {gate : GateState Moment} (sound : Sound gate) :
    ∃ read, GateState.fromDict iso (gate.toDict iso) = some read ∧ read.Equal gate := by
  have keys : ((MarketGateState.perSymbolDict iso gate.market.perSymbol).map Prod.fst).Nodup :=
    keys_perSymbolDict gate.market.perSymbol sound.distinct
  have stored (symbol : String) :
      (Mapping.get? (MarketGateState.perSymbolDict iso gate.market.perSymbol) symbol).map
          (GateBlockState.fromDict iso) =
        (blockAt gate.market.perSymbol symbol).map fun block => some (id block) := by
    rw [get?_perSymbolDict_of_sound sound, Option.map_map]
    exact Option.map_congr fun block _ => GateBlockState.fromDict_toEntries block
  obtain ⟨perSymbol, read, same⟩ := blocksFrom_of_stored sound.distinct keys stored
  refine ⟨_, GateState.fromDict_toDict_of_read (MarketGateState.fromDict_toDict_of_read read), ?_,
    rfl⟩
  simpa [mapBlocks] using same

theorem fromDict_sorted_of_sound [iso.ReadsBack] {gate : GateState Moment} (sound : Sound gate) :
    ∃ read, GateState.fromDict iso (Json.sortKeys (gate.toDict iso)) = some read ∧
      read.Equal gate.sorted := by
  have written : ((MarketGateState.perSymbolDict iso gate.market.perSymbol).map Prod.fst).Nodup :=
    keys_perSymbolDict gate.market.perSymbol sound.distinct
  have keys := (Json.keys_sortEntries _).nodup_iff.mpr written
  have stored (symbol : String) :
      (Mapping.get? (Json.sortEntries
          (MarketGateState.perSymbolDict iso gate.market.perSymbol)) symbol).map
          (GateBlockState.fromDict iso) =
        (blockAt gate.market.perSymbol symbol).map fun block => some block.sorted := by
    rw [Json.get?_sortEntries, get?_perSymbolDict_of_sound sound, Option.map_map, Option.map_map]
    refine Option.map_congr fun block _ => ?_
    exact (GateBlockState.fromDict_sortKeys _).trans
      (congrArg (Option.map GateBlockState.sorted) (GateBlockState.fromDict_toEntries block))
  obtain ⟨perSymbol, read, same⟩ := blocksFrom_of_stored sound.distinct keys stored
  exact ⟨_, GateState.fromDict_sorted_of_read (MarketGateState.fromDict_sorted_of_read read), same,
    rfl⟩

/-! ## Operations on documents -/

theorem writable_blank : GateBlockState.Writable iso {} := ⟨List.nodup_nil, trivial⟩

theorem assigns_writable {Component : Type} {fine : Component → Prop}
    {assign : GateBlockState Moment → Option Component → GateBlockState Moment}
    (kept : ∀ block component, block.Writable iso → (∀ given ∈ component, fine given) →
      (assign block component).Writable iso) :
    Assigns (GateBlockState.Writable iso) fine assign where
  sets := by
    intro block component known fine
    have writable : block.Writable iso := known.elim (fun blank => blank ▸ writable_blank) id
    exact kept block (some component) writable fun _ member => Option.some.inj member ▸ fine
  clears := fun block writable _ => kept block none writable nofun

theorem assigns_writable_news :
    Assigns (GateBlockState.Writable iso) (fun news => Json.WellFormed (news.toDict iso)) setNews :=
  assigns_writable fun block news writable fine => by
    obtain ⟨-, others⟩ := GateBlockState.writable_iff.mp writable
    exact GateBlockState.writable_iff.mpr ⟨fine, others⟩

theorem assigns_writable_calendar :
    Assigns (GateBlockState.Writable iso) (fun calendar => Json.WellFormed calendar.toDict)
      setCalendar :=
  assigns_writable fun block calendar writable fine => by
    obtain ⟨news, -, spread⟩ := GateBlockState.writable_iff.mp writable
    exact GateBlockState.writable_iff.mpr ⟨news, fine, spread⟩

theorem assigns_writable_spread :
    Assigns (GateBlockState.Writable iso) (fun spread => Json.WellFormed (spread.toDict iso))
      setSpread :=
  assigns_writable fun block spread writable fine => by
    obtain ⟨news, calendar, -⟩ := GateBlockState.writable_iff.mp writable
    exact GateBlockState.writable_iff.mpr ⟨news, calendar, fine⟩

def Each {Component : Type} (fine : Component → Prop) (globalState : Option Component)
    (perSymbol : Option (List (String × Option Component))) : Prop :=
  (∀ component ∈ globalState, fine component) ∧
    ∀ update ∈ perSymbol.getD [], ∀ component ∈ update.2, fine component

/-- The values that an operation is given can be written as JSON; texts can. -/
def Operation.Documents (iso : IsoFormat Moment) : Operation Moment → Prop
  | .updateNews globalState perSymbol =>
    Each (fun news => Json.WellFormed (news.toDict iso)) globalState perSymbol
  | .updateCalendar globalState perSymbol =>
    Each (fun calendar => Json.WellFormed calendar.toDict) globalState perSymbol
  | .updateSpread globalState perSymbol =>
    Each (fun spread => Json.WellFormed (spread.toDict iso)) globalState perSymbol
  | .updateLiquidity globalState =>
    ∀ liquidity ∈ globalState, Json.WellFormed (liquidity.toDict iso)
  | .updateRisk update =>
    ∀ field ∈ [update.reduceOnlyReason, update.killSwitchRecommendation,
      update.killSwitchReason], ∀ value ∈ field, Json.WellFormed value
  | .applyRiskAssessment riskState => Json.WellFormed riskState.toDict
  | .updateHuman update =>
    ∀ field ∈ [update.requiredRoles, update.acknowledgedRoles],
      ∀ roles ∈ field, Json.WellFormedItems roles
  | .setProfitReadinessStatus status _ _ => Json.WellFormed status
  | .setSchemaVersion version => Json.WellFormed version
  | .setHashes cfgHash dataHash => Json.WellFormed cfgHash ∧ Json.WellFormed dataHash
  | _ => True

section Writable

variable {gate : GateState Moment}

theorem writable_replaceRisk (writable : gate.Writable iso) {risk : RiskGateState}
    (fine : Json.WellFormed risk.toDict) : (replaceRisk gate risk).Writable iso :=
  { writable with risk := fine }

theorem RiskGateState.wellFormed_toDict {risk : RiskGateState} :
    Json.WellFormed risk.toDict ↔ Json.WellFormed risk.reduceOnlyReason ∧
      Json.WellFormed risk.killSwitchRecommendation ∧ Json.WellFormed risk.killSwitchReason := by
  simp [RiskGateState.toDict, Json.WellFormed, Json.WellFormedEntries]

theorem HumanGateState.wellFormed_toDict {human : HumanGateState Moment} :
    Json.WellFormed (human.toDict iso) ↔ Json.WellFormedItems human.requiredRoles ∧
      Json.WellFormedItems human.acknowledgedRoles := by
  simp [HumanGateState.toDict, Json.WellFormed, Json.WellFormedEntries, wellFormed_datetimeToIso]

theorem writable_setBlocks (writable : gate.Writable iso) {perSymbol : Blocks Moment}
    (kept : Kept (GateBlockState.Writable iso) perSymbol) :
    (withBlocks gate perSymbol).Writable iso :=
  { writable with distinct := kept.distinct, perSymbol := kept.each }

theorem kept_of_writable (writable : gate.Writable iso) :
    Kept (GateBlockState.Writable iso) gate.market.perSymbol :=
  ⟨writable.distinct, writable.perSymbol⟩

theorem getD_of_given {Field : Type} {fine : Field → Prop} {given : Option Field} {old : Field}
    (documents : ∀ value ∈ given, fine value) (kept : fine old) : fine (given.getD old) := by
  cases given with
  | none => exact kept
  | some value => exact documents value rfl

theorem wellFormed_resolveHashes {env : GateUpdate.Environment} {cfgHash dataHash : Option String}
    {cfg data : Value} (resolved : resolveHashes env cfgHash dataHash = .ok (cfg, data)) :
    Json.WellFormed cfg ∧ Json.WellFormed data := by
  obtain ⟨hash, found, same⟩ := bind_ok resolved
  obtain ⟨rfl, rfl⟩ := Prod.mk.inj (Except.ok.inj same)
  constructor
  · rw [cfgResolved]
    split
    · exact GateUpdate.wellFormed_ofText cfgHash
    · exact GateUpdate.wellFormed_resolveCfg env
  · rw [dataResolved] at found
    split at found
    · cases found
      exact GateUpdate.wellFormed_ofText dataHash
    · exact GateUpdate.wellFormed_resolveData found

theorem writable_updateGlobalSpread (writable : gate.Writable iso)
    {globalState : Option (SpreadGateState Moment)}
    (documents : ∀ spread ∈ globalState, Json.WellFormed (spread.toDict iso)) :
    (updateGlobalSpread gate globalState).Writable iso := by
  cases globalState with
  | none => exact writable
  | some spread =>
    have fine := documents spread rfl
    rw [updateGlobalSpread]
    dsimp only
    split
    · exact { writable with spread := fine }
    · exact { writable with spread := fine }

theorem writable_step (writable : gate.Writable iso) {operation : Operation Moment}
    (documents : operation.Documents iso) : (step gate operation).Writable iso := by
  cases operation with
  | updateNews globalState perSymbol =>
    have changed : (updateNews gate globalState none).Writable iso :=
      { writable with news := getD_of_given documents.1 writable.news }
    exact writable_setBlocks changed
      (kept_assignSymbols assigns_writable_news (kept_of_writable writable) documents.2)
  | updateCalendar globalState perSymbol =>
    have changed : (updateCalendar gate globalState none).Writable iso :=
      { writable with calendar := getD_of_given documents.1 writable.calendar }
    exact writable_setBlocks changed
      (kept_assignSymbols assigns_writable_calendar (kept_of_writable writable) documents.2)
  | updateSpread globalState perSymbol =>
    have changed := writable_updateGlobalSpread writable documents.1
    exact writable_setBlocks changed
      (kept_assignSymbols assigns_writable_spread (kept_of_writable changed) documents.2)
  | updateLiquidity globalState =>
    cases globalState with
    | none => exact writable
    | some liquidity => exact GateUpdate.writable_updateLiquidity writable (documents liquidity rfl)
  | updateRisk update =>
    obtain ⟨reason, recommendation, stopReason, -⟩ := by
      simpa only [Operation.Documents, List.forall_mem_cons] using documents
    obtain ⟨oldReason, oldRecommendation, oldStopReason⟩ :=
      RiskGateState.wellFormed_toDict.mp writable.risk
    exact writable_replaceRisk writable (RiskGateState.wellFormed_toDict.mpr
      ⟨getD_of_given reason oldReason, getD_of_given recommendation oldRecommendation,
        getD_of_given stopReason oldStopReason⟩)
  | applyRiskAssessment riskState => exact writable_replaceRisk writable documents
  | updateHuman update =>
    obtain ⟨required, acknowledged, -⟩ := by
      simpa only [Operation.Documents, List.forall_mem_cons] using documents
    obtain ⟨oldRequired, oldAcknowledged⟩ := HumanGateState.wellFormed_toDict.mp writable.human
    exact { writable with
      human := HumanGateState.wellFormed_toDict.mpr
        ⟨getD_of_given required oldRequired, getD_of_given acknowledged oldAcknowledged⟩ }
  | clearSymbol symbol =>
    exact writable_setBlocks writable (kept_popSymbol (kept_of_writable writable) symbol)
  | setProfitReadinessStatus status boardMode allowAutoExecute =>
    cases allowAutoExecute <;> exact { writable with profitReadinessStatus := documents }
  | setAutoExecute boardMode => exact { writable with }
  | setSchemaVersion version => exact { writable with schemaVersion := documents }
  | setHashes cfgHash dataHash =>
    exact GateUpdate.writable_setHashes writable documents.1 documents.2
  | persistLatest env cfgHash dataHash =>
    rw [step]
    split
    · rename_i cfg data resolved
      obtain ⟨cfgFine, dataFine⟩ := wellFormed_resolveHashes resolved
      exact GateUpdate.writable_setHashes writable cfgFine dataFine
    · exact writable

end Writable

/-! ## Persistence -/

/-- A state is read back from its document, and the state after a write from the file
that is written, where mappings among the values may list their keys in another order. -/
structure Survives (iso : IsoFormat Moment) (dumps : Value → List Char)
    (gate : GateState Moment) : Prop where
  document : ∃ read, GateState.fromDict iso (gate.toDict iso) = some read ∧ read.Equal gate
  file : ∀ env cfgHash dataHash after file,
    persistLatest iso dumps env gate cfgHash dataHash = .ok (after, file) →
    after = step gate (.persistLatest env cfgHash dataHash) ∧
      ∃ read, GateUpdate.load iso file = some read ∧ read.Equal after.sorted

theorem step_of_persistLatest {dumps : Value → List Char} {env : GateUpdate.Environment}
    {gate after : GateState Moment} {cfgHash dataHash : Option String} {file : Brokers.JsonFile}
    (written : persistLatest iso dumps env gate cfgHash dataHash = .ok (after, file)) :
    after = step gate (.persistLatest env cfgHash dataHash) ∧
      file = .text (dumps (Json.sortKeys (after.toDict iso))) := by
  obtain ⟨⟨cfg, data⟩, resolved, same⟩ := bind_ok written
  obtain ⟨rfl, rfl⟩ := Prod.mk.inj (Except.ok.inj same)
  rw [step, resolved]
  exact ⟨rfl, rfl⟩

section Run

variable {operations : List (Operation Moment)}

theorem writable_run (documents : ∀ operation ∈ operations, operation.Documents iso) :
    (runFrom step GateState.default operations).Writable iso := by
  have throughout : Throughout step (GateState.Writable iso) GateState.default operations :=
    throughout_of_eachStep (fun _ _ writable document => writable_step writable document)
      writable_default (eachStep_of_mem documents)
  exact throughout.final

theorem survives_of_documents [iso.ReadsBack] {dumps : Value → List Char}
    (roundTrips : ∀ value, Json.WellFormed value → Json.loads (dumps value) = some value)
    (documents : ∀ operation ∈ operations, operation.Documents iso) :
    Survives iso dumps (runFrom step GateState.default operations) := by
  have sound := sound_run operations
  refine ⟨fromDict_toDict_of_sound sound, fun env cfgHash dataHash after file written => ?_⟩
  obtain ⟨rfl, rfl⟩ := step_of_persistLatest written
  have document : Operation.Documents iso (.persistLatest env cfgHash dataHash) := trivial
  have writable := writable_step (writable_run documents) document
  obtain ⟨read, readBack, same⟩ := @fromDict_sorted_of_sound _ iso _ _
    (sound_step sound (.persistLatest env cfgHash dataHash))
  refine ⟨rfl, read, ?_, same⟩
  have loaded := roundTrips _ (Json.wellFormed_sortKeys _ (GateState.wellFormed_toDict writable))
  rw [GateUpdate.load, GateState.fromJson, loaded]
  exact readBack

end Run

/-! ## Aware times -/

/-- An aware `datetime`: its local time with the offset there, and whether this offset depends on
`fold`, as that of a zone does in the hours that it repeats or skips. -/
structure AwareTime where
  moment : DateTime
  bounded : ∀ micros ∈ moment.offset, micros.natAbs < 86400000000
  dependsOnFold : Bool
deriving DecidableEq

/-- A time that is read has a fixed offset.  It equals no time whose offset depends on `fold`. -/
def awareTimes : IsoFormat AwareTime where
  isoformat time := isoTexts.isoformat time.moment
  fromisoformat text := (isoTexts.fromisoformat text).bind fun moment =>
    if bounded : ∀ micros ∈ moment.offset, micros.natAbs < 86400000000 then
      some ⟨moment, bounded, false⟩
    else none

/-- A time whose offset does not depend on `fold`. -/
abbrev SteadyTime := { time : AwareTime // time.dependsOnFold = false }

theorem isSpace_of_isoSign {char : Char} (sign : isoSign char = true) : isSpace char = false := by
  rw [isoSign, Bool.or_eq_true, List.contains_iff_mem] at sign
  cases sign with
  | inl digit =>
    obtain ⟨first, last⟩ := Char.isDigit_iff_toNat.mp digit
    have bounds : 48 ≤ char.toNat ∧ char.toNat ≤ 57 := ⟨first, last⟩
    simp only [isSpace, Bool.or_eq_false_iff, Bool.and_eq_false_iff, decide_eq_false_iff_not,
      beq_eq_false_iff_ne]
    omega
  | inr mark =>
    have every : "-T:.+".toList.all (fun mark => !isSpace mark) = true := by decide
    simpa using List.all_eq_true.mp every char mark

def steadyTimes : IsoFormat SteadyTime where
  isoformat time := awareTimes.isoformat time.val
  fromisoformat text := (awareTimes.fromisoformat text).bind fun time =>
    if steady : time.dependsOnFold = false then some ⟨time, steady⟩ else none

instance : steadyTimes.ReadsBack where
  inverse := by
    rintro ⟨⟨moment, bounded, dependsOnFold⟩, steady⟩
    obtain rfl : dependsOnFold = false := steady
    have read : isoTexts.fromisoformat (isoTexts.isoformat moment) = some moment :=
      fromisoformat_isoformat bounded
    simp only [steadyTimes, awareTimes, read, Option.bind_some]
    rw [dif_pos bounded]
    rfl
  unpadded time := by
    have signs := List.all_eq_true.mp (isoSign_isoformat time.val.moment)
    refine strip_eq_of_trimmed ⟨fun char first => ?_, fun char last => ?_⟩
    · exact isSpace_of_isoSign (signs char (List.mem_of_head? first))
    · exact isSpace_of_isoSign (signs char (List.mem_of_getLast? last))
  offset time := fun last => by
    have signs := List.all_eq_true.mp (isoSign_isoformat time.val.moment)
    exact (low_of_isoSign (signs 'Z' (List.mem_of_getLast? last))).2 rfl

/-- Every state that is reached with times whose offset does not depend on `fold` survives
persistence. -/
theorem survives_run {operations : List (Operation SteadyTime)} {dumps : Value → List Char}
    (roundTrips : ∀ value, Json.WellFormed value → Json.loads (dumps value) = some value)
    (documents : ∀ operation ∈ operations, operation.Documents steadyTimes) :
    Survives steadyTimes dumps (runFrom step GateState.default operations) :=
  survives_of_documents roundTrips documents

/-- Half past three in the afternoon in Tokyo. -/
def afternoon : SteadyTime :=
  ⟨{ moment := { time := 63929143800000000, offset := some 32400000000, inRange := by decide }
     bounded := by decide
     dependsOnFold := false }, rfl⟩

/-- A blocked symbol, a hash and a write. -/
def blockedRun : List (Operation SteadyTime) :=
  [.updateNews none (some [("EURUSD",
      some { blocked := true, reason := .str "cpi", releaseTs := some afternoon })]),
    .setSchemaVersion (.str "v1"), .setHashes (.str "cfg") .null, .persistLatest {} none none]

theorem documents_blockedRun : ∀ operation ∈ blockedRun, operation.Documents steadyTimes := by
  rw [blockedRun, List.forall_mem_cons, List.forall_mem_cons, List.forall_mem_cons,
    List.forall_mem_singleton]
  refine ⟨?_, ?_, ?_, ?_⟩
  · refine ⟨fun _ absent => absurd absent (Option.not_mem_none _), ?_⟩
    simp [NewsGateState.wellFormed_toDict, Json.WellFormed]
  · exact trivial
  · exact ⟨trivial, trivial⟩
  · exact trivial

theorem survives_blockedRun : Survives steadyTimes (Json.dumpsIndented 0)
    (runFrom step GateState.default blockedRun) :=
  survives_run (fun _ wellFormed => Json.loads_dumpsIndented wellFormed) documents_blockedRun

/-- Half past one in the hour that New York repeats. -/
def repeatedHour : AwareTime where
  moment := { time := 63929093400000000, offset := some (-14400000000), inRange := by decide }
  bounded := by decide
  dependsOnFold := true

/-- It is not read as it was. -/
theorem repeatedHour_not_survives : ¬ Survives awareTimes (Json.dumpsIndented 0)
    (runFrom step GateState.default
      [.updateNews (some { blocked := true, releaseTs := some repeatedHour }) none]) := by
  intro survives
  obtain ⟨read, reads, -, same⟩ := survives.document
  have lost : (GateState.fromDict awareTimes ((runFrom step GateState.default
      [.updateNews (some { blocked := true, releaseTs := some repeatedHour }) none]).toDict
        awareTimes)).bind (fun read => read.market.news.releaseTs) =
          some { repeatedHour with dependsOnFold := false } := by
    decide +kernel
  rw [reads, Option.bind_some, same] at lost
  have held : some repeatedHour = some { repeatedHour with dependsOnFold := false } := lost
  exact absurd held (by decide)

end FxToushi.Core.GateDocument
