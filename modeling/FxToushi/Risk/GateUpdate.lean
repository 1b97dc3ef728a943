import FxToushi.Brokers.Sandbox
import FxToushi.Core.GateWritable

namespace FxToushi.Risk.GateUpdate

open Brokers FxToushi.Core.GateDocument Py

/-! # The gate file under a liquidity update

An update reads the gate file, replaces the liquidity of what it read and
writes all of it back.  A file that does not read as a gate counts as none.
-/

variable {Moment : Type} (iso : IsoFormat Moment)

/-! ## The update -/

/-- What the update takes from a snapshot. -/
structure LiquiditySnapshot where
  state : String
  recommendation : Option String := none
  updatedAt : String

/-- Where the hashes come from: the file that `TRADECTL_CFG_PATH` names, by its
digest, the variables for the hashes, and the data manifest. -/
structure Environment where
  cfgPath : Option String := none
  cfgHash : Option String := none
  dataHash : Option String := none
  manifest : JsonFile := .missing

def orEmpty (value : Value) : Value := if isTrue value then value else .map []

def manifestHash : JsonFile → Except PyError Value
  | .missing => .ok .null
  | .undecodable => .error .valueError
  | .text content =>
    match Json.loads content with
    | none => .ok .null
    | some (.map manifest) =>
      match orEmpty (getOr manifest "strategies") with
      | .map strategies =>
        match orEmpty (getOr strategies "m1_baseline_ma_rsi") with
        | .map entry => .ok (getOr entry "dataset_sha256")
        | _ => .error .attributeError
      | _ => .error .attributeError
    | some _ => .error .attributeError

def resolveCfg (env : Environment) : Value :=
  match env.cfgPath with
  | some digest => .str digest
  | none => if truthy env.cfgHash then ofText env.cfgHash else .null

def resolveData (env : Environment) : Except PyError Value :=
  if truthy env.dataHash then .ok (ofText env.dataHash) else manifestHash env.manifest

/-- `_resolve_hashes`, for a call that gives none. -/
def resolveHashes (env : Environment) : Except PyError (Value × Value) := do
  let dataHash ← resolveData env
  return (resolveCfg env, dataHash)

/-- `GateState.load`. -/
def load : JsonFile → Option (GateState Moment)
  | .text content => GateState.fromJson iso content
  | _ => none

/-- `snapshot.updated_at.replace("Z", "+00:00")`. -/
def replaceZ (text : String) : String :=
  String.ofList (text.toList.flatMap (fun char => if char = 'Z' then "+00:00".toList else [char]))

def liquidityOf (snapshot : LiquiditySnapshot) (updatedAt : Moment) :
    LiquidityGateState Moment where
  state := .str snapshot.state
  recommendation := ofText snapshot.recommendation
  updatedAt := some updatedAt

def persistLatest (env : Environment) (gate : GateState Moment) : Except PyError JsonFile := do
  let (cfgHash, dataHash) ← resolveHashes env
  return .text ((setHashes gate cfgHash dataHash).toJson iso)

/-- The file that the update writes. -/
def updateGateState (env : Environment) (file : JsonFile) (snapshot : LiquiditySnapshot) :
    Except PyError JsonFile :=
  let gate := (load iso file).getD GateState.default
  match iso.fromisoformat (replaceZ snapshot.updatedAt) with
  | none => .error .valueError
  | some updatedAt =>
    persistLatest iso env (updateLiquidity gate (liquidityOf snapshot updatedAt))

/-- An update that raises has written nothing. -/
def fileAfter (env : Environment) (file : JsonFile) (snapshot : LiquiditySnapshot) : JsonFile :=
  match updateGateState iso env file snapshot with
  | .ok written => written
  | .error _ => file

/-! ## What a file records -/

/-- The parts of a gate, each of them where it can be read on its own. -/
structure Parts (Moment : Type) where
  news : Option (NewsGateState Moment)
  calendar : Option CalendarGateState
  spread : Option (SpreadGateState Moment)
  readiness : Option Value
  risk : Option RiskGateState
  block : String → Option (GateBlockState Moment)

/-- A symbol without an entry has the block that says nothing. -/
def blockOf (market : Mapping) (symbol : String) : Option (GateBlockState Moment) := do
  let entries ← MarketGateState.perSymbolEntries market
  match Mapping.get? entries symbol with
  | none => some {}
  | some block => GateBlockState.fromDict iso block

def partsOfDocument (document : Value) : Parts Moment :=
  let market : Option Mapping := do
    let sections ← document.mapping?
    let market ← sections.get? "market"
    market.mapping?
  { news := market >>= fun market => market.get? "news" >>= NewsGateState.fromDict iso
    calendar := market >>= fun market => market.get? "calendar" >>= CalendarGateState.fromDict
    spread := market >>= fun market => market.get? "spread" >>= SpreadGateState.fromDict iso
    readiness := market.map (fun market => getOr market "profit_readiness_status" (.str "ok"))
    risk := document.mapping? >>= fun sections =>
      sections.get? "risk" >>= RiskGateState.fromDict
    block := fun symbol => market >>= fun market => blockOf iso market symbol }

def unreadable : Parts Moment where
  news := none
  calendar := none
  spread := none
  readiness := none
  risk := none
  block := fun _ => none

/-- The parts of a file, up to the order of keys.  Where there is no file, every
part has its default. -/
def partsOf : JsonFile → Parts Moment
  | .missing => partsOfDocument iso (Json.sortKeys (GateState.default.toDict iso))
  | .undecodable => unreadable
  | .text content =>
    match Json.loads content with
    | none => unreadable
    | some document => partsOfDocument iso (Json.sortKeys document)

/-- The file is left untouched, or all its other parts are. -/
def TouchesOnlyLiquidity (env : Environment) (file : JsonFile) (snapshot : LiquiditySnapshot) :
    Prop :=
  fileAfter iso env file snapshot = file ∨
    partsOf iso (fileAfter iso env file snapshot) = partsOf iso file

/-- The update cannot write: its time is no date, or the data manifest raises. -/
def Unwritable (env : Environment) (snapshot : LiquiditySnapshot) : Prop :=
  iso.fromisoformat (replaceZ snapshot.updatedAt) = none ∨
    ∃ error, resolveHashes env = .error error

/-! ## The parts of a gate that loads -/

def partsOfGate (gate : GateState Moment) : Parts Moment where
  news := some gate.market.news.sorted
  calendar := some gate.market.calendar.sorted
  spread := some gate.market.spread.sorted
  readiness := some (Json.sortKeys gate.market.profitReadinessStatus)
  risk := some gate.risk.sorted
  block := fun symbol => some ((blockAt gate.market.perSymbol symbol).getD {}).sorted

section Reading

variable {iso} {gate : GateState Moment}

theorem blockOf_of_fromDict {sections entries : Mapping}
    {blocks : List (String × GateBlockState Moment)}
    (found : MarketGateState.perSymbolEntries sections = some entries)
    (read : MarketGateState.blocksFrom iso entries = some blocks) (symbol : String) :
    blockOf iso (Json.sortEntries sections) symbol =
      some ((blockAt blocks symbol).getD {}).sorted := by
  have known := get?_of_blocksFrom read symbol
  rw [blockOf, MarketGateState.perSymbolEntries_sorted, found]
  simp only [Option.map_some, bind, Option.bind_some, Json.get?_sortEntries]
  cases stored : Mapping.get? entries symbol with
  | none =>
    rw [stored] at known
    cases held : blockAt blocks symbol with
    | none => rfl
    | some block =>
      rw [held] at known
      cases known
  | some value =>
    rw [stored] at known
    cases held : blockAt blocks symbol with
    | none =>
      rw [held] at known
      cases known
    | some block =>
      rw [held, Option.map_some, Option.map_some] at known
      simp only [Option.map_some, GateBlockState.fromDict_sortKeys, Option.some.inj known]
      rfl

/-- A document that reads as a gate has the gate's parts. -/
theorem partsOfDocument_of_fromDict {document : Value}
    (read : GateState.fromDict iso document = some gate) :
    partsOfDocument iso (Json.sortKeys document) = partsOfGate gate := by
  obtain ⟨sections, mapped, read⟩ := Option.bind_eq_some_iff.mp read
  obtain ⟨market, marketRead, read⟩ := Option.bind_eq_some_iff.mp read
  obtain ⟨risk, riskRead, read⟩ := Option.bind_eq_some_iff.mp read
  obtain ⟨human, -, same⟩ := Option.bind_eq_some_iff.mp read
  cases same
  obtain ⟨marketData, marketFound, marketRead⟩ := Option.bind_eq_some_iff.mp marketRead
  obtain ⟨riskData, riskFound, riskRead⟩ := Option.bind_eq_some_iff.mp riskRead
  obtain ⟨fields, fieldsMapped, marketRead⟩ := Option.bind_eq_some_iff.mp marketRead
  obtain ⟨entries, entriesFound, marketRead⟩ := Option.bind_eq_some_iff.mp marketRead
  obtain ⟨perSymbol, perSymbolRead, marketRead⟩ := Option.bind_eq_some_iff.mp marketRead
  obtain ⟨news, newsRead, marketRead⟩ := Option.bind_eq_some_iff.mp marketRead
  obtain ⟨calendar, calendarRead, marketRead⟩ := Option.bind_eq_some_iff.mp marketRead
  obtain ⟨spread, spreadRead, marketRead⟩ := Option.bind_eq_some_iff.mp marketRead
  obtain ⟨liquidity, -, same⟩ := Option.bind_eq_some_iff.mp marketRead
  cases same
  obtain ⟨newsData, newsFound, newsRead⟩ := Option.bind_eq_some_iff.mp newsRead
  obtain ⟨calendarData, calendarFound, calendarRead⟩ := Option.bind_eq_some_iff.mp calendarRead
  obtain ⟨spreadData, spreadFound, spreadRead⟩ := Option.bind_eq_some_iff.mp spreadRead
  have sorted : (Json.sortKeys marketData).mapping? = some (Json.sortEntries fields) := by
    rw [Json.mapping?_sortKeys, fieldsMapped]
    rfl
  have status := getOr_sortEntries fields "profit_readiness_status" (show
    Json.sortKeys (.str "ok") = .str "ok" from rfl)
  simp only [partsOfDocument, Json.mapping?_sortKeys, mapped, Option.map_some, bind,
    Option.bind_some, Json.get?_sortEntries, marketFound, riskFound, fieldsMapped, newsFound,
    calendarFound, spreadFound, NewsGateState.fromDict_sortKeys, newsRead,
    CalendarGateState.fromDict_sortKeys, calendarRead, SpreadGateState.fromDict_sortKeys,
    spreadRead, RiskGateState.fromDict_sortKeys, riskRead, status,
    blockOf_of_fromDict entriesFound perSymbolRead, partsOfGate]

theorem partsOf_toJson [iso.ReadsBack] (writable : gate.Writable iso) :
    partsOf iso (.text (gate.toJson iso)) = partsOfGate gate := by
  obtain ⟨perSymbol, read, same⟩ := GateState.fromDict_toDict iso gate writable.distinct
  simp only [partsOf, GateState.loads_toJson writable, Json.sortKeys_sortKeys]
  rw [partsOfDocument_of_fromDict read]
  simp only [partsOfGate, same]

theorem partsOf_missing [iso.ReadsBack] : partsOf iso .missing = partsOfGate GateState.default := by
  have writable : (GateState.default : GateState Moment).Writable iso := writable_default
  obtain ⟨perSymbol, read, same⟩ :=
    GateState.fromDict_toDict iso GateState.default writable.distinct
  rw [partsOf, partsOfDocument_of_fromDict read]
  simp only [partsOfGate, same]

theorem partsOf_of_load {file : JsonFile} (loaded : load iso file = some gate) :
    partsOf iso file = partsOfGate gate := by
  cases file with
  | missing => cases loaded
  | undecodable => cases loaded
  | text content =>
    obtain ⟨document, parsed, read⟩ := Option.bind_eq_some_iff.mp loaded
    simp only [partsOf, parsed]
    exact partsOfDocument_of_fromDict read

theorem writable_of_load {file : JsonFile} (loaded : load iso file = some gate) :
    gate.Writable iso := by
  cases file with
  | missing => cases loaded
  | undecodable => cases loaded
  | text content =>
    obtain ⟨document, parsed, read⟩ := Option.bind_eq_some_iff.mp loaded
    exact GateState.writable_of_fromDict (Json.wellFormed_of_loads parsed) read

/-! ## The gate that is written -/

theorem partsOfGate_updateLiquidity (gate : GateState Moment)
    (liquidity : LiquidityGateState Moment) :
    partsOfGate (updateLiquidity gate liquidity) = partsOfGate gate := by
  rw [updateLiquidity]
  split <;> rfl

theorem partsOfGate_setHashes (gate : GateState Moment) (cfgHash dataHash : Value) :
    partsOfGate (setHashes gate cfgHash dataHash) = partsOfGate gate := rfl

theorem writable_updateLiquidity (writable : gate.Writable iso)
    {liquidity : LiquidityGateState Moment} (fine : Json.WellFormed (liquidity.toDict iso)) :
    (updateLiquidity gate liquidity).Writable iso := by
  rw [updateLiquidity]
  split
  · exact { writable with liquidity := fine }
  · exact { writable with liquidity := fine }

theorem writable_setHashes (writable : gate.Writable iso) {cfgHash dataHash : Value}
    (cfg : Json.WellFormed cfgHash) (data : Json.WellFormed dataHash) :
    (setHashes gate cfgHash dataHash).Writable iso := by
  refine { writable with cfgHash := ?_, dataHash := ?_ }
  · rw [setHashes]
    dsimp only
    split
    · exact cfg
    · exact writable.cfgHash
  · rw [setHashes]
    dsimp only
    split
    · exact data
    · exact writable.dataHash

theorem wellFormed_ofText (text : Option String) : Json.WellFormed (ofText text) := by
  cases text <;> exact trivial

theorem wellFormed_orEmpty {value : Value} (wellFormed : Json.WellFormed value) :
    Json.WellFormed (orEmpty value) := by
  rw [orEmpty]
  split
  · exact wellFormed
  · exact ⟨List.nodup_nil, trivial⟩

theorem wellFormed_manifestHash {manifest : JsonFile} {hash : Value}
    (found : manifestHash manifest = .ok hash) : Json.WellFormed hash := by
  cases manifest with
  | missing =>
    cases found
    trivial
  | undecodable => cases found
  | text content =>
    rw [manifestHash] at found
    split at found
    · cases found
      trivial
    · rename_i document parsed
      have wellFormed := Json.wellFormed_of_loads parsed
      have blank : Json.WellFormed .null := trivial
      split at found
      · rename_i strategies listed
        have fine := wellFormed_orEmpty (wellFormed_getOr wellFormed.2 "strategies" blank)
        rw [listed] at fine
        split at found
        · rename_i entry known
          have entryFine := wellFormed_orEmpty
            (wellFormed_getOr fine.2 "m1_baseline_ma_rsi" blank)
          rw [known] at entryFine
          cases found
          exact wellFormed_getOr entryFine.2 _ blank
        · cases found
      · cases found
    · cases found

theorem wellFormed_resolveCfg (env : Environment) : Json.WellFormed (resolveCfg env) := by
  rw [resolveCfg]
  split
  · exact trivial
  · split
    · exact wellFormed_ofText _
    · exact trivial

theorem wellFormed_resolveData {env : Environment} {dataHash : Value}
    (resolved : resolveData env = .ok dataHash) : Json.WellFormed dataHash := by
  rw [resolveData] at resolved
  split at resolved
  · cases resolved
    exact wellFormed_ofText _
  · exact wellFormed_manifestHash resolved

theorem wellFormed_resolveHashes {env : Environment} {cfgHash dataHash : Value}
    (resolved : resolveHashes env = .ok (cfgHash, dataHash)) :
    Json.WellFormed cfgHash ∧ Json.WellFormed dataHash := by
  obtain ⟨hash, found, same⟩ := Data.bind_ok resolved
  cases same
  exact ⟨wellFormed_resolveCfg env, wellFormed_resolveData found⟩

theorem writable_read (iso : IsoFormat Moment) (file : JsonFile) :
    ((load iso file).getD GateState.default).Writable iso := by
  cases loaded : load iso file with
  | none => exact writable_default
  | some gate => exact writable_of_load loaded

/-- An update that can write leaves a file with the parts of the gate it read. -/
theorem partsOf_fileAfter [iso.ReadsBack] {env : Environment} {file : JsonFile}
    {snapshot : LiquiditySnapshot}
    (writes : ¬ Unwritable iso env snapshot) :
    partsOf iso (fileAfter iso env file snapshot) =
      partsOfGate ((load iso file).getD GateState.default) := by
  rw [Unwritable, not_or] at writes
  obtain ⟨updatedAt, parsed⟩ := Option.ne_none_iff_exists'.mp writes.1
  cases resolved : resolveHashes env with
  | error error => exact absurd ⟨error, resolved⟩ writes.2
  | ok hashes =>
    obtain ⟨cfgHash, dataHash⟩ := hashes
    obtain ⟨cfg, data⟩ := wellFormed_resolveHashes resolved
    have fine : Json.WellFormed ((liquidityOf snapshot updatedAt).toDict iso) :=
      LiquidityGateState.wellFormed_toDict.mpr ⟨trivial, wellFormed_ofText _⟩
    have writable := writable_setHashes
      (writable_updateLiquidity (writable_read iso file) fine) cfg data
    have written : fileAfter iso env file snapshot = .text ((setHashes (updateLiquidity
        ((load iso file).getD GateState.default) (liquidityOf snapshot updatedAt))
        cfgHash dataHash).toJson iso) := by
      simp only [fileAfter, updateGateState, parsed, persistLatest, resolved, bind, Except.bind,
        pure, Except.pure]
    rw [written, partsOf_toJson writable, partsOfGate_setHashes, partsOfGate_updateLiquidity]

theorem fileAfter_unwritable {env : Environment} {file : JsonFile} {snapshot : LiquiditySnapshot}
    (raises : Unwritable iso env snapshot) : fileAfter iso env file snapshot = file := by
  cases raises with
  | inl undated => simp only [fileAfter, updateGateState, undated]
  | inr unresolved =>
    obtain ⟨error, unresolved⟩ := unresolved
    rw [fileAfter, updateGateState]
    split
    · rename_i written updated
      split at updated
      · cases updated
      · rw [persistLatest, unresolved] at updated
        cases updated
    · rfl

end Reading

/-- An update touches only the liquidity of the file exactly when it cannot
write, or the file loads, or every other part of it reads as the default. -/
theorem touchesOnlyLiquidity_iff (iso : IsoFormat Moment) [iso.ReadsBack] (env : Environment)
    (file : JsonFile) (snapshot : LiquiditySnapshot) :
    TouchesOnlyLiquidity iso env file snapshot ↔
      Unwritable iso env snapshot ∨ (∃ gate, load iso file = some gate) ∨
        partsOf iso file = partsOf iso .missing := by
  by_cases raises : Unwritable iso env snapshot
  · exact iff_of_true (.inl (fileAfter_unwritable raises)) (.inl raises)
  · have after : partsOf iso (fileAfter iso env file snapshot) = _ := partsOf_fileAfter raises
    cases loaded : load iso file with
    | some gate =>
      rw [loaded] at after
      exact iff_of_true (.inr (after.trans (partsOf_of_load loaded).symm))
        (.inr (.inl ⟨gate, rfl⟩))
    | none =>
      rw [loaded, Option.getD_none, ← @partsOf_missing _ iso _] at after
      constructor
      · intro touches
        refine .inr (.inr ?_)
        cases touches with
        | inl untouched =>
          rw [untouched] at after
          exact after
        | inr same => exact same.symm.trans after
      · intro holds
        rcases holds with absurdity | ⟨gate, found⟩ | same
        · exact absurd absurdity raises
        · cases found
        · exact .inr (after.trans same.symm)

/-! ## A stop that is lost -/

def isoLayout : List Char := "0000-00-00T00:00:00+00:00".toList

/-- A text as `isoformat` writes a time with whole seconds. -/
def Fits (text : String) : Prop :=
  (text.toList.length = isoLayout.length ∧ (text.toList.zip isoLayout).all (fun pair =>
    if pair.2 == '0' then pair.1.isDigit else pair.1 == pair.2) = true) ∧
    strip text = text ∧ text.toList.getLast? ≠ some 'Z'

instance (text : String) : Decidable (Fits text) := inferInstanceAs (Decidable ((_ ∧ _) ∧ _ ∧ _))

def secondsIso : IsoFormat { text : String // Fits text } where
  isoformat := Subtype.val
  fromisoformat := fun text => if fits : Fits text then some ⟨text, fits⟩ else none

instance : secondsIso.ReadsBack where
  inverse := fun moment => dif_pos moment.property
  unpadded := fun moment => moment.property.2.1
  offset := fun moment => moment.property.2.2

def calm : LiquiditySnapshot where
  state := "normal"
  updatedAt := "2026-01-05T00:00:00Z"

/-- Where there is no file, the rest of the one that is written reads as the default. -/
theorem missing_touched : TouchesOnlyLiquidity secondsIso {} .missing calm :=
  (touchesOnlyLiquidity_iff secondsIso {} .missing calm).mpr (.inr (.inr rfl))

def stoppedRisk : Value :=
  .map [("reduce_only", .bool true), ("kill_switch_recommendation", .str "hard_stop")]

def stoppedSections : Mapping :=
  [("market", .map [("news", .map [("blocked", .bool false)]),
      ("calendar", .map [("blocked", .bool false), ("holiday_block", .bool false)]),
      ("spread", .map [("state", .str "normal")])]), ("risk", stoppedRisk)]

/-- A gate file with a hard stop, and nothing on the human checks. -/
def stoppedFile : JsonFile := .text (Json.dumpsIndented 0 (.map stoppedSections))

theorem loads_stoppedFile : Json.loads (Json.dumpsIndented 0 (.map stoppedSections)) =
    some (.map stoppedSections) :=
  Json.loads_dumpsIndented (by decide)

/-- The update puts a default gate in its place. -/
theorem hardStop_cleared : ¬ TouchesOnlyLiquidity secondsIso {} stoppedFile calm := by
  intro touches
  have writes : ¬ Unwritable secondsIso {} calm := by
    intro raises
    cases raises with
    | inl undated => exact absurd undated (by decide +kernel)
    | inr unresolved =>
      obtain ⟨error, failed⟩ := unresolved
      cases failed
  have unloaded : load secondsIso stoppedFile = none := by
    simp only [load, stoppedFile, GateState.fromJson, loads_stoppedFile]
    rfl
  have stopped : (partsOf secondsIso stoppedFile).risk.map RiskGateState.reduceOnly =
      some true := by
    simp only [partsOf, stoppedFile, loads_stoppedFile]
    rfl
  have after : partsOf secondsIso (fileAfter secondsIso {} stoppedFile calm) = _ :=
    partsOf_fileAfter writes
  rw [unloaded, Option.getD_none] at after
  have same : partsOf secondsIso stoppedFile = partsOfGate GateState.default := by
    cases touches with
    | inl untouched => exact (congrArg (partsOf secondsIso) untouched).symm.trans after
    | inr kept => exact kept.symm.trans after
  rw [same] at stopped
  cases stopped

end FxToushi.Risk.GateUpdate
