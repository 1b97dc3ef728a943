import FxToushi.Data.Dict
import FxToushi.Data.Fallible
import FxToushi.Py.Value
import Mathlib.Algebra.Order.Field.Rat
import Mathlib.Data.Finset.Union

namespace FxToushi.Strategies

open Data Py

/-! # The strategy manifest

The entries of the manifest with their lifecycle, the checks a manifest passes
when it is loaded, and the watchlist it resolves to.
-/

/-! ## Lifecycle -/

inductive LifecycleStatus where
  | draft
  | active
  | deprecated
  | blocked
deriving Repr, DecidableEq

structure StrategyLifecycle where
  status : LifecycleStatus := .draft
  lastValidatedAt : Timestamp
  expiresAt : Option Timestamp := none
  deprecatedAfterDays : Int := 90
  daysValid : 7 ≤ deprecatedAfterDays ∧ deprecatedAfterDays ≤ 365 := by decide
deriving DecidableEq

namespace StrategyLifecycle

/-- The last moment at which the validation is recent enough. -/
def validUntil (lifecycle : StrategyLifecycle) : Timestamp :=
  lifecycle.lastValidatedAt + lifecycle.deprecatedAfterDays * 86400000000

def effectiveStatus (lifecycle : StrategyLifecycle) (now : Timestamp) : LifecycleStatus :=
  if lifecycle.status = .blocked then .blocked
  else if lifecycle.status = .deprecated then .deprecated
  else if lifecycle.expiresAt.any (fun expiry => decide (expiry ≤ now)) then .deprecated
  else if lifecycle.validUntil < now then .deprecated
  else lifecycle.status

end StrategyLifecycle

/-! ## Entries -/

/-- Distinct texts, none of them blank. -/
structure Tokens where
  values : List String
  nonempty : values ≠ []
  distinct : values.Nodup
  named : ∀ value ∈ values, value ≠ ""
deriving DecidableEq

/-- The loop of the two token validators: blanks are refused, repetitions are
passed over. -/
def collectTokens (clean : String → String) (seen : List String) :
    List String → Except PyError (List String)
  | [] => .ok seen
  | value :: rest =>
    if clean value = "" then .error .valueError
    else collectTokens clean (if clean value ∈ seen then seen else seen ++ [clean value]) rest

structure Collected (seen : List String) : Prop where
  distinct : seen.Nodup
  named : ∀ value ∈ seen, value ≠ ""

theorem collectTokens_collected {clean : String → String} {values seen tokens : List String}
    (collected : Collected seen) (taken : collectTokens clean seen values = .ok tokens) :
    Collected tokens := by
  induction values generalizing seen with
  | nil =>
    obtain rfl := Except.ok.inj taken
    exact collected
  | cons value rest ih =>
    unfold collectTokens at taken
    split at taken
    · exact absurd taken (by simp)
    · rename_i named
      refine ih ?_ taken
      split
      · exact collected
      · rename_i fresh
        refine ⟨List.nodup_append.mpr ⟨collected.distinct, List.nodup_singleton _, ?_⟩, ?_⟩
        · intro other member last only same
          rw [List.mem_singleton.mp only] at same
          exact fresh (same ▸ member)
        · intro other member
          rcases List.mem_append.mp member with earlier | last
          · exact collected.named other earlier
          · rw [List.mem_singleton.mp last]
            exact named

def Tokens.read (clean : String → String) (values : List String) :
    Except PyError (Option Tokens) :=
  match taken : collectTokens clean [] values with
  | .error error => .error error
  | .ok tokens =>
    have collected : Collected tokens :=
      collectTokens_collected ⟨List.nodup_nil, fun _ member => absurd member List.not_mem_nil⟩
        taken
    if nonempty : tokens ≠ [] then
      .ok (some ⟨tokens, nonempty, collected.distinct, collected.named⟩)
    else .ok none

/-- `_normalise_required_features`, which refuses an empty list. -/
def normaliseRequiredFeatures (values : List String) : Except PyError Tokens := do
  match ← Tokens.read strip values with
  | some tokens => return tokens
  | none => .error .valueError

def normaliseWatchlist : Option (List String) → Except PyError (Option Tokens)
  | none => .ok none
  | some values => Tokens.read (fun value => upper (strip value)) values

structure StrategyMetadata where
  name : String
  version : String
  requiredFeatures : Finset String
  seedOffset : Int := 0
deriving DecidableEq

structure StrategyMetadataModel where
  name : String
  version : String
  requiredFeatures : Tokens
  seedOffset : Int := 0
deriving DecidableEq

namespace StrategyMetadataModel

def requiredFeatureSet (metadata : StrategyMetadataModel) : Finset String :=
  metadata.requiredFeatures.values.toFinset

def toRuntime (metadata : StrategyMetadataModel) : StrategyMetadata where
  name := metadata.name
  version := metadata.version
  requiredFeatures := metadata.requiredFeatureSet
  seedOffset := metadata.seedOffset

end StrategyMetadataModel

structure StrategyEntry where
  enabled : Bool := true
  priority : Int
  weight : Rat
  metadata : StrategyMetadataModel
  featureFlags : Dict String Bool := Dict.empty
  watchlist : Option Tokens := none
  lifecycle : Option StrategyLifecycle := none
  parameters : Mapping := []
  priorityValid : 0 ≤ priority ∧ priority ≤ 255 := by decide
  weightValid : 0 ≤ weight ∧ weight ≤ 1 := by decide

namespace StrategyEntry

def effectiveStatus (entry : StrategyEntry) (now : Timestamp) : LifecycleStatus :=
  match entry.lifecycle with
  | none => if entry.enabled then .active else .draft
  | some lifecycle => lifecycle.effectiveStatus now

def watched (entry : StrategyEntry) : Finset String :=
  (entry.watchlist.elim [] Tokens.values).toFinset

end StrategyEntry

/-! ## The manifest -/

inductive ManifestError where
  | noStrategies
  | blankIdentifier
  | weightsExceeded
  | lapsedLifecycle (stale : List (String × String))
  | unavailableFeatures (missing : List (String × Finset String))
  | watchlistsOutsideContext (violations : List (String × Finset String))
  | givenOutsideContext (missing : Finset String)
deriving DecidableEq

def enabledOf (entries : List (String × StrategyEntry)) : List (String × StrategyEntry) :=
  entries.filter (fun item => item.2.enabled)

structure StrategyManifest where
  strategies : Dict String StrategyEntry
  nonempty : strategies.entries ≠ []
  named : ∀ strategyId ∈ strategies.keys, strategyId ≠ ""
  weights : ((enabledOf strategies.entries).map (·.2.weight)).sum ≤ 1 + 1 / 10 ^ 9

def normaliseSymbolSet (symbols : Finset String) : Finset String :=
  (symbols.image strip).filter (· ≠ "") |>.image upper

namespace StrategyManifest

def enabledStrategies (manifest : StrategyManifest) : List (String × StrategyEntry) :=
  enabledOf manifest.strategies.entries

theorem mem_enabledStrategies {manifest : StrategyManifest} {item : String × StrategyEntry} :
    item ∈ manifest.enabledStrategies ↔
      item ∈ manifest.strategies.entries ∧ item.2.enabled = true :=
  List.mem_filter

/-- The validators of the model. -/
def fromDict (payload : Dict String StrategyEntry) : Except ManifestError StrategyManifest :=
  let strategies := payload.entries.foldl
    (fun normalised item => normalised.set (strip item.1) item.2) Dict.empty
  if nonempty : strategies.entries ≠ [] then
    if named : ∀ strategyId ∈ strategies.keys, strategyId ≠ "" then
      if weights : ((enabledOf strategies.entries).map (·.2.weight)).sum ≤ 1 + 1 / 10 ^ 9 then
        .ok ⟨strategies, nonempty, named, weights⟩
      else .error .weightsExceeded
    else .error .blankIdentifier
  else .error .noStrategies

/-- The strategies `validate_lifecycle` refuses.  It reports the validation as
stale whatever has deprecated a lifecycle. -/
def staleStrategies (manifest : StrategyManifest) (now : Timestamp) : List (String × String) :=
  (manifest.enabledStrategies.filter
    (fun item => decide (item.2.effectiveStatus now = .deprecated))).map
      (fun item => (item.1, if item.2.lifecycle.isSome then
        "validation stale (> deprecated_after_days)" else "status=deprecated"))

def validateLifecycle (manifest : StrategyManifest) (now : Timestamp) :
    Except ManifestError Unit :=
  if manifest.staleStrategies now = [] then .ok ()
  else .error (.lapsedLifecycle (manifest.staleStrategies now))

def load (payload : Dict String StrategyEntry) (now : Timestamp) :
    Except ManifestError StrategyManifest := do
  let manifest ← fromDict payload
  manifest.validateLifecycle now
  return manifest

def missingFeatures (manifest : StrategyManifest) (available : Finset String) :
    List (String × Finset String) :=
  (manifest.enabledStrategies.map
    (fun item => (item.1, item.2.metadata.requiredFeatureSet \ available))).filter
      (fun item => decide (item.2 ≠ ∅))

def validateFeatureContract (manifest : StrategyManifest) (available : Finset String) :
    Except ManifestError Unit :=
  if manifest.missingFeatures available = [] then .ok ()
  else .error (.unavailableFeatures (manifest.missingFeatures available))

def watchlistViolations (manifest : StrategyManifest) (symbols : Finset String) :
    List (String × Finset String) :=
  (manifest.enabledStrategies.map
    (fun item => (item.1, item.2.watched \ normaliseSymbolSet symbols))).filter
      (fun item => decide (item.2 ≠ ∅))

def validateWatchlists (manifest : StrategyManifest) (symbols : Finset String) :
    Except ManifestError Unit :=
  if manifest.watchlistViolations symbols = [] then .ok ()
  else .error (.watchlistsOutsideContext (manifest.watchlistViolations symbols))

/-- The symbols the strategies that are not deprecated watch. -/
def watchedSymbols (manifest : StrategyManifest) (now : Timestamp) : Finset String :=
  ((manifest.enabledStrategies.filter
    (fun item => decide (item.2.effectiveStatus now ≠ .deprecated))).flatMap
      (fun item => item.2.watchlist.elim [] Tokens.values)).toFinset

def resolveWatchlist (manifest : StrategyManifest) (symbols : Finset String) (now : Timestamp) :
    Except ManifestError (Finset String) := do
  let symbolSet := normaliseSymbolSet symbols
  manifest.validateWatchlists symbolSet
  let resolved := manifest.watchedSymbols now ∩ symbolSet
  return if resolved = ∅ then symbolSet else resolved

end StrategyManifest

end FxToushi.Strategies
