import FxToushi.Core.TimeSync
import FxToushi.Py.ExtendedRanges

namespace FxToushi.Risk.PortfolioExposure

open FxToushi.Core Py

/-! # Portfolio exposure

The margin utilization of all accounts, their hedge ratio and their effective
risk are compared with thresholds.  The metrics, the audit log and the alert of
a variance are left out.
-/

structure Thresholds where
  marginUtilizationWarn : Extended := .finite (45 / 100)
  marginUtilizationCritical : Extended := .finite (6 / 10)
  hedgeRatioWarn : Extended := .finite (3 / 10)
  netREffWarn : Extended := .finite (8 / 10)
  netREffCritical : Extended := .finite (12 / 10)

structure GuardInputs where
  totalEquity : Extended
  marginUtilization : Extended
  netREff : Extended
  hedgeRatio : Extended

structure PortfolioVariance where
  kind : String
  severity : String
  details : String
  detectedAt : String
  recommendedAction : Option String := none
deriving Repr, DecidableEq

/-! ## The threshold file -/

/-- The keys that are read; any other is kept and never looked up. -/
def Thresholds.assign (thresholds : Thresholds) (key : String) (value : Extended) : Thresholds :=
  if key = "margin_utilization_warn" then { thresholds with marginUtilizationWarn := value }
  else if key = "margin_utilization_critical" then
    { thresholds with marginUtilizationCritical := value }
  else if key = "hedge_ratio_warn" then { thresholds with hedgeRatioWarn := value }
  else if key = "net_r_eff_warn" then { thresholds with netREffWarn := value }
  else if key = "net_r_eff_critical" then { thresholds with netREffCritical := value }
  else thresholds

/-- A value that is no number is passed over, one that is too large for a float raises. -/
def resolve (thresholds : Thresholds) (entry : String × Value) : Except PyError Thresholds :=
  match floatOf entry.2 with
  | .ok (some value) => .ok (thresholds.assign entry.1 value)
  | .ok none => .ok thresholds
  | .error _ => .error overflowError

/-- From what `yaml.safe_load` returns, where there is a file. -/
def loadThresholds : Option Value → Except PyError Thresholds
  | some (.map payload) =>
    match Mapping.get? payload "thresholds" with
    | some (.map thresholds) => thresholds.foldlM resolve {}
    | _ => .ok {}
  | _ => .ok {}

/-! ## Guard inputs -/

/-- `float(value)`. -/
def toFloat (value : Value) : Except PyError Extended :=
  match floatOf value with
  | .ok (some number) => .ok number
  | .ok none => .error (match value with
      | .str _ => .valueError
      | _ => .typeError)
  | .error _ => .error overflowError

def field (state : Mapping) (key : String) : Value := (state.get? key).getD .null

/-- `float(value or 0.0)`. -/
def amount (value : Value) : Except PyError Extended := toFloat (orValue value (.float 0 "0.0"))

def equityOf (state : Mapping) : Except PyError Extended := amount (field state "total_equity")

def marginOf (state : Mapping) : Except PyError Extended :=
  amount (orValue (field state "total_margin_used") (field state "total_margin"))

def netREffOf (state : Mapping) : Except PyError Extended := amount (field state "r_eff_total")

def hedgeRatioOf (state : Mapping) : Except PyError Extended := amount (field state "hedge_ratio")

def computeGuardInputs (state : Mapping) : Except PyError GuardInputs := do
  let totalEquity ← equityOf state
  let totalMargin ← marginOf state
  let netREff ← netREffOf state
  let hedgeRatio ← hedgeRatioOf state
  return {
    totalEquity
    marginUtilization := if totalEquity = 0 then 0 else totalMargin / totalEquity
    netREff
    hedgeRatio }

/-! ## Variances -/

/-- `format(value, ".2f")`. -/
def formatRatio : Extended → String
  | .finite value => formatFixed 2 value
  | .infinite negative => if negative then "-inf" else "inf"
  | .nan => "nan"

/-- The kind, the severity and the value of what is at a threshold. -/
abbrev Finding := String × String × Extended

def graded (kind : String) (value critical warn : Extended) : List Finding :=
  if critical ≤ value then [(kind, "critical", value)]
  else if warn ≤ value then [(kind, "warn", value)]
  else []

def findings (thresholds : Thresholds) (inputs : GuardInputs) : List Finding :=
  graded "margin_utilization" inputs.marginUtilization thresholds.marginUtilizationCritical
      thresholds.marginUtilizationWarn ++
    (if thresholds.hedgeRatioWarn ≤ inputs.hedgeRatio then
      [("hedge_ratio", "warn", inputs.hedgeRatio)] else []) ++
    graded "net_r_eff" inputs.netREff thresholds.netREffCritical thresholds.netREffWarn

def varianceOf (finding : Finding) (detectedAt : String) : PortfolioVariance where
  kind := finding.1
  severity := finding.2.1
  details := finding.1 ++ "=" ++ formatRatio finding.2.2
  detectedAt
  recommendedAction := some "runbook:RUN-ACCOUNT-02"

/-- `utcnow` gives the texts of the clock one after the other. -/
def detectVariance (thresholds : Thresholds) (state : Mapping) (utcnow : Nat → String) :
    Except PyError (List PortfolioVariance) := do
  let inputs ← computeGuardInputs state
  return (findings thresholds inputs).zipIdx.map fun found => varianceOf found.1 (utcnow found.2)

/-- An analyzer for a threshold file, and what it detects. -/
def analyze (file : Option Value) (state : Mapping) (utcnow : Nat → String) :
    Except PyError (List PortfolioVariance) := do
  let thresholds ← loadThresholds file
  detectVariance thresholds state utcnow

/-! ## The worst severity -/

def severityRank (severity : String) : Nat :=
  if severity = "critical" then 2 else if severity = "warn" then 1 else 0

def worst (variances : List PortfolioVariance) : Nat :=
  (variances.map fun variance => severityRank variance.severity).foldr max 0

/-- What an account's state reads as. -/
structure Reads (state : Mapping) (equity margin netREff hedgeRatio : Extended) : Prop where
  equity : equityOf state = .ok equity
  margin : marginOf state = .ok margin
  netREff : netREffOf state = .ok netREff
  hedgeRatio : hedgeRatioOf state = .ok hedgeRatio

/-- The lower equity raises an alarm that is no less, and a critical one where margin is in use
and nothing is left of the equity. -/
def NeverLowers (file : Option Value) (higher lower : Mapping) (equity margin : Extended) : Prop :=
  ∀ utcnow, ∃ before after, analyze file higher utcnow = .ok before ∧
    analyze file lower utcnow = .ok after ∧ worst before ≤ worst after ∧
    (0 < margin → equity ≤ 0 → worst after = severityRank "critical")

/-- The critical threshold is so low that a margin over an equity of zero, which counts as
nothing, or over less than zero is at it. -/
def Undercuts : Extended → Extended → Extended → Prop
  | .finite bound, .finite equity, .finite margin =>
    if equity = 0 then bound ≤ 0 else margin ≤ bound * equity
  | .finite bound, .finite equity, _ => equity = 0 ∧ bound ≤ 0
  | .finite bound, .infinite _, .finite _ => bound ≤ 0
  | .infinite negative, equity, margin =>
    negative = true ∧ (equity.isFinite = true ∨ margin.isFinite = true)
  | _, _, _ => False

/-! ## Ranks -/

def rankOf (value critical warn : Extended) : Nat :=
  if critical ≤ value then 2 else if warn ≤ value then 1 else 0

theorem rankOf_le (value critical warn : Extended) : rankOf value critical warn ≤ 2 := by
  unfold rankOf
  split
  · exact le_rfl
  · split
    · decide
    · decide

theorem rankOf_critical_iff {value critical warn : Extended} :
    rankOf value critical warn = 2 ↔ critical ≤ value := by
  unfold rankOf
  split
  · simpa
  · split
    · simpa
    · simpa

theorem rankOf_mono {less more : Extended} (ordered : less ≤ more) (critical warn : Extended) :
    rankOf less critical warn ≤ rankOf more critical warn := by
  by_cases reached : critical ≤ less
  · rw [rankOf_critical_iff.mpr (Extended.le_trans reached ordered)]
    exact rankOf_le _ _ _
  · by_cases warned : warn ≤ less
    · have later := Extended.le_trans warned ordered
      unfold rankOf
      rw [if_neg reached, if_pos warned, if_pos later]
      split
      · decide
      · decide
    · unfold rankOf
      rw [if_neg reached, if_neg warned]
      exact Nat.zero_le _

theorem rankOf_nan (critical warn : Extended) : rankOf .nan critical warn = 0 := by
  unfold rankOf
  rw [if_neg Extended.not_le_nan, if_neg Extended.not_le_nan]

def worstOf (findings : List Finding) : Nat :=
  (findings.map fun finding => severityRank finding.2.1).foldr max 0

theorem worstOf_append (first second : List Finding) :
    worstOf (first ++ second) = max (worstOf first) (worstOf second) := by
  induction first with
  | nil => simp [worstOf]
  | cons finding rest ih =>
    have later := ih
    simp only [worstOf, List.cons_append, List.map_cons, List.foldr_cons] at later ⊢
    rw [later, max_assoc]

theorem worstOf_graded (kind : String) (value critical warn : Extended) :
    worstOf (graded kind value critical warn) = rankOf value critical warn := by
  unfold graded rankOf
  split
  · rfl
  · split
    · rfl
    · rfl

theorem worst_varianceOf (found : List Finding) (utcnow : Nat → String) :
    worst (found.zipIdx.map fun entry => varianceOf entry.1 (utcnow entry.2)) = worstOf found := by
  have severities : (found.zipIdx.map fun entry => varianceOf entry.1 (utcnow entry.2)).map
      (fun variance => severityRank variance.severity) =
      (found.zipIdx.map Prod.fst).map fun finding => severityRank finding.2.1 := by
    rw [List.map_map, List.map_map]
    rfl
  rw [worst, severities, List.zipIdx_map_fst]
  rfl

/-- What the findings other than the margin's come to. -/
def otherRank (thresholds : Thresholds) (netREff hedgeRatio : Extended) : Nat :=
  max (if thresholds.hedgeRatioWarn ≤ hedgeRatio then 1 else 0)
    (rankOf netREff thresholds.netREffCritical thresholds.netREffWarn)

theorem otherRank_critical_iff {thresholds : Thresholds} {netREff hedgeRatio : Extended} :
    otherRank thresholds netREff hedgeRatio = 2 ↔ thresholds.netREffCritical ≤ netREff := by
  rw [← @rankOf_critical_iff netREff thresholds.netREffCritical thresholds.netREffWarn, otherRank]
  have most := rankOf_le netREff thresholds.netREffCritical thresholds.netREffWarn
  split <;> omega

theorem otherRank_le (thresholds : Thresholds) (netREff hedgeRatio : Extended) :
    otherRank thresholds netREff hedgeRatio ≤ 2 := by
  have most := rankOf_le netREff thresholds.netREffCritical thresholds.netREffWarn
  unfold otherRank
  split <;> omega

theorem worstOf_findings (thresholds : Thresholds) (inputs : GuardInputs) :
    worstOf (findings thresholds inputs) =
      max (rankOf inputs.marginUtilization thresholds.marginUtilizationCritical
        thresholds.marginUtilizationWarn) (otherRank thresholds inputs.netREff
          inputs.hedgeRatio) := by
  have hedged : worstOf (if thresholds.hedgeRatioWarn ≤ inputs.hedgeRatio then
      [("hedge_ratio", "warn", inputs.hedgeRatio)] else []) =
      if thresholds.hedgeRatioWarn ≤ inputs.hedgeRatio then 1 else 0 := by
    split
    · rfl
    · rfl
  rw [findings, worstOf_append, worstOf_append, worstOf_graded, worstOf_graded, hedged, otherRank,
    max_assoc]

/-! ## The ratio of the margin -/

/-- The margin utilization of an account. -/
def utilization (margin equity : Extended) : Extended :=
  if equity = 0 then 0 else margin / equity

/-- The rank of what an account with this equity is reported with. -/
def reported (thresholds : Thresholds) (margin equity netREff hedgeRatio : Extended) : Nat :=
  max (rankOf (utilization margin equity) thresholds.marginUtilizationCritical
    thresholds.marginUtilizationWarn) (otherRank thresholds netREff hedgeRatio)

theorem analyze_reads {file : Option Value} {thresholds : Thresholds} {state : Mapping}
    {equity margin netREff hedgeRatio : Extended} (loaded : loadThresholds file = .ok thresholds)
    (read : Reads state equity margin netREff hedgeRatio) (utcnow : Nat → String) :
    ∃ found, analyze file state utcnow = .ok found ∧
      worst found = reported thresholds margin equity netREff hedgeRatio := by
  let inputs : GuardInputs :=
    { totalEquity := equity, marginUtilization := utilization margin equity, netREff, hedgeRatio }
  have computed : computeGuardInputs state = .ok inputs := by
    rw [computeGuardInputs, read.equity, read.margin, read.netREff, read.hedgeRatio]
    rfl
  have detected : analyze file state utcnow = .ok
      ((findings thresholds inputs).zipIdx.map fun found =>
        varianceOf found.1 (utcnow found.2)) := by
    rw [analyze, loaded]
    change detectVariance thresholds state utcnow = _
    rw [detectVariance, computed]
    rfl
  exact ⟨_, detected, (worst_varianceOf _ _).trans (worstOf_findings _ _)⟩

theorem utilization_finite {margin equity : Rat} (some_left : equity ≠ 0) :
    utilization (.finite margin) (.finite equity) = .finite (margin / equity) :=
  if_neg fun none => some_left (Extended.finite.inj none)

theorem utilization_infinite (margin : Extended) (negative : Bool) :
    utilization margin (.infinite negative) = margin / .infinite negative :=
  if_neg fun none => Extended.noConfusion none

theorem utilization_boundless {equity : Rat} (negative : Bool) (some_left : equity ≠ 0) :
    utilization (.infinite negative) (.finite equity) =
      .infinite (negative != decide (equity < 0)) :=
  if_neg fun none => some_left (Extended.finite.inj none)

/-- A margin over less equity is no smaller a part of it, as long as some equity is left. -/
theorem utilization_mono {margin higher lower : Extended} (nonneg : 0 ≤ margin)
    (losing : lower ≤ higher) (positive : 0 < lower) :
    utilization margin higher = .nan ∨ utilization margin higher ≤ utilization margin lower := by
  cases lower with
  | nan => exact absurd positive Extended.not_pos_nan
  | infinite negative =>
    obtain rfl := Extended.pos_infinite.mp positive
    rw [Extended.eq_infinite_of_le losing]
    cases margin with
    | finite margin => exact .inr Extended.nonneg_zero
    | infinite negative => exact .inl rfl
    | nan => exact .inl rfl
  | finite lower =>
    rw [Extended.pos_finite] at positive
    cases higher with
    | nan => exact absurd losing Extended.not_le_nan
    | infinite negative =>
      rw [utilization_infinite]
      cases margin with
      | finite margin =>
        rw [utilization_finite positive.ne']
        rw [Extended.nonneg_finite] at nonneg
        exact .inr (Extended.nonneg_finite.mpr (div_nonneg nonneg positive.le))
      | infinite negative => exact .inl rfl
      | nan => exact .inl rfl
    | finite higher =>
      rw [Extended.finite_le_finite] at losing
      have positiveHigher := positive.trans_le losing
      cases margin with
      | nan => exact absurd nonneg Extended.not_nonneg_nan
      | finite margin =>
        rw [utilization_finite positive.ne', utilization_finite positiveHigher.ne',
          Extended.finite_le_finite]
        rw [Extended.nonneg_finite] at nonneg
        exact .inr (div_le_div_of_nonneg_left nonneg positive losing)
      | infinite negative =>
        rw [utilization_boundless negative positive.ne',
          utilization_boundless negative positiveHigher.ne',
          decide_eq_false positive.not_gt, decide_eq_false positiveHigher.not_gt]
        obtain rfl := Extended.nonneg_infinite.mp nonneg
        exact .inr rfl

theorem le_finite_iff {critical : Extended} {value : Rat} :
    critical ≤ .finite value ↔ match critical with
      | .finite bound => bound ≤ value
      | .infinite negative => negative = true
      | .nan => False := by
  cases critical with
  | finite bound => exact Extended.finite_le_finite
  | infinite negative => exact Extended.infinite_le_finite
  | nan => exact iff_of_false Extended.not_nan_le id

theorem utilization_zero (margin : Extended) : utilization margin 0 = 0 := if_pos rfl

theorem undercuts_zero_iff {critical margin : Extended} :
    Undercuts critical 0 margin ↔ critical ≤ 0 := by
  have zero : (0 : Extended) = .finite 0 := rfl
  rw [zero, le_finite_iff]
  cases critical with
  | finite bound => cases margin <;> simp [Undercuts]
  | infinite lowest => simp [Undercuts, Extended.isFinite]
  | nan => exact Iff.rfl

theorem utilization_critical_iff {critical equity margin : Extended} (used : 0 < margin)
    (spent : equity ≤ 0) :
    critical ≤ utilization margin equity ↔ Undercuts critical equity margin := by
  by_cases none : equity = 0
  · rw [none, utilization_zero, undercuts_zero_iff]
  cases equity with
  | nan => exact absurd spent Extended.not_nan_le
  | infinite negative =>
    rw [utilization_infinite]
    cases margin with
    | nan => exact absurd used Extended.not_pos_nan
    | finite margin =>
      have nothing : Extended.finite margin / .infinite negative = .finite 0 := rfl
      rw [nothing, le_finite_iff]
      cases critical with
      | finite bound => exact Iff.rfl
      | infinite lowest => simp [Undercuts, Extended.isFinite]
      | nan => exact Iff.rfl
    | infinite positive =>
      refine iff_of_false Extended.not_le_nan ?_
      cases critical with
      | finite bound => exact id
      | infinite lowest => simp [Undercuts, Extended.isFinite]
      | nan => exact id
  | finite equity =>
    have some_left : equity ≠ 0 := fun same => none (congrArg Extended.finite same)
    have negative := lt_of_le_of_ne (Extended.finite_le_finite.mp spent) some_left
    cases margin with
    | nan => exact absurd used Extended.not_pos_nan
    | finite margin =>
      rw [utilization_finite some_left, le_finite_iff]
      cases critical with
      | finite bound => simp [Undercuts, some_left, le_div_iff_of_neg negative]
      | infinite lowest => simp [Undercuts, Extended.isFinite]
      | nan => exact Iff.rfl
    | infinite positive =>
      obtain rfl := Extended.pos_infinite.mp used
      rw [utilization_boundless false some_left, decide_eq_true negative]
      cases critical with
      | finite bound =>
        exact iff_of_false Bool.false_ne_true fun low => some_left low.1
      | infinite lowest => simp [Undercuts, Extended.isFinite, Extended.infinite_le_infinite]
      | nan => exact iff_of_false Extended.not_nan_le id

theorem utilization_none {equity : Extended} (number : equity.isNan = false) :
    utilization 0 equity = 0 := by
  unfold utilization
  split
  · rfl
  · cases equity with
    | finite equity => exact congrArg Extended.finite (zero_div equity)
    | infinite negative => rfl
    | nan => cases number

/-! ## Losing equity -/

section

variable {file : Option Value} {thresholds : Thresholds} {higher lower : Mapping}
  {more less margin netREff hedgeRatio : Extended}

theorem reported_le (thresholds : Thresholds) (margin equity netREff hedgeRatio : Extended) :
    reported thresholds margin equity netREff hedgeRatio ≤ 2 :=
  max_le (rankOf_le _ _ _) (otherRank_le _ _ _)

theorem neverLowers_reported (loaded : loadThresholds file = .ok thresholds)
    (before : Reads higher more margin netREff hedgeRatio)
    (after : Reads lower less margin netREff hedgeRatio) :
    NeverLowers file higher lower less margin ↔
      reported thresholds margin more netREff hedgeRatio ≤
          reported thresholds margin less netREff hedgeRatio ∧
        (0 < margin → less ≤ 0 → reported thresholds margin less netREff hedgeRatio = 2) := by
  constructor
  · intro never
    obtain ⟨first, second, analyzedFirst, analyzedSecond, law⟩ := never fun _ => ""
    obtain ⟨found, analyzed, rank⟩ := analyze_reads loaded before fun _ => ""
    obtain ⟨later, analyzedLater, rankLater⟩ := analyze_reads loaded after fun _ => ""
    obtain rfl := Except.ok.inj (analyzedFirst.symm.trans analyzed)
    obtain rfl := Except.ok.inj (analyzedSecond.symm.trans analyzedLater)
    rw [rank, rankLater] at law
    exact law
  · intro law utcnow
    obtain ⟨found, analyzed, rank⟩ := analyze_reads loaded before utcnow
    obtain ⟨later, analyzedLater, rankLater⟩ := analyze_reads loaded after utcnow
    refine ⟨found, later, analyzed, analyzedLater, ?_⟩
    rw [rank, rankLater]
    exact law

theorem reported_critical_iff (used : 0 < margin) (spent : less ≤ 0) :
    reported thresholds margin less netREff hedgeRatio = 2 ↔
      thresholds.netREffCritical ≤ netREff ∨
        Undercuts thresholds.marginUtilizationCritical less margin := by
  have others := @otherRank_critical_iff thresholds netREff hedgeRatio
  have ratio := @rankOf_critical_iff (utilization margin less)
    thresholds.marginUtilizationCritical thresholds.marginUtilizationWarn
  rw [utilization_critical_iff used spent] at ratio
  rw [← others, ← ratio, reported]
  have most := otherRank_le thresholds netREff hedgeRatio
  have mostRatio := rankOf_le (utilization margin less) thresholds.marginUtilizationCritical
    thresholds.marginUtilizationWarn
  omega

theorem reported_mono (nonneg : 0 ≤ margin) (losing : less ≤ more) (positive : 0 < less) :
    reported thresholds margin more netREff hedgeRatio ≤
      reported thresholds margin less netREff hedgeRatio := by
  refine max_le_max_right _ ?_
  cases utilization_mono nonneg losing positive with
  | inl undefined =>
    rw [undefined, rankOf_nan]
    exact Nat.zero_le _
  | inr ordered => exact rankOf_mono ordered _ _

/-- A lower equity never lowers the alarm exactly where it is still positive, no margin is in
use, the effective risk is critical by itself, or the critical utilization is set so low that
what is left of the equity counts as at it. -/
theorem neverLowers_iff (loaded : loadThresholds file = .ok thresholds)
    (before : Reads higher more margin netREff hedgeRatio)
    (after : Reads lower less margin netREff hedgeRatio) (nonneg : 0 ≤ margin)
    (losing : less ≤ more) :
    NeverLowers file higher lower less margin ↔
      0 < less ∨ margin = 0 ∨ thresholds.netREffCritical ≤ netREff ∨
        Undercuts thresholds.marginUtilizationCritical less margin := by
  rw [neverLowers_reported loaded before after]
  have numberLess : less.isNan = false := by
    cases less with
    | nan => exact absurd losing Extended.not_nan_le
    | _ => rfl
  have numberMore : more.isNan = false := by
    cases more with
    | nan => exact absurd losing Extended.not_le_nan
    | _ => rfl
  by_cases positive : 0 < less
  · refine iff_of_true ⟨reported_mono nonneg losing positive, ?_⟩ (.inl positive)
    intro _ spent
    exact absurd positive ((Extended.not_lt_iff rfl numberLess).mpr spent)
  by_cases unused : margin = 0
  · subst unused
    refine iff_of_true ⟨?_, fun used => absurd used (Extended.not_lt_self 0)⟩ (.inr (.inl rfl))
    rw [reported, reported, utilization_none numberMore, utilization_none numberLess]
  have used := Extended.pos_of_nonneg nonneg unused
  have spent := (Extended.not_lt_iff rfl numberLess).mp positive
  rw [or_iff_right positive, or_iff_right unused, ← reported_critical_iff used spent]
  constructor
  · intro law
    exact law.2 used spent
  · intro reached
    rw [reached]
    exact ⟨reported_le _ _ _ _ _, fun _ _ => rfl⟩

end

/-- An account with a margin of 50 in use. -/
def account (equity : Int) : Mapping :=
  [("total_equity", .int equity), ("total_margin_used", .int 50)]

theorem reads_account {equity : Int} (read : equityOf (account equity) = .ok (.finite equity)) :
    Reads (account equity) (.finite equity) (.finite 50) 0 0 := by
  have margin : marginOf (account 1) = .ok (.finite 50) := by decide +kernel
  exact ⟨read, margin, rfl, rfl⟩

theorem neverLowers_account :
    NeverLowers none (account 200) (account 100) (.finite 100) (.finite 50) :=
  (@neverLowers_iff none {} _ _ _ _ _ _ _ rfl (reads_account (by decide +kernel))
    (reads_account (by decide +kernel)) (by decide +kernel) (by decide +kernel)).mpr
      (.inl (by decide +kernel))

/-- With the equity gone the ratio is nothing, and the alarm is called off. -/
theorem goneEquity_lowers :
    Reads (account 50) (.finite 50) (.finite 50) 0 0 ∧ Reads (account 0) 0 (.finite 50) 0 0 ∧
      ¬ NeverLowers none (account 50) (account 0) 0 (.finite 50) := by
  have before : Reads (account 50) (.finite 50) (.finite 50) 0 0 :=
    reads_account (by decide +kernel)
  have after : Reads (account 0) 0 (.finite 50) 0 0 := reads_account (by decide +kernel)
  refine ⟨before, after, fun never => ?_⟩
  rw [neverLowers_reported rfl before after] at never
  exact absurd never.1 (by decide +kernel)

end FxToushi.Risk.PortfolioExposure
