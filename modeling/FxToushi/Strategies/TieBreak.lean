import FxToushi.Data.Lexicographic
import FxToushi.Py.ExtendedSteps
import FxToushi.Strategies.AllocationBooks

namespace FxToushi.Strategies

open Data Py

/-! # Tie breaking

The accepted candidates of a symbol are sorted by tuples with one component for
each rule.  A rule in descending order turns its component around: a number by
its sign, a text character by character, which does not turn the order of a
text and one of its prefixes around.
-/

namespace StrategyAllocationPolicy

abbrev Scored := EvaluatedCandidate × Extended

/-! ## What a rule names -/

inductive Quantity where
  | number (value : Extended)
  | text (value : String)
deriving Repr, DecidableEq

namespace Quantity

def less : Quantity → Quantity → Bool
  | number left, number right => left < right
  | text left, text right => left < right
  | _, _ => false

/-- The first is to come before the second. -/
def before (descending : Bool) (first second : Quantity) : Bool :=
  if descending then second.less first else first.less second

/-- Equal numbers are the same, and equal texts.  What is not a number equals nothing,
but a comparison takes it for the same where it is one `identical` object. -/
def same (identical : Bool) (left right : Quantity) : Bool :=
  decide (left = right) && (decide (left ≠ number .nan) || identical)

/-- The component of a sort key. -/
def key (descending : Bool) : Quantity → Except PyError KeyPart
  | number value => .ok (numberKey (if descending then -value else value))
  | text value => if descending then (reversedId value).map textKey else .ok (textKey value)

end Quantity

inductive Measure where
  | score
  | priority
  | rolePriority
  | weight
  | strategyId
deriving Repr, DecidableEq

def Measure.read (item : Scored) : Measure → Quantity
  | score => .number item.2
  | priority => .number (.finite item.1.candidate.priority)
  | rolePriority => .number (.finite item.1.rolePriority)
  | weight => .number item.1.candidate.weight
  | strategyId => .text item.1.candidate.strategyId

structure TieBreak where
  measure : Measure
  descending : Bool
deriving Repr, DecidableEq

def tieBreakOf (token : String) : Option TieBreak :=
  if token = "score_desc" then some ⟨.score, true⟩
  else if token = "score_asc" then some ⟨.score, false⟩
  else if token = "priority_asc" then some ⟨.priority, false⟩
  else if token = "priority_desc" then some ⟨.priority, true⟩
  else if token = "role_priority_asc" then some ⟨.rolePriority, false⟩
  else if token = "role_priority_desc" then some ⟨.rolePriority, true⟩
  else if token = "weight_desc" then some ⟨.weight, true⟩
  else if token = "weight_asc" then some ⟨.weight, false⟩
  else if token = "strategy_id_desc" then some ⟨.strategyId, true⟩
  else if token = "strategy_id_asc" then some ⟨.strategyId, false⟩
  else none

namespace TieBreak

def prefers (rule : TieBreak) (first second : Scored) : Bool :=
  (rule.measure.read first).before rule.descending (rule.measure.read second)

def key (rule : TieBreak) (item : Scored) : Except PyError KeyPart :=
  (rule.measure.read item).key rule.descending

end TieBreak

/-- The rules that are known, and what decides after them. -/
def criteria (policy : StrategyAllocationPolicy) : List TieBreak :=
  let named := policy.tieBreakRules.filterMap (fun rule => tieBreakOf (normalizeText rule))
  if named = [] then [⟨.score, true⟩, ⟨.priority, false⟩, ⟨.strategyId, false⟩]
  else named ++ [⟨.strategyId, false⟩]

/-- The first rule on which two candidates differ; `identical` tells the rules for
which the two hold one object. -/
def firstDifference (left right : Scored) : (Nat → Bool) → List TieBreak → Option TieBreak
  | _, [] => none
  | identical, rule :: rules =>
    if (rule.measure.read left).same (identical 0) (rule.measure.read right) then
      firstDifference left right (fun place => identical (place + 1)) rules
    else some rule

/-! ## How two keys are compared -/

def partSame (identical : Nat → Bool) (place : Nat) (left right : KeyPart) : Bool :=
  decide (left = right) && (decide (left ≠ notNumber) || identical place)

def partLess (left right : KeyPart) : Bool :=
  decide (left ≠ notNumber) && decide (right ≠ notNumber) && decide (left < right)

/-- `left < right` for two sort keys. -/
def keyLess (identical : Nat → Bool) : List KeyPart → List KeyPart → Bool :=
  tupleLess (partSame identical) partLess

/-- What two keys have to show for the first rule on which the candidates differ. -/
def KeysFollow (identical : Nat → Bool) (left right : Scored) (leftKey rightKey : List KeyPart) :
    Option TieBreak → Prop
  | none => keyLess identical leftKey rightKey = false ∧ keyLess identical rightKey leftKey = false
  | some rule =>
    (rule.prefers left right = true ∧ keyLess identical leftKey rightKey = true ∧
      keyLess identical rightKey leftKey = false) ∨
    (rule.prefers right left = true ∧ keyLess identical rightKey leftKey = true ∧
      keyLess identical leftKey rightKey = false)

/-- Both keys are computed, and the first rule on which the candidates differ tells which
key is the smaller one. -/
def OrdersAsNamed (policy : StrategyAllocationPolicy) (identical : Nat → Bool)
    (left right : Scored) : Prop :=
  ∃ leftKey rightKey, policy.tieBreakSortKey left.1 left.2 = .ok leftKey ∧
    policy.tieBreakSortKey right.1 right.2 = .ok rightKey ∧
    KeysFollow identical left right leftKey rightKey
      (firstDifference left right identical policy.criteria)

/-- The two have an order, and one that their components keep. -/
def Quantity.Ordered (descending : Bool) : Quantity → Quantity → Prop
  | number left, number right => left ≠ .nan ∧ right ≠ .nan
  | text left, text right => descending = true →
      ¬ left.toList <+: right.toList ∧ ¬ right.toList <+: left.toList
  | _, _ => False

def TieBreak.Compares (rule : TieBreak) (left right : Scored) : Prop :=
  (rule.measure.read left).Ordered rule.descending (rule.measure.read right)

/-! ## A key holds a component for each criterion -/

section Keys

variable {policy : StrategyAllocationPolicy} {item : EvaluatedCandidate} {score : Extended}

def ruleNames : List String :=
  ["score_desc", "score_asc", "priority_asc", "priority_desc", "role_priority_asc",
    "role_priority_desc", "weight_desc", "weight_asc", "strategy_id_desc", "strategy_id_asc"]

theorem not_mem_ruleNames {token : String} (unknown : tieBreakOf token = none) :
    token ∉ ruleNames := by
  intro member
  have known : ∀ name ∈ ruleNames, tieBreakOf name ≠ none := by decide +kernel
  exact known token member unknown

theorem ruleKey_unknown {token : String} (unknown : tieBreakOf token = none) :
    ruleKey item score token = .ok [] := by
  have apart := not_mem_ruleNames unknown
  simp only [ruleNames, List.mem_cons, not_or] at apart
  simp only [ruleKey, apart, if_false]

theorem mem_ruleNames {token : String} {rule : TieBreak} (known : tieBreakOf token = some rule) :
    token ∈ ruleNames := by
  by_contra apart
  simp only [ruleNames, List.mem_cons, not_or] at apart
  simp only [tieBreakOf, apart, if_false] at known
  cases known

theorem ruleKey_known {token : String} {rule : TieBreak} (known : tieBreakOf token = some rule) :
    ruleKey item score token = (rule.key (item, score)).map (fun part => [part]) := by
  have member := mem_ruleNames known
  simp only [ruleNames, List.mem_cons, List.not_mem_nil, or_false] at member
  rcases member with rfl | rfl | rfl | rfl | rfl | rfl | rfl | rfl | rfl | rfl
  all_goals obtain rfl := Option.some.inj known
  all_goals first
    | rfl
    | exact (map_map_eq (reversedId item.candidate.strategyId) textKey (fun part => [part])).symm

theorem criteria_of_sortKey {keys : List KeyPart}
    (keyed : policy.tieBreakSortKey item score = .ok keys) :
    tryMap (fun rule => rule.key (item, score)) policy.criteria = .ok keys := by
  obtain ⟨parts, mapped, returned⟩ := bind_ok keyed
  have known : tryMap (fun rule => TieBreak.key rule (item, score))
      (policy.tieBreakRules.filterMap (fun rule => tieBreakOf (normalizeText rule))) =
        .ok parts.flatten :=
    tryMap_flatten (fun rule unknown => ruleKey_unknown unknown)
      (fun rule found known => ruleKey_known known) mapped
  dsimp only at returned
  unfold criteria
  dsimp only
  cases named : policy.tieBreakRules.filterMap (fun rule => tieBreakOf (normalizeText rule)) with
  | nil =>
    rw [named] at known
    rw [← Except.ok.inj known, if_pos rfl] at returned
    rw [if_pos rfl, ← Except.ok.inj returned]
    rfl
  | cons rule rules =>
    rw [named] at known
    obtain ⟨part, later, -, -, flat⟩ := tryMap_cons_ok known
    rw [flat, if_neg (List.cons_ne_nil part later), ← flat] at returned
    rw [if_neg (List.cons_ne_nil rule rules), ← Except.ok.inj returned]
    exact tryMap_append known rfl

/-! ## Components -/

theorem numberKey_inj {left right : Extended} :
    numberKey left = numberKey right ↔ left = right := by
  refine ⟨fun same => ?_, congrArg numberKey⟩
  have order : numberOrder left = numberOrder right := Sum.inl.inj (toLex.injective same)
  cases left with
  | nan =>
    cases right with
    | nan => rfl
    | infinite negative => cases negative <;> simp [numberOrder] at order
    | finite value => simp [numberOrder] at order
  | infinite negative =>
    cases right with
    | nan => cases negative <;> simp [numberOrder] at order
    | infinite other => cases negative <;> cases other <;> simp [numberOrder] at order ⊢
    | finite value => cases negative <;> simp [numberOrder] at order
  | finite value =>
    cases right with
    | nan => simp [numberOrder] at order
    | infinite negative => cases negative <;> simp [numberOrder] at order
    | finite other => simpa [numberOrder] using order

theorem numberKey_lt_iff {left right : Extended} (leftNumber : left ≠ .nan)
    (rightNumber : right ≠ .nan) : numberKey left < numberKey right ↔ left < right := by
  have order : numberKey left < numberKey right ↔ numberOrder left < numberOrder right :=
    Sum.Lex.inl_lt_inl_iff
  rw [order]
  cases left with
  | nan => exact absurd rfl leftNumber
  | infinite negative =>
    cases right with
    | nan => exact absurd rfl rightNumber
    | infinite other => cases negative <;> cases other <;> decide
    | finite value =>
      rw [Extended.infinite_lt_finite]
      cases negative <;> simp [numberOrder, Prod.Lex.lt_iff]
  | finite value =>
    cases right with
    | nan => exact absurd rfl rightNumber
    | infinite negative =>
      rw [Extended.finite_lt_infinite]
      cases negative <;> simp [numberOrder, Prod.Lex.lt_iff]
    | finite other => simp [numberOrder, Prod.Lex.lt_iff, Extended.finite_lt_finite]

theorem partLess_numberKey (left right : Extended) :
    partLess (numberKey left) (numberKey right) = decide (left < right) := by
  by_cases leftNumber : left = .nan
  · subst leftNumber
    simp [partLess, notNumber, Extended.not_nan_lt]
  · by_cases rightNumber : right = .nan
    · subst rightNumber
      simp [partLess, notNumber, Extended.not_lt_nan]
    · simp [partLess, notNumber, numberKey_inj, leftNumber, rightNumber,
        numberKey_lt_iff leftNumber rightNumber]

theorem partSame_numberKey (identical : Nat → Bool) (place : Nat) (left right : Extended) :
    partSame identical place (numberKey left) (numberKey right) =
      (Quantity.number left).same (identical place) (.number right) := by
  simp only [partSame, Quantity.same, notNumber, ne_eq, numberKey_inj, Quantity.number.injEq]

theorem textKey_ne_notNumber (value : String) : textKey value ≠ notNumber := fun same =>
  nomatch toLex.injective same

theorem partLess_textKey (left right : String) :
    partLess (textKey left) (textKey right) = decide (left < right) := by
  have order : textKey left < textKey right ↔ left < right := Sum.Lex.inr_lt_inr_iff
  simp only [partLess, textKey_ne_notNumber, ne_eq, not_false_eq_true, decide_true, Bool.true_and,
    order]

theorem partSame_textKey (identical : Nat → Bool) (place : Nat) (left right : String) :
    partSame identical place (textKey left) (textKey right) = decide (left = right) := by
  have equal : textKey left = textKey right ↔ left = right :=
    ⟨fun same => Sum.inr.inj (toLex.injective same), congrArg textKey⟩
  simp only [partSame, textKey_ne_notNumber, ne_eq, not_false_eq_true, decide_true, Bool.true_or,
    Bool.and_true, equal]

/-! ### Texts turned around -/

section Turned

variable {left right leftText rightText : String} (leftTurned : reversedId left = .ok leftText)
  (rightTurned : reversedId right = .ok rightText)

theorem reversedId_ok (turned : reversedId left = .ok leftText) :
    (∀ char ∈ left.toList, char.toNat ≤ 255) ∧
      leftText.toList = left.toList.map (fun char => Char.ofNat (255 - char.toNat)) := by
  unfold reversedId at turned
  split at turned
  · rename_i latin
    obtain rfl := Except.ok.inj turned
    exact ⟨by simpa using latin, String.toList_ofList⟩
  · cases turned

theorem toNat_turned (char : Char) : (Char.ofNat (255 - char.toNat)).toNat = 255 - char.toNat := by
  have valid : (255 - char.toNat).isValidChar := .inl (by omega)
  rw [Char.ofNat, dif_pos valid]
  rfl

theorem turned_lt_iff {first second : Char} (firstLatin : first.toNat ≤ 255)
    (secondLatin : second.toNat ≤ 255) :
    Char.ofNat (255 - first.toNat) < Char.ofNat (255 - second.toNat) ↔ second < first := by
  have code : ∀ char other : Char, char < other ↔ char.toNat < other.toNat := fun _ _ => Iff.rfl
  rw [code, code, toNat_turned, toNat_turned]
  omega

theorem turned_turned {char : Char} (latin : char.toNat ≤ 255) :
    Char.ofNat (255 - (Char.ofNat (255 - char.toNat)).toNat) = char := by
  rw [toNat_turned, Nat.sub_sub_self latin, Char.ofNat_toNat]

theorem reversedId_back (turned : reversedId left = .ok leftText) :
    left.toList = leftText.toList.map (fun char => Char.ofNat (255 - char.toNat)) := by
  obtain ⟨latin, chars⟩ := reversedId_ok turned
  rw [chars, List.map_map]
  exact ((List.map_congr_left fun char member => turned_turned (latin char member)).trans
    (List.map_id left.toList)).symm

include leftTurned rightTurned

theorem reversedId_inj : leftText = rightText ↔ left = right := by
  constructor
  · intro same
    rw [← String.toList_inj, reversedId_back leftTurned, reversedId_back rightTurned, same]
  · intro same
    rw [same] at leftTurned
    exact Except.ok.inj (leftTurned.symm.trans rightTurned)

theorem reversedId_lt_iff (ahead : ¬ left.toList <+: right.toList)
    (behind : ¬ right.toList <+: left.toList) : leftText < rightText ↔ right < left := by
  obtain ⟨leftLatin, leftChars⟩ := reversedId_ok leftTurned
  obtain ⟨rightLatin, rightChars⟩ := reversedId_ok rightTurned
  rw [String.lt_iff_toList_lt, String.lt_iff_toList_lt, leftChars, rightChars]
  refine map_lt_map_iff (fun first firstMember second secondMember => ?_)
    (fun first firstMember second secondMember same => ?_) ahead behind
  · exact turned_lt_iff (leftLatin first firstMember) (rightLatin second secondMember)
  · rw [← turned_turned (leftLatin first firstMember), same,
      turned_turned (rightLatin second secondMember)]

theorem not_reversedId_lt (shorter : left.toList <+: right.toList) : ¬ rightText < leftText := by
  obtain ⟨-, leftChars⟩ := reversedId_ok leftTurned
  obtain ⟨-, rightChars⟩ := reversedId_ok rightTurned
  rw [String.lt_iff_toList_lt, leftChars, rightChars]
  exact not_lt_of_prefix (shorter.map _)

end Turned

end Keys

/-! ## Comparison by the first difference -/

inductive Quantity.Alike : Quantity → Quantity → Prop
  | numbers (left right : Extended) : Alike (.number left) (.number right)
  | texts (left right : String) : Alike (.text left) (.text right)

theorem Quantity.Alike.symm {left right : Quantity} (alike : left.Alike right) :
    right.Alike left := by
  cases alike with
  | numbers first second => exact .numbers second first
  | texts first second => exact .texts second first

theorem Measure.read_alike (measure : Measure) (left right : Scored) :
    (measure.read left).Alike (measure.read right) := by
  cases measure <;> constructor

theorem key_turned {value : String} {part : KeyPart}
    (keyed : (Quantity.text value).key true = .ok part) :
    ∃ text, reversedId value = .ok text ∧ part = textKey text := by
  have mapped : (reversedId value).map textKey = .ok part := keyed
  cases turned : reversedId value with
  | error error =>
    rw [turned] at mapped
    cases mapped
  | ok text =>
    rw [turned] at mapped
    exact ⟨text, rfl, (Except.ok.inj mapped).symm⟩

theorem not_text_lt_of_prefix {first second : String}
    (shorter : first.toList <+: second.toList) : ¬ second < first := by
  rw [String.lt_iff_toList_lt]
  exact not_lt_of_prefix shorter

section Parts

variable {left right : Quantity} {descending : Bool} {leftPart rightPart : KeyPart}
  (alike : left.Alike right) (leftKey : left.key descending = .ok leftPart)
  (rightKey : right.key descending = .ok rightPart)

include alike leftKey rightKey

theorem partSame_key (identical : Nat → Bool) (place : Nat) :
    partSame identical place leftPart rightPart = left.same (identical place) right := by
  cases alike with
  | numbers first second =>
    obtain rfl := Except.ok.inj leftKey
    obtain rfl := Except.ok.inj rightKey
    rw [partSame_numberKey]
    cases descending with
    | false => rfl
    | true =>
      have turned : -first = .nan ↔ first = .nan := @Extended.neg_inj first .nan
      simp [Quantity.same, Extended.neg_inj, turned]
  | texts first second =>
    have equal : (Quantity.text first).same (identical place) (.text second) =
        decide (first = second) := by simp [Quantity.same]
    rw [equal]
    cases descending with
    | false =>
      obtain rfl := Except.ok.inj leftKey
      obtain rfl := Except.ok.inj rightKey
      exact partSame_textKey identical place first second
    | true =>
      obtain ⟨firstText, firstTurned, rfl⟩ := key_turned leftKey
      obtain ⟨secondText, secondTurned, rfl⟩ := key_turned rightKey
      rw [partSame_textKey, decide_eq_decide]
      exact reversedId_inj firstTurned secondTurned

/-- The components of two numbers, and of two texts that are not turned around. -/
theorem partLess_key
    (plain : ∀ first second, left = .text first → right = .text second → descending = true →
      ¬ first.toList <+: second.toList ∧ ¬ second.toList <+: first.toList) :
    partLess leftPart rightPart = left.before descending right := by
  cases alike with
  | numbers first second =>
    obtain rfl := Except.ok.inj leftKey
    obtain rfl := Except.ok.inj rightKey
    rw [partLess_numberKey]
    cases descending with
    | false => rfl
    | true =>
      rw [if_pos rfl, if_pos rfl]
      exact decide_eq_decide.mpr Extended.neg_lt_neg_iff
  | texts first second =>
    cases descending with
    | false =>
      obtain rfl := Except.ok.inj leftKey
      obtain rfl := Except.ok.inj rightKey
      exact partLess_textKey first second
    | true =>
      obtain ⟨ahead, behind⟩ := plain first second rfl rfl rfl
      obtain ⟨firstText, firstTurned, rfl⟩ := key_turned leftKey
      obtain ⟨secondText, secondTurned, rfl⟩ := key_turned rightKey
      rw [partLess_textKey]
      exact decide_eq_decide.mpr (reversedId_lt_iff firstTurned secondTurned ahead behind)

/-- Where a rule decides, its components follow it exactly if they keep the order of the
two values. -/
theorem follows_iff_ordered {identical : Bool} (differ : left.same identical right = false) :
    (left.before descending right = true ∧ partLess leftPart rightPart = true ∧
        partLess rightPart leftPart = false) ∨
      (right.before descending left = true ∧ partLess rightPart leftPart = true ∧
        partLess leftPart rightPart = false) ↔ left.Ordered descending right := by
  have reversed := alike.symm
  cases alike with
  | numbers first second =>
    rw [partLess_key (.numbers first second) leftKey rightKey nofun,
      partLess_key reversed rightKey leftKey nofun]
    have apart : first ≠ second ∨ first = .nan := by
      simp only [Quantity.same, Quantity.number.injEq, ne_eq, Bool.and_eq_false_iff,
        decide_eq_false_iff_not, Bool.or_eq_false_iff, not_not] at differ
      exact differ.imp_right And.left
    have order := Extended.lt_or_lt_iff apart
    cases descending with
    | false => simpa [Quantity.before, Quantity.less, Quantity.Ordered] using order
    | true =>
      rw [or_comm] at order
      simpa [Quantity.before, Quantity.less, Quantity.Ordered] using order
  | texts first second =>
    have apart : first ≠ second := by simpa [Quantity.same] using differ
    by_cases plain : descending = true →
        ¬ first.toList <+: second.toList ∧ ¬ second.toList <+: first.toList
    · refine iff_of_true ?_ plain
      rw [partLess_key (.texts first second) leftKey rightKey fun _ _ => ?_,
        partLess_key reversed rightKey leftKey fun _ _ => ?_]
      · have order : first < second ∧ ¬ second < first ∨ second < first ∧ ¬ first < second :=
          (lt_or_gt_of_ne apart).imp (fun less => ⟨less, less.asymm⟩)
            fun less => ⟨less, less.asymm⟩
        cases descending with
        | false => simpa [Quantity.before, Quantity.less] using order
        | true =>
          rw [or_comm] at order
          simpa [Quantity.before, Quantity.less] using order
      · rintro ⟨⟩ ⟨⟩ turned
        exact (plain turned).symm
      · rintro ⟨⟩ ⟨⟩ turned
        exact plain turned
    · -- One is a prefix of the other: it comes first, and so does its turned text.
      refine iff_of_false (fun follows => ?_) plain
      rw [Classical.not_imp, not_and_or, not_not, not_not] at plain
      obtain ⟨rfl, prefixed⟩ := plain
      obtain ⟨firstText, firstTurned, rfl⟩ := key_turned leftKey
      obtain ⟨secondText, secondTurned, rfl⟩ := key_turned rightKey
      simp only [partLess_textKey, decide_eq_true_eq, Quantity.before, Quantity.less,
        if_true] at follows
      cases prefixed with
      | inl shorter =>
        have later := not_reversedId_lt firstTurned secondTurned shorter
        have sooner : ¬ second < first := not_text_lt_of_prefix shorter
        exact follows.elim (fun asked => sooner asked.1) fun asked => later asked.2.1
      | inr shorter =>
        have later := not_reversedId_lt secondTurned firstTurned shorter
        have sooner : ¬ first < second := not_text_lt_of_prefix shorter
        exact follows.elim (fun asked => later asked.2.1) fun asked => sooner asked.1

end Parts

theorem Quantity.same_comm (identical : Bool) (left right : Quantity) :
    left.same identical right = right.same identical left := by
  by_cases equal : left = right
  · rw [equal]
  · simp [same, equal, Ne.symm equal]

/-- Two keys are compared by the components of the first rule on which the candidates
differ. -/
theorem keyLess_firstDifference {left right : Scored} {rules : List TieBreak}
    {leftKey rightKey : List KeyPart} {identical : Nat → Bool}
    (leftKeyed : tryMap (fun rule => TieBreak.key rule left) rules = .ok leftKey)
    (rightKeyed : tryMap (fun rule => TieBreak.key rule right) rules = .ok rightKey) :
    match firstDifference left right identical rules with
    | none => keyLess identical leftKey rightKey = false ∧
      keyLess identical rightKey leftKey = false
    | some rule => ∃ leftPart rightPart shared, rule.key left = .ok leftPart ∧
        rule.key right = .ok rightPart ∧
        (rule.measure.read left).same shared (rule.measure.read right) = false ∧
        keyLess identical leftKey rightKey = partLess leftPart rightPart ∧
        keyLess identical rightKey leftKey = partLess rightPart leftPart := by
  induction rules generalizing identical leftKey rightKey with
  | nil =>
    obtain rfl := Except.ok.inj leftKeyed
    obtain rfl := Except.ok.inj rightKeyed
    exact ⟨rfl, rfl⟩
  | cons rule rules ih =>
    obtain ⟨leftPart, leftRest, leftFirst, leftLater, rfl⟩ := tryMap_cons_ok leftKeyed
    obtain ⟨rightPart, rightRest, rightFirst, rightLater, rfl⟩ := tryMap_cons_ok rightKeyed
    have alike := rule.measure.read_alike left right
    have forward := partSame_key alike leftFirst rightFirst identical 0
    have backward := partSame_key alike.symm rightFirst leftFirst identical 0
    rw [Quantity.same_comm] at backward
    cases same : (rule.measure.read left).same (identical 0) (rule.measure.read right) with
    | true =>
      rw [firstDifference, if_pos same]
      simp only [keyLess, tupleLess, forward, backward, same, if_true]
      exact ih leftLater rightLater
    | false =>
      rw [firstDifference, if_neg (by simp [same])]
      simp only [keyLess, tupleLess, forward, backward, same, Bool.false_eq_true, if_false]
      exact ⟨leftPart, rightPart, identical 0, leftFirst, rightFirst, same, rfl, rfl⟩

theorem keysFollow_iff {left right : Scored} {rules : List TieBreak}
    {leftKey rightKey : List KeyPart} {identical : Nat → Bool}
    (leftKeyed : tryMap (fun rule => TieBreak.key rule left) rules = .ok leftKey)
    (rightKeyed : tryMap (fun rule => TieBreak.key rule right) rules = .ok rightKey) :
    KeysFollow identical left right leftKey rightKey (firstDifference left right identical rules) ↔
      ∀ rule, firstDifference left right identical rules = some rule →
        rule.Compares left right := by
  have compared :=
    @keyLess_firstDifference left right rules leftKey rightKey identical leftKeyed rightKeyed
  cases found : firstDifference left right identical rules with
  | none =>
    rw [found] at compared
    exact iff_of_true compared nofun
  | some rule =>
    rw [found] at compared
    obtain ⟨leftPart, rightPart, shared, leftFirst, rightFirst, differ, forward, backward⟩ :=
      compared
    have alike := rule.measure.read_alike left right
    rw [KeysFollow, forward, backward]
    refine (follows_iff_ordered alike leftFirst rightFirst differ).trans ?_
    exact ⟨fun ordered other same => Option.some.inj same ▸ ordered, fun every => every rule rfl⟩

/-- The keys follow the rules exactly where both can be computed and the first rule on which
the candidates differ has an order that its component keeps. -/
theorem ordersAsNamed_iff (policy : StrategyAllocationPolicy) (identical : Nat → Bool)
    (left right : Scored) :
    policy.OrdersAsNamed identical left right ↔
      policy.Sortable left.1.candidate ∧ policy.Sortable right.1.candidate ∧
      ∀ rule, firstDifference left right identical policy.criteria = some rule →
        rule.Compares left right := by
  constructor
  · rintro ⟨leftKey, rightKey, leftKeyed, rightKeyed, follow⟩
    refine ⟨tieBreakSortKey_ok_iff.mp ⟨leftKey, leftKeyed⟩,
      tieBreakSortKey_ok_iff.mp ⟨rightKey, rightKeyed⟩, ?_⟩
    exact (keysFollow_iff (criteria_of_sortKey leftKeyed) (criteria_of_sortKey rightKeyed)).mp
      follow
  · rintro ⟨leftSortable, rightSortable, compares⟩
    obtain ⟨leftKey, leftKeyed⟩ := tieBreakSortKey_ok_iff.mpr leftSortable
    obtain ⟨rightKey, rightKeyed⟩ := tieBreakSortKey_ok_iff.mpr rightSortable
    refine ⟨leftKey, rightKey, leftKeyed, rightKeyed, ?_⟩
    exact (keysFollow_iff (criteria_of_sortKey leftKeyed)
      (criteria_of_sortKey rightKeyed)).mpr compares

/-! ## Two identifiers -/

def lastFirstPolicy : StrategyAllocationPolicy :=
  { oneMajorPolicy with tieBreakRules := [.str "strategy_id_desc"] }

/-- A candidate of one symbol, accepted with the score one. -/
def acceptedAs (strategyId : String) : Scored :=
  ({ candidate := { plainCandidate 0 "USDJPY" with strategyId }
     symbol := "USDJPY", score := some 1, accepted := true, reason := "candidate_ok" }, 1)

/-- The shorter of `m1` and `m1b` comes first although the rule names descending order, and
an identifier beyond Latin-1 raises. -/
theorem descending_ids_misordered :
    ¬ lastFirstPolicy.OrdersAsNamed (fun _ => false) (acceptedAs "m1") (acceptedAs "m1b") ∧
      ¬ lastFirstPolicy.OrdersAsNamed (fun _ => false) (acceptedAs "m1") (acceptedAs "μ1") := by
  constructor
  · rintro ⟨leftKey, rightKey, leftKeyed, rightKeyed, follow⟩
    have first : firstDifference (acceptedAs "m1") (acceptedAs "m1b") (fun _ => false)
        lastFirstPolicy.criteria = some ⟨.strategyId, true⟩ := by decide +kernel
    have left : lastFirstPolicy.tieBreakSortKey (acceptedAs "m1").1 (acceptedAs "m1").2 =
        .ok [textKey "\u0092\u00ce", textKey "m1"] := by decide +kernel
    have right : lastFirstPolicy.tieBreakSortKey (acceptedAs "m1b").1 (acceptedAs "m1b").2 =
        .ok [textKey "\u0092\u00ce\u009d", textKey "m1b"] := by decide +kernel
    obtain rfl := Except.ok.inj (left.symm.trans leftKeyed)
    obtain rfl := Except.ok.inj (right.symm.trans rightKeyed)
    rw [first] at follow
    exact absurd follow (by unfold KeysFollow; decide +kernel)
  · rintro ⟨leftKey, rightKey, -, rightKeyed, -⟩
    have raised : lastFirstPolicy.tieBreakSortKey (acceptedAs "μ1").1 (acceptedAs "μ1").2 =
        .error .valueError := by decide +kernel
    cases raised.symm.trans rightKeyed

end StrategyAllocationPolicy

end FxToushi.Strategies
