import FxToushi.Strategies.Engine

namespace FxToushi.Strategies

open FxToushi.Core Data Py

/-! # Lapsed strategies

The lifecycle is looked at when the manifest is loaded, and a deprecated
strategy is refused there.  The engine runs every enabled entry at any later
time.
-/

def Lapsed (entry : StrategyEntry) (now : Timestamp) : Prop :=
  entry.effectiveStatus now = .blocked ∨ entry.effectiveStatus now = .deprecated

/-- How a lifecycle that was accepted comes to be lapsed: it was blocked from
the start, or a date passed in between. -/
inductive RunsOut (lifecycle : StrategyLifecycle) (loadedAt now : Timestamp) : Prop where
  | blocked (status : lifecycle.status = .blocked)
  | expired (expiry : Timestamp) (set : lifecycle.expiresAt = some expiry)
      (ahead : loadedAt < expiry) (passed : expiry ≤ now)
  | outdated (recent : loadedAt ≤ lifecycle.validUntil) (passed : lifecycle.validUntil < now)

theorem lifecycle_lapsed_iff {lifecycle : StrategyLifecycle} {loadedAt now : Timestamp}
    (accepted : lifecycle.effectiveStatus loadedAt ≠ .deprecated) :
    (lifecycle.effectiveStatus now = .blocked ∨ lifecycle.effectiveStatus now = .deprecated) ↔
      RunsOut lifecycle loadedAt now := by
  unfold StrategyLifecycle.effectiveStatus at accepted ⊢
  by_cases blocked : lifecycle.status = .blocked
  · simp only [if_pos blocked, true_or, true_iff]
    exact .blocked blocked
  simp only [if_neg blocked] at accepted ⊢
  by_cases deprecated : lifecycle.status = .deprecated
  · exact absurd (if_pos deprecated) accepted
  simp only [if_neg deprecated] at accepted ⊢
  have unexpired : lifecycle.expiresAt.any (fun expiry => decide (expiry ≤ loadedAt)) = false := by
    by_contra expired
    exact accepted (if_pos (by simpa using expired))
  rw [unexpired, if_neg (by simp)] at accepted
  have recent : ¬ lifecycle.validUntil < loadedAt := fun outdated => accepted (if_pos outdated)
  by_cases expired : lifecycle.expiresAt.any (fun expiry => decide (expiry ≤ now))
  · rw [if_pos expired]
    obtain ⟨expiry, set, passed⟩ : ∃ expiry, lifecycle.expiresAt = some expiry ∧ expiry ≤ now := by
      cases set : lifecycle.expiresAt with
      | none => simp [set] at expired
      | some expiry => exact ⟨expiry, rfl, by simpa [set] using expired⟩
    have ahead : loadedAt < expiry := by simpa [set] using unexpired
    exact iff_of_true (.inr rfl) (.expired expiry set ahead passed)
  · rw [if_neg expired]
    by_cases outdated : lifecycle.validUntil < now
    · rw [if_pos outdated]
      exact iff_of_true (.inr rfl) (.outdated (not_lt.mp recent) outdated)
    · rw [if_neg outdated]
      refine iff_of_false (by simp [blocked, deprecated]) ?_
      intro runsOut
      cases runsOut with
      | blocked status => exact blocked status
      | expired expiry set ahead passed => exact expired (by simp [set, passed])
      | outdated recent passed => exact outdated passed

theorem load_accepted {payload : Dict String StrategyEntry} {loadedAt : Timestamp}
    {manifest : StrategyManifest} (loaded : StrategyManifest.load payload loadedAt = .ok manifest)
    {item : String × StrategyEntry} (member : item ∈ manifest.enabledStrategies) :
    item.2.effectiveStatus loadedAt ≠ .deprecated := by
  obtain ⟨built, -, loaded⟩ := bind_ok loaded
  obtain ⟨_, checked, loaded⟩ := bind_ok loaded
  obtain rfl := Except.ok.inj loaded
  intro deprecated
  have kept : item ∈ built.enabledStrategies.filter
      (fun item => decide (item.2.effectiveStatus loadedAt = .deprecated)) :=
    List.mem_filter.mpr ⟨member, decide_eq_true deprecated⟩
  unfold StrategyManifest.validateLifecycle at checked
  split at checked
  · rename_i none_stale
    rw [List.map_eq_nil_iff.mp none_stale] at kept
    exact absurd kept List.not_mem_nil
  · exact absurd checked (by simp)

/-! ## Which strategies a run calls -/

namespace StrategyEngine

/-- The loop gets to the entry: the checks before it pass, and every strategy
ahead of it is done without an exception. -/
def Reaches (engine : StrategyEngine) (arguments : RunArguments) (item : String × StrategyEntry) :
    Prop :=
  ∃ watchlist, preflight engine.manifest arguments = .ok watchlist ∧
    ∃ before after, orderedEntries engine.manifest = before ++ item :: after ∧
      ∀ earlier ∈ before, (engine.runEntry arguments watchlist earlier).failure = none

variable {engine : StrategyEngine} {arguments : RunArguments}

theorem mem_journal_iff {event : EngineEvent} :
    event ∈ (engine.journal arguments).events ↔
      ∃ watchlist, preflight engine.manifest arguments = .ok watchlist ∧
        ∃ before item after, orderedEntries engine.manifest = before ++ item :: after ∧
          (∀ earlier ∈ before, (engine.runEntry arguments watchlist earlier).failure = none) ∧
          event ∈ (engine.runEntry arguments watchlist item).events := by
  unfold journal
  cases checked : preflight engine.manifest arguments with
  | error error => simp [Journal.failed]
  | ok watchlist => simp only [Journal.mem_each_iff, Except.ok.injEq, exists_eq_left']

theorem called_mem_journal_iff {strategyId : String} :
    .called strategyId ∈ (engine.journal arguments).events ↔
      ∃ item, engine.Reaches arguments item ∧ engine.Calls arguments item ∧
        strategyId = item.1 := by
  rw [mem_journal_iff]
  constructor
  · rintro ⟨watchlist, checked, before, item, after, split, earlier, recorded⟩
    obtain ⟨same, calls⟩ := called_mem_runEntry_iff.mp recorded
    exact ⟨item, ⟨watchlist, checked, before, after, split, earlier⟩, calls, same⟩
  · rintro ⟨item, ⟨watchlist, checked, before, after, split, earlier⟩, calls, same⟩
    exact ⟨watchlist, checked, before, item, after, split, earlier,
      called_mem_runEntry_iff.mpr ⟨same, calls⟩⟩

theorem called_of_emitted {candidate : AllocationCandidate}
    (recorded : .emitted candidate ∈ (engine.journal arguments).events) :
    .called candidate.strategyId ∈ (engine.journal arguments).events := by
  obtain ⟨watchlist, checked, before, item, after, split, earlier, recorded⟩ :=
    mem_journal_iff.mp recorded
  obtain ⟨same, free, plugin, -, -, found, -⟩ := emitted_mem_runEntry recorded
  exact called_mem_journal_iff.mpr ⟨item, ⟨watchlist, checked, before, after, split, earlier⟩,
    ⟨⟨plugin, found⟩, free⟩, same⟩

theorem Reaches.mem_entries {item : String × StrategyEntry}
    (reached : engine.Reaches arguments item) :
    item ∈ engine.manifest.enabledStrategies ∧
      engine.manifest.strategies.get? item.1 = some item.2 := by
  obtain ⟨_, -, before, after, split, -⟩ := reached
  have member : item ∈ engine.manifest.enabledStrategies :=
    mem_orderedEntries.mp (by rw [split]; simp)
  exact ⟨member, (Dict.get?_eq_some_iff _).mpr (List.mem_of_mem_filter member)⟩

/-! ## Lapsed strategies stay out -/

/-- No lapsed strategy is called, and no returned signal is one of theirs. -/
structure LapsedStayOut (engine : StrategyEngine) (arguments : RunArguments) : Prop where
  notCalled : ∀ strategyId entry, engine.manifest.strategies.get? strategyId = some entry →
    Lapsed entry arguments.now → .called strategyId ∉ (engine.journal arguments).events
  notReturned : ∀ returned, engine.runAll arguments = .ok returned → ∀ candidate ∈ returned,
    ∀ entry, engine.manifest.strategies.get? candidate.strategyId = some entry →
      ¬ Lapsed entry arguments.now

/-- Every strategy the run gets to and does not hold back has a lifecycle that
lasts until the clock. -/
def CallsLast (engine : StrategyEngine) (loadedAt : Timestamp) (arguments : RunArguments) : Prop :=
  ∀ item, engine.Reaches arguments item → engine.Calls arguments item →
    ∀ lifecycle, item.2.lifecycle = some lifecycle → ¬ RunsOut lifecycle loadedAt arguments.now

theorem lapsed_iff {entry : StrategyEntry} {loadedAt now : Timestamp}
    (enabled : entry.enabled = true) (accepted : entry.effectiveStatus loadedAt ≠ .deprecated) :
    Lapsed entry now ↔
      ∃ lifecycle, entry.lifecycle = some lifecycle ∧ RunsOut lifecycle loadedAt now := by
  unfold Lapsed
  unfold StrategyEntry.effectiveStatus at accepted ⊢
  cases dated : entry.lifecycle with
  | none => simp [enabled]
  | some lifecycle =>
    simp only [dated] at accepted ⊢
    rw [lifecycle_lapsed_iff accepted]
    simp

theorem lapsedStayOut_iff {payload : Dict String StrategyEntry} {loadedAt : Timestamp}
    (loaded : StrategyManifest.load payload loadedAt = .ok engine.manifest)
    (arguments : RunArguments) :
    engine.LapsedStayOut arguments ↔ engine.CallsLast loadedAt arguments := by
  have lapsed {item : String × StrategyEntry} (reached : engine.Reaches arguments item) :
      Lapsed item.2 arguments.now ↔ ∃ lifecycle, item.2.lifecycle = some lifecycle ∧
        RunsOut lifecycle loadedAt arguments.now :=
    lapsed_iff (StrategyManifest.mem_enabledStrategies.mp reached.mem_entries.1).2
      (load_accepted loaded reached.mem_entries.1)
  constructor
  · intro out item reached calls lifecycle dated runsOut
    refine out.notCalled item.1 item.2 reached.mem_entries.2
      ((lapsed reached).mpr ⟨lifecycle, dated, runsOut⟩) ?_
    exact called_mem_journal_iff.mpr ⟨item, reached, calls, rfl⟩
  · intro lasting
    have notCalled : ∀ strategyId entry,
        engine.manifest.strategies.get? strategyId = some entry → Lapsed entry arguments.now →
          .called strategyId ∉ (engine.journal arguments).events := by
      intro strategyId entry found out called
      obtain ⟨item, reached, calls, rfl⟩ := called_mem_journal_iff.mp called
      obtain rfl := Option.some.inj (reached.mem_entries.2.symm.trans found)
      obtain ⟨lifecycle, dated, runsOut⟩ := (lapsed reached).mp out
      exact lasting item reached calls lifecycle dated runsOut
    refine ⟨notCalled, fun returned ran candidate member entry found out => ?_⟩
    obtain ⟨original, recorded, same, -⟩ := runAll_mem ran member
    rw [← same] at found
    exact notCalled original.strategyId entry found out (called_of_emitted recorded)

def plainEntry (name : String) (watchlist : Option Tokens) : StrategyEntry where
  priority := 1
  weight := 0
  metadata :=
    { name, version := "1", requiredFeatures := ⟨["close_5m"], by decide, by decide, by decide⟩ }
  watchlist

def blockedEntry : StrategyEntry :=
  { plainEntry "M1" none with lifecycle := some { status := .blocked, lastValidatedAt := 0 } }

def blockedPayload : Dict String StrategyEntry := ⟨[("m1", blockedEntry)], by decide⟩

def yenEngine (manifest : StrategyManifest) : StrategyEngine where
  plugins := symbolPlugins manifest "USDJPY"
  manifest

def yenArguments : RunArguments where
  features := { symbols := {"USDJPY"}, availableKeys := {"close_5m"} }
  now := 0
  wallNow := 0

theorem lapsedStayOut_blocked :
    ∃ manifest, StrategyManifest.load blockedPayload 0 = .ok manifest ∧
      ((yenEngine manifest).LapsedStayOut yenArguments ↔
        (yenEngine manifest).CallsLast 0 yenArguments) := by
  obtain ⟨manifest, loaded⟩ := exists_ok (StrategyManifest.load blockedPayload 0)
    (by decide +kernel)
  exact ⟨manifest, loaded, @lapsedStayOut_iff (yenEngine manifest) _ _ loaded yenArguments⟩

/-- A manifest with a blocked strategy loads, and the strategy is called. -/
theorem blocked_strategy_called :
    ¬ ∀ (engine : StrategyEngine) payload loadedAt arguments,
      StrategyManifest.load payload loadedAt = .ok engine.manifest → loadedAt ≤ arguments.now →
        engine.LapsedStayOut arguments := by
  intro holds
  obtain ⟨manifest, loaded, called⟩ :=
    @exists_ok_any _ _ (StrategyManifest.load blockedPayload 0)
      (fun manifest => decide
        ("m1" ∈ ((yenEngine manifest).journal yenArguments).events.filterMap called? ∧
          (manifest.strategies.get? "m1").any
            (fun entry => decide (entry.effectiveStatus 0 = .blocked)) = true))
      (by decide +kernel)
  obtain ⟨called, blocked⟩ := of_decide_eq_true called
  cases found : manifest.strategies.get? "m1" with
  | none => simp [found] at blocked
  | some entry =>
    have status : entry.effectiveStatus 0 = .blocked := by simpa [found] using blocked
    have out := (holds (yenEngine manifest) blockedPayload 0 yenArguments loaded
      (le_refl _)).notCalled "m1" entry found (.inl status)
    obtain ⟨event, recorded, named⟩ := List.mem_filterMap.mp called
    cases event with
    | called strategyId =>
      obtain rfl := Option.some.inj named
      exact out recorded
    | emitted candidate => exact absurd named (by simp [called?])

end StrategyEngine

end FxToushi.Strategies
