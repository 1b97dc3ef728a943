import FxToushi.Data.Memo
import FxToushi.Data.Runs
import FxToushi.Features.Lookahead

namespace FxToushi.Features

open Data Py

/-! # Runs against the feature cache

A pipeline keeps the matrix of a symbol under the symbol, the default timeframe,
the feature version and the manifest hash.  The bars are not part of the key.
-/

structure Request where
  symbol : String
  priceDf : PriceFrame
deriving DecidableEq

structure Session where
  state : PipelineState
  answers : List (Request × Except FeatureError FeatureMatrix)

def Session.fresh : Session := ⟨.fresh, []⟩

/-- The answer was computed from bars and may have been stored. -/
def Filling (pandas : Pandas) (entry : Request × Except FeatureError FeatureMatrix) : Prop :=
  ∃ frame matrix, baseFrame pandas entry.1.priceDf = .ok frame ∧ frame.rows ≠ [] ∧
    entry.2 = .ok matrix

/-- The bars are those of every call that may have stored the symbol's matrix. -/
def SameBars (pandas : Pandas) (session : Session) (request : Request) : Prop :=
  request.priceDf.isEmpty = false → ∀ entry ∈ session.answers,
    upper entry.1.symbol = upper request.symbol → Filling pandas entry →
      baseFrame pandas entry.1.priceDf = baseFrame pandas request.priceDf

namespace FeaturePipeline

variable (pipeline : FeaturePipeline) (pandas : Pandas) (completion : Completion)

def call (session : Session) (request : Request) : Session :=
  let result := pipeline.computeFeatureMatrix pandas completion session.state request.symbol
    request.priceDf
  ⟨result.2, session.answers ++ [(request, result.1)]⟩

/-- Every answer is the one of a fresh pipeline. -/
def Transparent (session : Session) : Prop :=
  ∀ entry ∈ session.answers, entry.2 =
    (pipeline.computeFeatureMatrix pandas completion .fresh entry.1.symbol entry.1.priceDf).1

/-! ## The cache as a memo table -/

/-- What a computed call stores: the matrix of a frame that has bars. -/
def storedMatrix (priceDf : PriceFrame) : Option FeatureMatrix :=
  if priceDf.isEmpty then none
  else
    match baseFrame pandas priceDf with
    | .error _ => none
    | .ok frame =>
      if frame.rows = [] then none
      else (pipeline.featureMatrix pandas completion frame).toOption

variable {pipeline pandas completion}

theorem storedMatrix_eq_some {priceDf : PriceFrame} {matrix : FeatureMatrix}
    (stored : pipeline.storedMatrix pandas completion priceDf = some matrix) :
    priceDf.isEmpty = false ∧ ∃ frame, baseFrame pandas priceDf = .ok frame ∧ frame.rows ≠ [] ∧
      pipeline.featureMatrix pandas completion frame = .ok matrix := by
  unfold storedMatrix at stored
  cases listed : priceDf.isEmpty with
  | true => simp [listed] at stored
  | false =>
    cases framed : baseFrame pandas priceDf with
    | error error => simp [listed, framed] at stored
    | ok frame =>
      by_cases empty : frame.rows = []
      · simp [listed, framed, empty] at stored
      · simp only [listed, framed, if_neg empty] at stored
        exact ⟨rfl, frame, rfl, empty, ok_of_toOption stored⟩

theorem uncached_of_stored {priceDf : PriceFrame} {matrix : FeatureMatrix}
    (stored : pipeline.storedMatrix pandas completion priceDf = some matrix) :
    pipeline.uncached pandas completion priceDf = .ok matrix := by
  obtain ⟨listed, frame, framed, rows, computed⟩ := storedMatrix_eq_some stored
  simp [uncached, listed, framed, rows, computed, bind, Except.bind]

variable (pipeline pandas completion) in
def cacheMemo : Memo Request String FeatureMatrix (Except FeatureError FeatureMatrix) where
  key request :=
    if request.priceDf.isEmpty then none else some (pipeline.cacheKey (upper request.symbol))
  compute request := pipeline.uncached pandas completion request.priceDf
  stored request := pipeline.storedMatrix pandas completion request.priceDf
  answerOf := .ok
  answerOf_stored _ _ stored := (uncached_of_stored stored).symm

/-- `compute_feature_matrix` asks the memo table. -/
theorem computeFeatureMatrix_ask (state : PipelineState) (request : Request) :
    ((pipeline.computeFeatureMatrix pandas completion state request.symbol request.priceDf).1,
      (pipeline.computeFeatureMatrix pandas completion state request.symbol
        request.priceDf).2.cache) =
      (pipeline.cacheMemo pandas completion).ask state.cache request := by
  unfold computeFeatureMatrix Memo.ask Memo.keep cacheMemo
  cases listed : request.priceDf.isEmpty with
  | true => simp [uncached, listed]
  | false =>
    simp only [listed, Bool.false_eq_true, if_false]
    cases state.cache.get? (pipeline.cacheKey (upper request.symbol)) with
    | some cached => rfl
    | none =>
      cases framed : baseFrame pandas request.priceDf with
      | error error => simp [storedMatrix, uncached, listed, framed, bind, Except.bind]
      | ok frame =>
        by_cases empty : frame.rows = []
        · simp [storedMatrix, uncached, listed, framed, empty, bind, Except.bind, pure,
            Except.pure]
        · cases computed : pipeline.featureMatrix pandas completion frame <;>
            simp [storedMatrix, uncached, listed, framed, empty, computed, bind, Except.bind,
              Except.toOption, PipelineState.refreshContextSymbols]

theorem cacheKey_inj {first second : String}
    (same : pipeline.cacheKey first = pipeline.cacheKey second) : first = second := by
  simpa [cacheKey, buildKey, String.append_assoc] using same

/-! ## Runs -/

/-- Right answers so far, and a cache filled by the calls so far. -/
structure Faithful (pipeline : FeaturePipeline) (pandas : Pandas) (completion : Completion)
    (session : Session) : Prop where
  transparent : pipeline.Transparent pandas completion session
  filled : (pipeline.cacheMemo pandas completion).FilledBy (session.answers.map Prod.fst)
    session.state.cache

theorem call_answers (session : Session) (request : Request) :
    (pipeline.call pandas completion session request).answers = session.answers ++
      [(request, ((pipeline.cacheMemo pandas completion).ask session.state.cache request).1)] := by
  rw [← computeFeatureMatrix_ask]
  rfl

theorem call_cache (session : Session) (request : Request) :
    (pipeline.call pandas completion session request).state.cache =
      ((pipeline.cacheMemo pandas completion).ask session.state.cache request).2 := by
  rw [← computeFeatureMatrix_ask]
  rfl

/-- With the bars of the calls that may have stored the matrix, the answer is
the one without a cache. -/
theorem Faithful.answer {session : Session} {request : Request}
    (faithful : Faithful pipeline pandas completion session)
    (same : SameBars pandas session request) :
    ((pipeline.cacheMemo pandas completion).ask session.state.cache request).1 =
      pipeline.uncached pandas completion request.priceDf := by
  apply Memo.ask_eq_compute faithful.filled
  intro earlier asked sameKey keyed kept
  obtain ⟨entry, answered, rfl⟩ := List.mem_map.mp asked
  obtain ⟨matrix, stored⟩ := Option.isSome_iff_exists.mp kept
  obtain ⟨earlierListed, frame, framed, rows, computed⟩ := storedMatrix_eq_some stored
  have listed : request.priceDf.isEmpty = false := by
    cases empty : request.priceDf.isEmpty with
    | false => rfl
    | true => simp [cacheMemo, empty] at keyed
  have symbols : upper entry.1.symbol = upper request.symbol := by
    simp only [cacheMemo, listed, earlierListed, Bool.false_eq_true, if_false,
      Option.some.injEq] at sameKey
    exact cacheKey_inj sameKey
  have right : entry.2 = .ok matrix := by
    rw [faithful.transparent entry answered, computeFeatureMatrix_fresh,
      uncached_of_stored stored]
  have bars := same listed entry answered symbols ⟨frame, matrix, framed, rows, right⟩
  simp [cacheMemo, uncached, listed, earlierListed, bars]

theorem Faithful.call {session : Session} {request : Request}
    (faithful : Faithful pipeline pandas completion session)
    (same : SameBars pandas session request) :
    Faithful pipeline pandas completion (pipeline.call pandas completion session request) where
  transparent := by
    intro entry answered
    rw [call_answers] at answered
    rcases List.mem_append.mp answered with earlier | now
    · exact faithful.transparent entry earlier
    · obtain rfl := List.mem_singleton.mp now
      rw [computeFeatureMatrix_fresh]
      exact faithful.answer same
  filled := by
    rw [call_cache, call_answers, List.map_append]
    exact faithful.filled.ask

theorem cache_transparent {requests : List Request}
    (same : EachStep (pipeline.call pandas completion) (SameBars pandas) Session.fresh requests) :
    Throughout (pipeline.call pandas completion) (pipeline.Transparent pandas completion)
      Session.fresh requests := by
  have initial : Faithful pipeline pandas completion Session.fresh :=
    ⟨by simp [Transparent, Session.fresh], Memo.filledBy_empty⟩
  have kept : Throughout (pipeline.call pandas completion)
      (Faithful pipeline pandas completion) Session.fresh requests :=
    throughout_of_eachStep (fun _ _ faithful bars => faithful.call bars) initial same
  exact kept.imp (fun _ faithful => faithful.transparent)

def midnightRequest : Request := ⟨"USDJPY", midnightOnly⟩

def halfPastRequest : Request := ⟨"usdjpy", untilHalfPast⟩

theorem cache_transparent_repeated :
    Throughout (hourlyPipeline.call .exact .submitted)
      (hourlyPipeline.Transparent .exact .submitted) Session.fresh
        [midnightRequest, midnightRequest] :=
  cache_transparent ⟨fun _ _ answered => absurd answered (by simp [Session.fresh]),
    fun _ entry answered _ _ => by
      rw [call_answers, List.mem_append, List.mem_singleton] at answered
      rcases answered with earlier | rfl
      · exact absurd earlier (by simp [Session.fresh])
      · rfl,
    trivial⟩

/-- The second call is answered with the matrix of the first one's bars. -/
theorem cache_answers_with_other_bars :
    ¬ ∀ (pipeline : FeaturePipeline) pandas completion requests,
      Throughout (pipeline.call pandas completion) (pipeline.Transparent pandas completion)
        Session.fresh requests := by
  intro holds
  have right := (holds hourlyPipeline .exact .submitted [midnightRequest, halfPastRequest]).final
  have last := right
    (halfPastRequest, hourlyPipeline.uncached .exact .submitted midnightOnly) (by decide +kernel)
  rw [computeFeatureMatrix_fresh] at last
  exact absurd last (by decide +kernel)

end FeaturePipeline

end FxToushi.Features
