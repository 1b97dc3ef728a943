import FxToushi.Data.Programs
import FxToushi.Ingestion.DataQuality
import FxToushi.Ingestion.Provider

namespace FxToushi.Ingestion.Buffered

open Data Py Calendar

/-! # The items between fetching and processing

The buffer is a queue of items.  An attempt puts an item at its end when the
provider has answered, and takes the item at its front when it is through with
the frames.  What an attempt does apart from that cannot reach the buffer: it
runs aside.
-/

/-- The frames are those that the data quality guard checks. -/
abbrev MarketFrame := DataQuality.MarketFrame

abbrev QualityResult := DataQuality.QualityResult

/-- The number tells the objects apart. -/
structure BufferItem where
  serial : Nat
  provider : String
  symbols : List String
  timeframe : String
  requestTs : DateTime
  enqueueTs : DateTime
  frames : List MarketFrame

/-- A coordinator with its items.  `made` are the items it has made so far, for
the statements only. -/
structure BufferCoordinator where
  maxsize : Int
  items : List BufferItem
  dropped : Nat
  made : Nat
  room : maxsize ≤ 0 → items = []
  numbered : ∀ item ∈ items, item.serial < made

namespace BufferCoordinator

def new (maxsize : Int) : BufferCoordinator where
  maxsize
  items := []
  dropped := 0
  made := 0
  room := fun _ => rfl
  numbered := by simp

/-- A full queue drops its first item, and raises when there is none. -/
def enqueue (buffer : BufferCoordinator) (provider : String) (symbols : List String)
    (timeframe : String) (requestTs enqueueTs : DateTime) (frames : List MarketFrame) :
    Option (BufferItem × BufferCoordinator) :=
  let full := buffer.maxsize ≤ buffer.items.length
  if positive : full ∧ buffer.items = [] then none
  else
    let item : BufferItem :=
      { serial := buffer.made, provider, symbols, timeframe, requestTs, enqueueTs, frames }
    let kept := if full then buffer.items.tail else buffer.items
    some (item, { buffer with
      items := kept ++ [item]
      dropped := if full then buffer.dropped + 1 else buffer.dropped
      made := buffer.made + 1
      room := by
        intro small
        have empty := buffer.room small
        exact absurd ⟨by simp [full, empty, small], empty⟩ positive
      numbered := by
        intro other member
        rcases List.mem_append.mp member with before | last
        · have held : other ∈ buffer.items := by
            by_cases isFull : full
            · exact List.mem_of_mem_tail (by simpa [kept, isFull] using before)
            · simpa [kept, isFull] using before
          exact Nat.lt_succ_of_lt (buffer.numbered other held)
        · obtain rfl := List.mem_singleton.mp last
          exact Nat.lt_succ_self _ })

def pop (buffer : BufferCoordinator) : BufferCoordinator :=
  { buffer with
    items := buffer.items.tail
    room := fun small => by simp [buffer.room small]
    numbered := fun item member => buffer.numbered item (List.mem_of_mem_tail member) }

@[simp] theorem pop_items (buffer : BufferCoordinator) : buffer.pop.items = buffer.items.tail := rfl

@[simp] theorem pop_maxsize (buffer : BufferCoordinator) : buffer.pop.maxsize = buffer.maxsize :=
  rfl

/-- The length of the queue and its limit. -/
def count (buffer : BufferCoordinator) : Ingestion.BufferCoordinator where
  maxsize := buffer.maxsize
  queued := buffer.items.length
  room := fun small => by simp [buffer.room small]

section Enqueue

variable {buffer : BufferCoordinator} (provider : String) (symbols : List String)
  (timeframe : String) (requestTs enqueueTs : DateTime) (frames : List MarketFrame)

theorem enqueue_of_open (notFull : (buffer.items.length : Int) < buffer.maxsize) :
    ∃ item next,
      buffer.enqueue provider symbols timeframe requestTs enqueueTs frames = some (item, next) ∧
        next.items = buffer.items ++ [item] ∧ item ∉ buffer.items ∧
          next.maxsize = buffer.maxsize := by
  have notHeld (item : BufferItem) (made : item.serial = buffer.made) : item ∉ buffer.items := by
    intro held
    exact absurd made (Nat.ne_of_lt (buffer.numbered item held))
  have open_ : ¬ buffer.maxsize ≤ buffer.items.length := not_le.mpr notFull
  simp only [enqueue, open_, false_and, dite_false, if_false]
  exact ⟨_, _, rfl, rfl, notHeld _ rfl, rfl⟩

theorem enqueue_maxsize {item : BufferItem} {next : BufferCoordinator}
    (enqueued : buffer.enqueue provider symbols timeframe requestTs enqueueTs frames =
      some (item, next)) : next.maxsize = buffer.maxsize := by
  unfold enqueue at enqueued
  dsimp only at enqueued
  split at enqueued
  · cases enqueued
  · cases enqueued
    rfl

/-- The counts of the queue are those of a coordinator without items. -/
theorem count_enqueue :
    (buffer.enqueue provider symbols timeframe requestTs enqueueTs frames).map
        (fun made => made.2.count) = buffer.count.enqueue := by
  by_cases positive : 0 < buffer.count.maxsize
  · have held : ¬ (buffer.maxsize ≤ buffer.items.length ∧ buffer.items = []) := by
      intro ⟨full, empty⟩
      rw [empty, List.length_nil] at full
      exact absurd positive (not_lt.mpr full)
    rw [enqueue, Ingestion.BufferCoordinator.enqueue, dif_neg held, dif_pos positive]
    by_cases full : buffer.maxsize ≤ buffer.items.length
    · have some_ : 0 < buffer.items.length := by
        have sized : 0 < buffer.maxsize := positive
        omega
      simp only [Option.map_some, count, full, if_true, List.length_append, List.length_tail,
        List.length_singleton, Nat.sub_add_cancel some_]
    · simp [count, full]
  · have small : buffer.maxsize ≤ 0 := not_lt.mp positive
    have empty := buffer.room small
    have none_ : buffer.maxsize ≤ buffer.items.length ∧ buffer.items = [] :=
      ⟨by simpa [empty] using small, empty⟩
    rw [enqueue, Ingestion.BufferCoordinator.enqueue, dif_pos none_, dif_neg positive]
    rfl

theorem count_pop : buffer.pop.count = buffer.count.pop := by
  simp [count, Ingestion.BufferCoordinator.pop, pop]

end Enqueue

end BufferCoordinator

/-! ## Attempts -/

structure ProviderResult where
  frames : List MarketFrame
  p95Ms : Rat
  p99Ms : Rat
  rateLimitRatio : Rat := 0

/-- What an attempt works on apart from the buffer: the outside world, the
frames at hand and the variables of the function it is in. -/
structure Scene (World Locals : Type) where
  world : World
  frames : List MarketFrame
  locals : Locals

structure Site (World Locals : Type) where
  scene : Scene World Locals
  buffer : BufferCoordinator
  bufferItem : Option BufferItem

abbrev Aside (World Locals Result : Type) := EStateM Raised (Scene World Locals) Result

abbrev Run (World Locals Result : Type) := EStateM Raised (Site World Locals) Result

abbrev Service (World Input Output : Type) := Input → World → Except Raised Output × World

variable {World Locals Input Output Result : Type}

/-- A call of something outside, which may raise. -/
def serve (service : Service World Input Output) (input : Input) : Aside World Locals Output :=
  fun scene =>
    match service input scene.world with
    | (.ok output, world) => .ok output { scene with world }
    | (.error error, world) => .error error { scene with world }

/-- The reading of a clock. -/
def read (clock : World → Result × World) : Aside World Locals Result := fun scene =>
  let (reading, world) := clock scene.world
  .ok reading { scene with world }

def assign (update : Locals → Locals) : Aside World Locals Unit :=
  modify (fun scene => { scene with locals := update scene.locals })

def assignFrames (frames : List MarketFrame) : Aside World Locals Unit :=
  modify (fun scene => { scene with frames })

def ofExcept (result : Except Raised Result) : Aside World Locals Result :=
  match result with
  | .ok value => pure value
  | .error error => throw error

def aside (program : Aside World Locals Result) : Run World Locals Result :=
  within Site.scene (fun scene site => { site with scene }) program

/-- A queue without room raises an `IndexError`. -/
def enqueue (provider : String) (symbols : List String) (timeframe : String)
    (requestTs enqueueTs : DateTime) (frames : List MarketFrame) :
    Run World Locals BufferItem := fun site =>
  match site.buffer.enqueue provider symbols timeframe requestTs enqueueTs frames with
  | none => .error .unexpected site
  | some (item, buffer) => .ok item { site with buffer, bufferItem := some item }

def pop : Run World Locals Unit := modify (fun site => { site with buffer := site.buffer.pop })

/-- `if buffer_item is not None: buffer_coordinator.pop()`. -/
def release : Run World Locals Unit := modify (fun site =>
  { site with buffer := if site.bufferItem.isSome then site.buffer.pop else site.buffer })

/-- The answer of a provider, when it was asked and how long it took. -/
structure Answered where
  requestTs : DateTime
  elapsedMs : Rat
  result : ProviderResult

/-- The guard goes over the frames; `done` are those it is through with. -/
def checkFrames (validate : Option (Service World MarketFrame QualityResult))
    (note : MarketFrame → QualityResult → Locals → Locals) :
    List MarketFrame → List MarketFrame → Aside World Locals Unit
  | _, [] => pure ()
  | done, frame :: rest =>
    match validate with
    | none => pure ()
    | some validate => do
        let quality ← serve validate frame
        let flagged := { frame with qualityFlag := quality.qualityFlag }
        assignFrames (done ++ flagged :: rest)
        assign (note flagged quality)
        if quality.status ∈ ["fail", "error"] then
          throw (.dataQualityError quality.issues quality.status quality.qualityFlag)
        checkFrames (some validate) note (done ++ [flagged]) rest

/-- What fetching and backfilling do alike at a provider. -/
structure Attempt (World Locals : Type) where
  provider : String
  symbols : List String
  timeframe : String
  now : World → DateTime × World
  answer : Aside World Locals Answered
  validate : Option (Service World MarketFrame QualityResult)
  note : MarketFrame → QualityResult → Locals → Locals
  /-- What is done with the frames once the item is taken from the buffer, given
  how long the item had waited to be enqueued and then to be processed. -/
  finish : Answered → Rat → Rat → Aside World Locals Unit
  /-- What is done about a recognised error once the item is taken. -/
  recover : Raised → Aside World Locals Unit

inductive Ended where
  | answered
  | retry
  | gaveUp
deriving Repr, DecidableEq

namespace Attempt

variable (attempt : Attempt World Locals)

def check (frames : List MarketFrame) : Aside World Locals Unit :=
  checkFrames attempt.validate attempt.note [] frames

def seconds (earlier later : DateTime) : Rat := (later.instant - earlier.instant : Int) / 1000000

/-- The `try` block. -/
def body : Run World Locals Unit := do
  let answered ← aside attempt.answer
  aside (assignFrames answered.result.frames)
  let enqueueTs ← aside (read attempt.now)
  let item ← enqueue attempt.provider attempt.symbols attempt.timeframe answered.requestTs
    enqueueTs answered.result.frames
  let delaySec := max (seconds item.requestTs item.enqueueTs) 0
  aside (attempt.check answered.result.frames)
  let processed ← aside (read attempt.now)
  let processingDelayMs := max (seconds item.enqueueTs processed * 1000) 0
  pop
  aside (attempt.finish answered delaySec processingDelayMs)

/-- The `except` blocks: an exit passes through both. -/
def handle : Raised → Run World Locals Ended
  | .exits => throw .exits
  | .unexpected => do
      release
      return .gaveUp
  | error => do
      release
      aside (attempt.recover error)
      return .retry

def run : Run World Locals Ended := do
  modify (fun site => { site with bufferItem := none })
  tryCatch (do attempt.body; return .answered) attempt.handle

end Attempt

/-- The attempts left at a provider, with so many made before.  A recognised
error is tried again, any other exception gives the provider up. -/
def attempts (attempt : Nat → Nat → Attempt World Locals) :
    Nat → Nat → Run World Locals Ended
  | 0, _ => return .gaveUp
  | remaining + 1, made => do
      match ← (attempt remaining made).run with
      | .retry => attempts attempt remaining (made + 1)
      | ended => return ended

/-! ## What an attempt leaves in the buffer -/

theorem run_aside (program : Aside World Locals Result) (site : Site World Locals) :
    (aside program).run site =
      match program.run site.scene with
      | .ok value scene => .ok value { site with scene }
      | .error error scene => .error error { site with scene } := by
  rw [aside, run_within]
  cases program.run site.scene with
  | ok value scene => rfl
  | error error scene => rfl

theorem run_read (clock : World → Result × World) (scene : Scene World Locals) :
    (read clock).run scene = .ok (clock scene.world).1
      { scene with world := (clock scene.world).2 } := rfl

theorem run_assignFrames (frames : List MarketFrame) (scene : Scene World Locals) :
    (assignFrames frames).run scene = .ok () { scene with frames } := rfl

theorem run_release (site : Site World Locals) :
    (release : Run World Locals Unit).run site = .ok () { site with
      buffer := if site.bufferItem.isSome then site.buffer.pop else site.buffer } := rfl

theorem preserves_aside (good : BufferCoordinator → Option BufferItem → Prop)
    (program : Aside World Locals Result) :
    Preserves (fun site : Site World Locals => good site.buffer site.bufferItem)
      (aside program) := by
  unfold aside
  refine preserves_within ?_ program
  intro _ _ holds
  exact holds

namespace Attempt

variable (attempt : Attempt World Locals)

/-- The attempt up to the end of the check, apart from the buffer. -/
def checking : Aside World Locals Unit := do
  let answered ← attempt.answer
  assignFrames answered.result.frames
  let _ ← read attempt.now
  attempt.check answered.result.frames

/-- The provider answers when it is asked in this scene. -/
def Answers (scene : Scene World Locals) : Prop :=
  ∃ answered later, attempt.answer.run scene = .ok answered later

/-- The check of the frames ends with an exit. -/
def ExitsInCheck (scene : Scene World Locals) : Prop :=
  ∃ later, attempt.checking.run scene = .error .exits later

/-- The items that were there are there after the attempt, and no others. -/
def Balanced (site : Site World Locals) : Prop :=
  (finalState (attempt.run site)).buffer.items = site.buffer.items

/-- A handler that is not passed by takes the item, where there is one. -/
theorem handle_items {error : Raised} (handled : error ≠ .exits) (site : Site World Locals) :
    (finalState ((attempt.handle error).run site)).buffer.items =
      if site.bufferItem.isSome then site.buffer.items.tail else site.buffer.items := by
  have released : (finalState ((release : Run World Locals Unit).run site)).buffer.items =
      if site.bufferItem.isSome then site.buffer.items.tail else site.buffer.items := by
    rw [run_release]
    simp only [finalState]
    split
    · rfl
    · rfl
  have recovered : Preserves (fun later : Site World Locals => later.buffer.items =
      if site.bufferItem.isSome then site.buffer.items.tail else site.buffer.items)
      (aside (attempt.recover error) >>= fun _ => pure Ended.retry) :=
    preserves_bind (preserves_aside (fun buffer _ => buffer.items =
      if site.bufferItem.isSome then site.buffer.items.tail else site.buffer.items) _)
      (fun _ => preserves_pure _)
  cases error with
  | exits => exact absurd rfl handled
  | unexpected =>
    rw [handle, EStateM.run_bind, run_release]
    exact released
  | providerError message =>
    change (finalState ((release >>= fun _ => aside (attempt.recover _) >>= fun _ =>
      pure Ended.retry : Run World Locals Ended).run site)).buffer.items = _
    rw [EStateM.run_bind, run_release]
    exact recovered _ released
  | dataQualityError issues status flag =>
    change (finalState ((release >>= fun _ => aside (attempt.recover _) >>= fun _ =>
      pure Ended.retry : Run World Locals Ended).run site)).buffer.items = _
    rw [EStateM.run_bind, run_release]
    exact recovered _ released

/-! ## When it is balanced -/

variable {attempt} {site : Site World Locals}

theorem checking_of_answered {answered : Answered} {scene : Scene World Locals}
    (returned : attempt.answer.run site.scene = .ok answered scene) :
    attempt.checking.run site.scene =
      (attempt.check answered.result.frames).run { scene with
        frames := answered.result.frames, world := (attempt.now scene.world).2 } := by
  unfold checking
  rw [EStateM.run_bind, returned]
  rfl

theorem body_unanswered (site : Site World Locals) {error : Raised} {scene : Scene World Locals}
    (failed : attempt.answer.run site.scene = .error error scene) :
    attempt.body.run site = .error error { site with scene } := by
  unfold body
  rw [EStateM.run_bind, run_aside, failed]

/-- How the `try` block ends once the provider has answered: before the item is
taken when the check raises, after it otherwise. -/
theorem body_answered (site : Site World Locals) {answered : Answered} {scene : Scene World Locals}
    (notFull : (site.buffer.items.length : Int) < site.buffer.maxsize)
    (returned : attempt.answer.run site.scene = .ok answered scene) :
    ∃ item, item ∉ site.buffer.items ∧
      ((∃ error scene after, attempt.checking.run site.scene = .error error scene ∧
          attempt.body.run site = .error error after ∧
          after.buffer.items = site.buffer.items ++ [item] ∧ after.bufferItem = some item) ∨
        (∃ scene, attempt.checking.run site.scene = .ok () scene) ∧
          (finalState (attempt.body.run site)).buffer.items = (site.buffer.items ++ [item]).tail ∧
          (finalState (attempt.body.run site)).bufferItem = some item) := by
  obtain ⟨item, next, enqueued, items, notHeld, -⟩ :=
    BufferCoordinator.enqueue_of_open attempt.provider attempt.symbols attempt.timeframe
      answered.requestTs (attempt.now scene.world).1 answered.result.frames notFull
  refine ⟨item, notHeld, ?_⟩
  rw [checking_of_answered returned]
  unfold body
  simp only [EStateM.run_bind, run_aside, returned, run_assignFrames, run_read]
  have queued : ∀ later : Scene World Locals,
      (enqueue attempt.provider attempt.symbols attempt.timeframe answered.requestTs
        (attempt.now scene.world).1 answered.result.frames : Run World Locals BufferItem).run
          { scene := later, buffer := site.buffer, bufferItem := site.bufferItem } =
        .ok item { scene := later, buffer := next, bufferItem := some item } := by
    intro later
    simp [enqueue, EStateM.run, enqueued]
  rw [queued]
  cases checked : (attempt.check answered.result.frames).run { scene with
      frames := answered.result.frames, world := (attempt.now scene.world).2 } with
  | error error later =>
    left
    exact ⟨error, later, { scene := later, buffer := next, bufferItem := some item }, rfl,
      by simp only [checked], items, rfl⟩
  | ok _ later =>
    right
    refine ⟨⟨later, rfl⟩, ?_⟩
    simp only [checked, pop, EStateM.run_modify]
    have taken : next.pop.items = (site.buffer.items ++ [item]).tail := by
      rw [BufferCoordinator.pop_items, items]
    split
    · exact ⟨taken, rfl⟩
    · exact ⟨taken, rfl⟩

theorem tail_append_iff {items : List BufferItem} {item : BufferItem} (notHeld : item ∉ items) :
    (items ++ [item]).tail = items ↔ items = [] := by
  cases items with
  | nil => simp
  | cons first rest =>
    simp only [List.cons_append, List.tail_cons, reduceCtorEq, iff_false]
    intro same
    exact notHeld (same ▸ List.mem_append_right rest (List.mem_singleton_self item))

theorem tail_tail_append_iff (items : List BufferItem) (item : BufferItem) :
    (items ++ [item]).tail.tail = items ↔ items = [] := by
  cases items with
  | nil => simp
  | cons first rest =>
    simp only [List.cons_append, List.tail_cons, reduceCtorEq, iff_false]
    intro same
    have lengths := congrArg List.length same
    simp only [List.length_tail, List.length_append, List.length_cons, List.length_nil] at lengths
    omega

theorem run_eq (attempt : Attempt World Locals) (site : Site World Locals) :
    attempt.run site =
      match attempt.body.run { site with bufferItem := none } with
      | .ok _ after => .ok .answered after
      | .error error after => (attempt.handle error).run after := by
  change (tryCatch (do attempt.body; return .answered) attempt.handle :
    Run World Locals Ended).run { site with bufferItem := none } = _
  rw [run_tryCatch, EStateM.run_bind]
  cases attempt.body.run { site with bufferItem := none } with
  | ok _ after => rfl
  | error error after => rfl

theorem balanced_of_unanswered (unanswered : ¬ attempt.Answers site.scene) :
    attempt.Balanced site := by
  unfold Balanced
  rw [run_eq]
  cases returned : attempt.answer.run site.scene with
  | ok answered scene => exact absurd ⟨answered, scene, returned⟩ unanswered
  | error error scene =>
    rw [body_unanswered { site with bufferItem := none } returned]
    by_cases exits : error = .exits
    · rw [exits]
      rfl
    · exact attempt.handle_items exits _

/-- The item goes on to stand behind those that were there, and a handler takes
what stands in front. -/
theorem balanced_iff_of_answered (answers : attempt.Answers site.scene)
    (notFull : (site.buffer.items.length : Int) < site.buffer.maxsize) :
    attempt.Balanced site ↔ site.buffer.items = [] ∧ ¬ attempt.ExitsInCheck site.scene := by
  obtain ⟨answered, scene, returned⟩ := answers
  unfold Balanced
  rw [run_eq]
  obtain ⟨item, notHeld, ⟨error, later, after, raised, ended, items, held⟩ |
      ⟨⟨later, passed⟩, items, held⟩⟩ :=
    body_answered { site with bufferItem := none } notFull returned
  · rw [ended]
    by_cases exits : error = .exits
    · subst exits
      have exiting : attempt.ExitsInCheck site.scene := ⟨later, raised⟩
      simp [exiting, handle, run_throw, finalState, items]
    · have remaining : ¬ attempt.ExitsInCheck site.scene := by
        intro ⟨_, exiting⟩
        cases raised.symm.trans exiting
        exact exits rfl
      simp only [attempt.handle_items exits, held, items, Option.isSome_some, if_true, remaining,
        not_false_eq_true, and_true]
      exact tail_append_iff notHeld
  · have remaining : ¬ attempt.ExitsInCheck site.scene := by
      intro ⟨_, exiting⟩
      cases passed.symm.trans exiting
    simp only [remaining, not_false_eq_true, and_true]
    cases ended : attempt.body.run { site with bufferItem := none } with
    | ok _ after =>
      rw [ended] at items
      dsimp only [finalState] at items ⊢
      rw [items]
      exact tail_append_iff notHeld
    | error error after =>
      rw [ended] at items held
      dsimp only [finalState] at items held
      by_cases exits : error = .exits
      · subst exits
        dsimp only [handle, run_throw, finalState]
        rw [items]
        exact tail_append_iff notHeld
      · simp only [attempt.handle_items exits, held, items, Option.isSome_some, if_true]
        exact tail_tail_append_iff _ item

theorem balanced_iff (notFull : (site.buffer.items.length : Int) < site.buffer.maxsize) :
    attempt.Balanced site ↔ ¬ attempt.Answers site.scene ∨
      (site.buffer.items = [] ∧ ¬ attempt.ExitsInCheck site.scene) := by
  by_cases answers : attempt.Answers site.scene
  · simpa only [answers, not_true_eq_false, false_or] using
      balanced_iff_of_answered answers notFull
  · exact iff_of_true (balanced_of_unanswered answers) (.inl answers)

end Attempt

/-! ## Runs that start with an empty buffer -/

/-- A guard that exits is not caught by any handler. -/
def NeverExits (service : Service World Input Output) : Prop :=
  ∀ input world, (service input world).1 ≠ .error .exits

/-- There is nothing in the buffer, and room for something. -/
def Idle (site : Site World Locals) : Prop :=
  site.buffer.items = [] ∧ 0 < site.buffer.maxsize

theorem serve_ne_exits {service : Service World Input Output} (quiet : NeverExits service)
    (input : Input) (scene later : Scene World Locals) :
    (serve service input).run scene ≠ .error .exits later := by
  intro exits
  simp only [EStateM.run, serve] at exits
  split at exits
  · cases exits
  · rename_i error world served
    cases exits
    exact quiet input scene.world (by rw [served])

theorem checkFrames_ne_exits {validate : Option (Service World MarketFrame QualityResult)}
    (quiet : ∀ guard ∈ validate, NeverExits guard)
    (note : MarketFrame → QualityResult → Locals → Locals) (done rest : List MarketFrame)
    (scene later : Scene World Locals) :
    (checkFrames validate note done rest).run scene ≠ .error .exits later := by
  induction rest generalizing done scene with
  | nil =>
    intro exits
    cases exits
  | cons frame rest ih =>
    cases validate with
    | none =>
      intro exits
      cases exits
    | some guard =>
      simp only [checkFrames, EStateM.run_bind]
      cases served : (serve guard frame : Aside World Locals QualityResult).run scene with
      | error error after =>
        intro exits
        cases exits
        exact serve_ne_exits (quiet guard rfl) frame scene later served
      | ok quality after =>
        simp only [assignFrames, assign, EStateM.run_modify]
        by_cases fails : quality.status ∈ ["fail", "error"]
        · simp [fails, EStateM.run_bind, run_throw]
        · simp only [fails, if_false]
          exact ih _ _

namespace Attempt

variable {attempt : Attempt World Locals}

theorem not_exitsInCheck (quiet : ∀ guard ∈ attempt.validate, NeverExits guard)
    {scene : Scene World Locals} (answers : attempt.Answers scene) :
    ¬ attempt.ExitsInCheck scene := by
  obtain ⟨answered, after, returned⟩ := answers
  intro ⟨later, exits⟩
  unfold checking at exits
  rw [EStateM.run_bind, returned] at exits
  exact checkFrames_ne_exits quiet _ _ _ _ _ exits

theorem preserves_maxsize (attempt : Attempt World Locals) (maxsize : Int) :
    Preserves (fun site : Site World Locals => site.buffer.maxsize = maxsize) attempt.run := by
  have outside {Result : Type} (program : Aside World Locals Result) :
      Preserves (fun site : Site World Locals => site.buffer.maxsize = maxsize)
        (aside program) := preserves_aside (fun buffer _ => buffer.maxsize = maxsize) program
  have queues (requestTs enqueueTs : DateTime) (frames : List MarketFrame) :
      Preserves (fun site : Site World Locals => site.buffer.maxsize = maxsize)
        (enqueue attempt.provider attempt.symbols attempt.timeframe requestTs enqueueTs
          frames) := by
    intro site sized
    simp only [enqueue, EStateM.run]
    split
    · exact sized
    · rename_i enqueued
      exact (BufferCoordinator.enqueue_maxsize _ _ _ _ _ _ enqueued).trans sized
  have releases : Preserves (fun site : Site World Locals => site.buffer.maxsize = maxsize)
      release := by
    refine preserves_modify ?_
    intro site sized
    dsimp only
    split
    · exact sized
    · exact sized
  refine preserves_bind (preserves_modify fun _ sized => sized) fun _ => preserves_tryCatch ?_ ?_
  · refine preserves_bind ?_ fun _ => preserves_pure _
    refine preserves_bind (outside _) fun answered => preserves_bind (outside _) fun _ => ?_
    refine preserves_bind (outside _) fun enqueueTs => preserves_bind (queues _ _ _) fun item => ?_
    refine preserves_bind (outside _) fun _ => preserves_bind (outside _) fun processed => ?_
    exact preserves_bind (preserves_modify fun _ sized => sized) fun _ => outside _
  · intro error
    cases error with
    | exits => exact preserves_throw _
    | unexpected => exact preserves_bind releases fun _ => preserves_pure _
    | _ =>
      refine preserves_bind releases fun _ => ?_
      exact preserves_bind (outside _) fun _ => preserves_pure _

theorem preserves_idle (quiet : ∀ guard ∈ attempt.validate, NeverExits guard) :
    Preserves (Idle : Site World Locals → Prop) attempt.run := by
  intro site ⟨empty, sized⟩
  have notFull : (site.buffer.items.length : Int) < site.buffer.maxsize := by
    rw [empty]
    exact sized
  have balanced : attempt.Balanced site := by
    rw [balanced_iff notFull]
    by_cases answers : attempt.Answers site.scene
    · exact .inr ⟨empty, not_exitsInCheck quiet answers⟩
    · exact .inl answers
  have kept := attempt.preserves_maxsize site.buffer.maxsize site rfl
  exact ⟨balanced.trans empty, by rwa [kept]⟩

end Attempt

theorem attempts_preserve_idle {attempt : Nat → Nat → Attempt World Locals}
    (quiet : ∀ remaining made, ∀ guard ∈ (attempt remaining made).validate, NeverExits guard)
    (remaining made : Nat) :
    Preserves (Idle : Site World Locals → Prop) (attempts attempt remaining made) := by
  induction remaining generalizing made with
  | zero => exact preserves_pure _
  | succ remaining ih =>
    refine preserves_bind (Attempt.preserves_idle (quiet remaining made)) fun ended => ?_
    cases ended with
    | retry => exact ih (made + 1)
    | answered => exact preserves_pure _
    | gaveUp => exact preserves_pure _

end FxToushi.Ingestion.Buffered
