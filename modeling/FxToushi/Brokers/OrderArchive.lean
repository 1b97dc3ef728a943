import FxToushi.Brokers.OrderSaves

namespace FxToushi.Brokers

open Data Py

/-! # Archiving old order files

Files that were not written to since a cutoff are moved out of their modes, into
the archive of the month of the cutoff, under their bare names.
-/

namespace OrderStateStore

def cutoffAt (now days : Int) : Int := now - days * 86400000000

/-- From the first day of the year 1 to the last of the year 9999, counted from 1970. -/
def InCalendar (moment : Int) : Prop := -62135596800000000 ≤ moment ∧ moment < 253402300800000000

instance (moment : Int) : Decidable (InCalendar moment) := inferInstanceAs (Decidable (_ ∧ _))

/-- `datetime.now(timezone.utc) - timedelta(days=days)`. -/
def cutoffOf (now days : Int) : Except PyError Int :=
  if InCalendar (cutoffAt now days) then .ok (cutoffAt now days) else .error overflowError

/-- One listed file: moved, unless it was written to after the cutoff.  A move
replaces what the archive holds under the name. -/
def archiveFile (cutoff : Int) (store : OrderStateStore) (listed : String × Int) :
    OrderStateStore :=
  match (store.files listed.1).get? listed.2 with
  | none => store
  | some file =>
    if cutoff < file.mtime then store
    else { store with
      files := Function.update store.files listed.1 ((store.files listed.1).remove listed.2)
      archive := Function.update store.archive (Timestamp.yearMonth cutoff)
        ((store.archive (Timestamp.yearMonth cutoff)).put listed.2 file) }

/-- `listing` is the order in which the directories are gone through. -/
def cleanup (store : OrderStateStore) (listing : List (String × Int)) (now days : Int) :
    Except PyError OrderStateStore := do
  let cutoff ← cutoffOf now days
  return listing.foldl (archiveFile cutoff) store

/-- The listing names every live file. -/
def Lists (listing : List (String × Int)) (store : OrderStateStore) : Prop :=
  ∀ mode, ∀ entry ∈ (store.files mode).entries, (mode, entry.1) ∈ listing

/-- A file that is due for the archive. -/
def Due (store : OrderStateStore) (cutoff : Int) (mode : String) (date : Int) (file : DailyFile) :
    Prop :=
  (store.files mode).get? date = some file ∧ file.mtime ≤ cutoff

/-! ## One file -/

section File

variable {store : OrderStateStore} {cutoff : Int} {listed : String × Int}

theorem archiveFile_of_due {file : DailyFile} (due : store.Due cutoff listed.1 listed.2 file) :
    archiveFile cutoff store listed = { store with
      files := Function.update store.files listed.1 ((store.files listed.1).remove listed.2)
      archive := Function.update store.archive (Timestamp.yearMonth cutoff)
        ((store.archive (Timestamp.yearMonth cutoff)).put listed.2 file) } := by
  unfold archiveFile
  simp only [due.1, if_neg (not_lt_of_ge due.2)]

theorem archiveFile_of_not_due (kept : ∀ file, ¬ store.Due cutoff listed.1 listed.2 file) :
    archiveFile cutoff store listed = store := by
  unfold archiveFile
  split
  · rfl
  · rename_i file found
    split
    · rfl
    · rename_i old
      exact absurd ⟨found, not_lt.mp old⟩ (kept file)

theorem due_of_entry {mode : String} {entry : Int × DailyFile}
    (live : entry ∈ (store.files mode).entries) (old : entry.2.mtime ≤ cutoff) :
    store.Due cutoff mode entry.1 entry.2 :=
  ⟨Directory.get?_eq_some_iff.mpr live, old⟩

/-- What is listed and due leaves its mode. -/
theorem archiveFile_entries (mode : String) :
    ((archiveFile cutoff store listed).files mode).entries =
      (store.files mode).entries.filter (fun entry =>
        decide (¬ ((mode, entry.1) = listed ∧ entry.2.mtime ≤ cutoff))) := by
  by_cases due : ∃ file, store.Due cutoff listed.1 listed.2 file
  · obtain ⟨file, due⟩ := due
    rw [archiveFile_of_due due]
    by_cases same : mode = listed.1
    · subst same
      simp only [Function.update_self, Directory.remove_eq_filter]
      refine List.filter_congr fun entry member => decide_eq_decide.mpr ?_
      constructor
      · rintro other ⟨named, -⟩
        exact other (congrArg Prod.snd named)
      · rintro kept here
        have found := Directory.get?_eq_some_iff.mpr member
        rw [here, due.1] at found
        refine kept ⟨Prod.ext rfl here, ?_⟩
        rw [← Option.some.inj found]
        exact due.2
    · simp only [Function.update_of_ne same]
      refine (List.filter_eq_self.mpr fun entry member => decide_eq_true ?_).symm
      rintro ⟨named, -⟩
      exact same (congrArg Prod.fst named)
  · have kept : ∀ file, ¬ store.Due cutoff listed.1 listed.2 file :=
      fun file isDue => due ⟨file, isDue⟩
    rw [archiveFile_of_not_due kept]
    refine (List.filter_eq_self.mpr fun entry member => decide_eq_true ?_).symm
    rintro ⟨rfl, old⟩
    exact kept entry.2 (due_of_entry member old)

theorem archiveFile_archive {month date : Int}
    (other : month ≠ Timestamp.yearMonth cutoff ∨
      ∀ file, date = listed.2 → ¬ store.Due cutoff listed.1 listed.2 file) :
    ((archiveFile cutoff store listed).archive month).get? date =
      (store.archive month).get? date := by
  by_cases due : ∃ file, store.Due cutoff listed.1 listed.2 file
  · obtain ⟨file, due⟩ := due
    rw [archiveFile_of_due due]
    by_cases same : month = Timestamp.yearMonth cutoff
    · subst same
      have otherDate : date ≠ listed.2 :=
        fun same => other.elim (fun different => different rfl) fun kept => kept file same due
      simp only [Function.update_self, Directory.get?_put, if_neg otherDate]
    · simp only [Function.update_of_ne same]
  · rw [archiveFile_of_not_due fun file isDue => due ⟨file, isDue⟩]

end File

/-! ## The whole listing -/

section Listing

variable {cutoff : Int}

theorem due_archiveFile_iff {store : OrderStateStore} {listed : String × Int} {mode : String}
    {date : Int} {file : DailyFile} :
    (archiveFile cutoff store listed).Due cutoff mode date file ↔
      store.Due cutoff mode date file ∧ (mode, date) ≠ listed := by
  unfold Due
  rw [Directory.get?_eq_some_iff, archiveFile_entries, List.mem_filter, decide_eq_true_eq,
    ← Directory.get?_eq_some_iff]
  constructor
  · rintro ⟨⟨found, kept⟩, old⟩
    exact ⟨⟨found, old⟩, fun named => kept ⟨named, old⟩⟩
  · rintro ⟨⟨found, old⟩, unlisted⟩
    exact ⟨⟨found, fun named => unlisted named.1⟩, old⟩

theorem fold_entries (store : OrderStateStore) (listing : List (String × Int)) (mode : String) :
    ((listing.foldl (archiveFile cutoff) store).files mode).entries =
      (store.files mode).entries.filter (fun entry =>
        decide (¬ ((mode, entry.1) ∈ listing ∧ entry.2.mtime ≤ cutoff))) := by
  induction listing generalizing store with
  | nil => simp
  | cons listed rest ih =>
    rw [List.foldl_cons, ih, archiveFile_entries, List.filter_filter]
    refine List.filter_congr fun entry _ => ?_
    by_cases old : entry.2.mtime ≤ cutoff
    · simp [old, Bool.and_comm]
    · simp [old]

theorem fold_archive_untouched (store : OrderStateStore) (listing : List (String × Int))
    {month date : Int}
    (other : month ≠ Timestamp.yearMonth cutoff ∨
      ∀ mode file, (mode, date) ∈ listing → ¬ store.Due cutoff mode date file) :
    ((listing.foldl (archiveFile cutoff) store).archive month).get? date =
      (store.archive month).get? date := by
  induction listing generalizing store with
  | nil => rfl
  | cons listed rest ih =>
    rw [List.foldl_cons, ih (archiveFile cutoff store listed), archiveFile_archive]
    · refine other.imp_right fun kept file same => ?_
      rw [← same]
      exact kept listed.1 file (by rw [same]; exact List.mem_cons_self)
    · refine other.imp_right fun kept mode file member due => ?_
      exact kept mode file (List.mem_cons_of_mem _ member) (due_archiveFile_iff.mp due).1

/-- A listed file that is the only one due under its name is archived as it is. -/
theorem fold_archived (store : OrderStateStore) (listing : List (String × Int)) {mode : String}
    {date : Int} {file : DailyFile} (member : (mode, date) ∈ listing)
    (due : store.Due cutoff mode date file)
    (only : ∀ other otherFile, store.Due cutoff other date otherFile → other = mode) :
    ((listing.foldl (archiveFile cutoff) store).archive (Timestamp.yearMonth cutoff)).get? date =
      some file := by
  induction listing generalizing store with
  | nil => cases member
  | cons listed rest ih =>
    rw [List.foldl_cons]
    by_cases here : (mode, date) = listed
    · subst here
      rw [fold_archive_untouched, archiveFile_of_due due]
      · simp [Directory.get?_put]
      · refine .inr fun other otherFile _ isDue => ?_
        obtain ⟨wasDue, unlisted⟩ := due_archiveFile_iff.mp isDue
        exact unlisted (by rw [only other otherFile wasDue])
    · have later : (mode, date) ∈ rest := (List.mem_cons.mp member).resolve_left here
      refine ih _ later (due_archiveFile_iff.mpr ⟨due, here⟩) fun other otherFile isDue => ?_
      exact only other otherFile (due_archiveFile_iff.mp isDue).1

end Listing

/-! ## What a cleanup does -/

def isKept (cutoff : Int) (entry : Int × DailyFile) : Bool := decide (cutoff < entry.2.mtime)

theorem cleanup_ok_iff {store after : OrderStateStore} {listing : List (String × Int)}
    {now days : Int} : store.cleanup listing now days = .ok after ↔
      InCalendar (cutoffAt now days) ∧
        listing.foldl (archiveFile (cutoffAt now days)) store = after := by
  unfold cleanup cutoffOf
  by_cases inside : InCalendar (cutoffAt now days)
  · simp [inside, bind, Except.bind, pure, Except.pure]
  · simp [inside, bind, Except.bind]

theorem archiveAll_entries {store : OrderStateStore} {listing : List (String × Int)}
    (lists : Lists listing store) (cutoff : Int) (mode : String) :
    ((listing.foldl (archiveFile cutoff) store).files mode).entries =
      (store.files mode).entries.filter (isKept cutoff) := by
  rw [fold_entries]
  refine List.filter_congr fun entry member => decide_eq_decide.mpr ?_
  have named := lists mode entry member
  constructor
  · intro kept
    exact not_le.mp fun old => kept ⟨named, old⟩
  · rintro recent ⟨-, old⟩
    exact not_le.mpr recent old

/-- A record of the order stands in the file. -/
def Mentions (codec : Codec) (orderId : String) (entry : Int × DailyFile) : Prop :=
  ∃ record, .map record ∈ readJsonl codec entry.2.bytes ∧ textAt record "order_id" = orderId

theorem statesOf_append {orderId : String} {left right : List Value} {states : List OrderState} :
    statesOf orderId (left ++ right) = .ok states ↔
      ∃ first, statesOf orderId left = .ok first ∧
        ∃ second, statesOf orderId right = .ok second ∧ first ++ second = states := by
  induction left generalizing states with
  | nil => simp [statesOf]
  | cons value rest ih =>
    cases value with
    | map record =>
      rw [List.cons_append, statesOf, statesOf]
      by_cases same : textAt record "order_id" = orderId
      · simp only [if_pos same, bind_ok_iff, ih, pure, Except.pure, Except.ok.injEq]
        constructor
        · rintro ⟨state, decoded, -, ⟨first, readFirst, second, readSecond, rfl⟩, rfl⟩
          exact ⟨_, ⟨state, decoded, first, readFirst, rfl⟩, second, readSecond, rfl⟩
        · rintro ⟨-, ⟨state, decoded, first, readFirst, rfl⟩, second, readSecond, rfl⟩
          exact ⟨state, decoded, _, ⟨first, readFirst, second, readSecond, rfl⟩, rfl⟩
      · rw [if_neg same, if_neg same]
        exact ih
    | _ => simp [statesOf]

theorem statesOf_eq_nil_iff (orderId : String) {records : List Value} {states : List OrderState}
    (read : statesOf orderId records = .ok states) :
    states = [] ↔ ∀ record, .map record ∈ records → textAt record "order_id" ≠ orderId := by
  induction records generalizing states with
  | nil =>
    rw [← Except.ok.inj read]
    simp
  | cons value rest ih =>
    cases value with
    | map record =>
      rw [statesOf] at read
      by_cases same : textAt record "order_id" = orderId
      · rw [if_pos same] at read
        obtain ⟨state, decoded, read⟩ := bind_ok read
        obtain ⟨later, readLater, returned⟩ := bind_ok read
        rw [← Except.ok.inj returned]
        constructor
        · intro absurdity
          cases absurdity
        · intro unmentioned
          exact absurd same (unmentioned record List.mem_cons_self)
      · rw [if_neg same] at read
        rw [ih read]
        constructor
        · rintro unmentioned other (_ | ⟨_, member⟩)
          · exact same
          · exact unmentioned other member
        · intro unmentioned other member
          exact unmentioned other (List.mem_cons_of_mem _ member)
    | _ => cases read

theorem mentions_of_states {codec : Codec} {orderId : String} {entry : Int × DailyFile}
    {states : List OrderState}
    (read : statesOf orderId (readJsonl codec entry.2.bytes) = .ok states)
    (some_state : states ≠ []) : Mentions codec orderId entry := by
  by_contra unmentioned
  refine some_state ((statesOf_eq_nil_iff orderId read).mpr ?_)
  intro record member same
  exact unmentioned ⟨record, member, same⟩

theorem states_of_mentions {codec : Codec} {orderId : String} {entries : List (Int × DailyFile)}
    {states : List OrderState}
    (read : statesOf orderId (entries.flatMap (fun entry => readJsonl codec entry.2.bytes)) =
      .ok states) {entry : Int × DailyFile} (listed : entry ∈ entries)
    (mentioned : Mentions codec orderId entry) : states ≠ [] := by
  obtain ⟨record, member, same⟩ := mentioned
  intro empty
  exact (statesOf_eq_nil_iff orderId read).mp empty record
    (List.mem_flatMap.mpr ⟨entry, listed, member⟩) same

/-- Each file that mentions the order and goes is followed by one that mentions
it and stays. -/
def Followed (codec : Codec) (orderId : String) (keep : Int × DailyFile → Bool)
    (entries : List (Int × DailyFile)) : Prop :=
  ∀ entry ∈ entries, keep entry = false → Mentions codec orderId entry →
    ∃ later ∈ entries, entry.1 < later.1 ∧ keep later = true ∧ Mentions codec orderId later

section Followed

variable {codec : Codec} {orderId : String} {keep : Int × DailyFile → Bool}
  {entry : Int × DailyFile} {rest : List (Int × DailyFile)}

theorem Followed.head (followed : Followed codec orderId keep (entry :: rest))
    (gone : keep entry = false) (mentioned : Mentions codec orderId entry) :
    ∃ later ∈ rest, Mentions codec orderId later := by
  obtain ⟨later, found, after, -, mentions⟩ := followed entry List.mem_cons_self gone mentioned
  rcases List.mem_cons.mp found with rfl | found
  · exact absurd after (lt_irrefl _)
  · exact ⟨later, found, mentions⟩

theorem Followed.tail (followed : Followed codec orderId keep (entry :: rest))
    (leads : ∀ other ∈ rest, entry.1 < other.1) : Followed codec orderId keep rest := by
  intro other member gone mentioned
  obtain ⟨later, found, after, stays⟩ :=
    followed other (List.mem_cons_of_mem _ member) gone mentioned
  rcases List.mem_cons.mp found with rfl | found
  · exact absurd after (not_lt_of_gt (leads other member))
  · exact ⟨later, found, after, stays⟩

end Followed

/-- Where each mention that goes is followed by one that stays, the last state
stays. -/
theorem statesOf_filter (codec : Codec) (orderId : String) (keep : Int × DailyFile → Bool)
    {entries : List (Int × DailyFile)}
    (sorted : entries.Pairwise (fun left right => left.1 < right.1))
    (followed : Followed codec orderId keep entries) {states : List OrderState}
    (read : statesOf orderId (entries.flatMap (fun entry => readJsonl codec entry.2.bytes)) =
      .ok states) :
    ∃ kept, statesOf orderId
        ((entries.filter keep).flatMap (fun entry => readJsonl codec entry.2.bytes)) = .ok kept ∧
      kept.getLast? = states.getLast? := by
  induction entries generalizing states with
  | nil => exact ⟨states, read, rfl⟩
  | cons entry rest ih =>
    obtain ⟨leads, sortedRest⟩ := List.pairwise_cons.mp sorted
    rw [List.flatMap_cons] at read
    obtain ⟨first, readFirst, second, readSecond, rfl⟩ := statesOf_append.mp read
    obtain ⟨kept, readKept, last⟩ := ih sortedRest (followed.tail leads) readSecond
    cases stays : keep entry with
    | true =>
      rw [List.filter_cons_of_pos stays, List.flatMap_cons]
      refine ⟨first ++ kept, statesOf_append.mpr ⟨first, readFirst, kept, readKept, rfl⟩, ?_⟩
      rw [List.getLast?_append, List.getLast?_append, last]
    | false =>
      rw [List.filter_cons_of_neg (by rw [stays]; decide)]
      refine ⟨kept, readKept, ?_⟩
      rw [List.getLast?_append, last]
      by_cases silent : first = []
      · simp [silent]
      · -- the file that goes mentions the order, so a later one that stays does
        obtain ⟨later, inRest, mentioned⟩ :=
          followed.head stays (mentions_of_states readFirst silent)
        have spoken := states_of_mentions readSecond inRest mentioned
        rw [List.getLast?_eq_some_getLast spoken]
        rfl

/-- What a cleanup leaves: files written to after the cutoff stay, the others
move, and a moved file whose bare name no other one shares is in the archive as
it was. -/
structure Archives (store after : OrderStateStore) (cutoff : Int) : Prop where
  live : ∀ mode date file, (after.files mode).get? date = some file ↔
    (store.files mode).get? date = some file ∧ cutoff < file.mtime
  archived : ∀ mode date file, store.Due cutoff mode date file →
    (∀ other otherFile, store.Due cutoff other date otherFile → other = mode) →
      (after.archive (Timestamp.yearMonth cutoff)).get? date = some file
  untouched : ∀ month date,
    (month ≠ Timestamp.yearMonth cutoff ∨ ∀ mode file, ¬ store.Due cutoff mode date file) →
      (after.archive month).get? date = (store.archive month).get? date
  loads : ∀ codec mode orderId latest, store.latestState codec orderId mode = .ok latest →
    (∀ entry ∈ (store.files mode).entries, entry.2.mtime ≤ cutoff → Mentions codec orderId entry →
      ∃ later ∈ (store.files mode).entries, entry.1 < later.1 ∧ cutoff < later.2.mtime ∧
        Mentions codec orderId later) →
      after.latestState codec orderId mode = .ok latest

end OrderStateStore

open OrderStateStore

theorem archiveAll_archives (store : OrderStateStore) {listing : List (String × Int)}
    (lists : Lists listing store) (cutoff : Int) :
    Archives store (listing.foldl (archiveFile cutoff) store) cutoff where
  live := by
    intro mode date file
    rw [Directory.get?_eq_some_iff, Directory.get?_eq_some_iff, archiveAll_entries lists,
      List.mem_filter, isKept, decide_eq_true_eq]
  archived := by
    intro mode date file due only
    exact fold_archived store listing
      (lists mode _ (Directory.mem_of_get? due.1)) due only
  untouched := by
    intro month date other
    exact fold_archive_untouched store listing
      (other.imp_right fun kept mode file _ => kept mode file)
  loads := by
    intro codec mode orderId latest loaded followed
    unfold latestState history records at loaded ⊢
    rw [archiveAll_entries lists]
    cases read : statesOf orderId ((store.files mode).entries.flatMap
        (fun entry => readJsonl codec entry.2.bytes)) with
    | error error =>
      rw [read] at loaded
      cases loaded
    | ok states =>
      rw [read] at loaded
      obtain ⟨kept, readKept, last⟩ := statesOf_filter codec orderId (isKept cutoff)
        (store.files mode).sorted
        (fun entry member gone mentioned => by
          obtain ⟨later, found, after, stays, mentions⟩ := followed entry member
            (not_lt.mp (of_decide_eq_false gone)) mentioned
          exact ⟨later, found, after, decide_eq_true stays, mentions⟩) read
      rw [readKept, ← Except.ok.inj loaded, ← last]
      rfl

/-- A cleanup whose cutoff is in the calendar archives what is due; any other raises. -/
theorem cleanup_archives (store : OrderStateStore) {listing : List (String × Int)}
    (lists : Lists listing store) (now days : Int) :
    ((∃ after, store.cleanup listing now days = .ok after) ↔ InCalendar (cutoffAt now days)) ∧
      ∀ after, store.cleanup listing now days = .ok after →
        Archives store after (cutoffAt now days) := by
  constructor
  · constructor
    · rintro ⟨after, returned⟩
      exact (cleanup_ok_iff.mp returned).1
    · exact fun inside => ⟨_, cleanup_ok_iff.mpr ⟨inside, rfl⟩⟩
  · intro after returned
    obtain ⟨-, rfl⟩ := cleanup_ok_iff.mp returned
    exact archiveAll_archives store lists _

def agedFile : DailyFile where
  bytes := sampleDocument ++ [lineFeed]
  mtime := 0

def oneMode : OrderStateStore where
  files := Function.update (fun _ => Directory.empty) "live" (Directory.empty.put 0 agedFile)

theorem oneMode_live {mode : String} {entry : Int × DailyFile}
    (live : entry ∈ (oneMode.files mode).entries) : mode = "live" ∧ entry = (0, agedFile) := by
  unfold oneMode at live
  by_cases same : mode = "live"
  · subst same
    simpa [Directory.before, Directory.after, Directory.empty] using live
  · simp [Function.update_of_ne same, Directory.empty] at live

theorem oneMode_lists : Lists [("live", 0)] oneMode := by
  intro mode entry live
  obtain ⟨rfl, rfl⟩ := oneMode_live live
  exact List.mem_singleton_self _

theorem oneMode_archived : ∃ after, oneMode.cleanup [("live", 0)] 8640000000000 90 = .ok after ∧
    (after.archive 197001).get? 0 = some agedFile := by
  obtain ⟨within, archives⟩ := cleanup_archives oneMode oneMode_lists 8640000000000 90
  obtain ⟨after, returned⟩ := within.mpr (by decide)
  refine ⟨after, returned, (archives after returned).archived "live" 0 agedFile
    ⟨rfl, by decide⟩ fun other otherFile due => ?_⟩
  exact (oneMode_live (Directory.mem_of_get? due.1)).1

theorem oneMode_load :
    oneMode.latestState sampleCodec "O-1" "live" = .ok (some sampleState.recorded) := by
  have lawful : Lawful sampleCodec (fun state => state = sampleState) :=
    sampleCodec_lawful fun _ same => same
  have framed : Framed sampleCodec (fun state => state = sampleState) agedFile.bytes
      [[⟨sampleState, sampleDocument.length⟩]] [] :=
    framed_nil.finish lawful rfl (le_refl _)
  have whole : wholeState sampleCodec [⟨sampleState, sampleDocument.length⟩] = some sampleState :=
    wholeState_eq_some_iff.mpr ⟨_, rfl, le_refl _⟩
  have listed : oneMode.records sampleCodec "live" =
      [sampleState].map (fun state => Value.map state.toDict) := by
    have read := framed.read lawful
    rw [List.filterMap_cons, whole] at read
    exact (List.append_nil _).trans read
  rw [latestState, history, listed, statesOf_map]
  rfl

/-- An order that is still submitted does not load any more. -/
theorem submitted_order_lost :
    sampleState.status = "submitted" ∧ Lists [("live", 0)] oneMode ∧
      oneMode.latestState sampleCodec "O-1" "live" = .ok (some sampleState.recorded) ∧
        ∃ after, oneMode.cleanup [("live", 0)] 8640000000000 90 = .ok after ∧
          after.latestState sampleCodec "O-1" "live" = .ok none := by
  refine ⟨rfl, oneMode_lists, oneMode_load, _, cleanup_ok_iff.mpr ⟨by decide, rfl⟩, ?_⟩
  have gone : (oneMode.files "live").entries.filter (isKept (cutoffAt 8640000000000 90)) = [] := by
    refine List.filter_eq_nil_iff.mpr fun entry live => ?_
    obtain ⟨-, rfl⟩ := oneMode_live live
    decide
  unfold latestState history records
  rw [archiveAll_entries oneMode_lists, gone]
  rfl

end FxToushi.Brokers
