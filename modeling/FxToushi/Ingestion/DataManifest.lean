import FxToushi.Core.Resync
import FxToushi.Py.Containers

namespace FxToushi.Ingestion

open FxToushi.Core.Resync Data Py

/-! # The data manifest

The service reads the manifest into entries of a fixed shape, appends what is
recorded and writes everything back.  The file is what its JSON reads as.
-/

structure ManifestEntry where
  id : String
  kind : String
  path : String
  hashSha256 : String
  rows : Value := .null
  timespan : Value := .null
  source : Value := .null
  owner : Value := .null
  reviewer : Value := .null
  validationPlaybookId : Value := .null
  status : String := "provisional"
  tags : List Value := []

def ManifestEntry.toDict (entry : ManifestEntry) : Mapping :=
  [("id", .str entry.id),
    ("kind", .str entry.kind),
    ("path", .str entry.path),
    ("hash_sha256", .str entry.hashSha256),
    ("rows", entry.rows),
    ("timespan", entry.timespan),
    ("source", entry.source),
    ("owner", entry.owner),
    ("reviewer", entry.reviewer),
    ("validation_playbook_id", entry.validationPlaybookId),
    ("status", .str entry.status),
    ("tags", .list entry.tags)]

structure DatasetManifest where
  schemaVersion : String
  generatedAt : String
  entries : List ManifestEntry

def DatasetManifest.toDict (manifest : DatasetManifest) : Mapping :=
  [("schema_version", .str manifest.schemaVersion),
    ("generated_at", .str manifest.generatedAt),
    ("entries", .list (manifest.entries.map (fun entry => .map entry.toDict)))]

/-! ## Loading -/

def readEntry : Value → Except PyError ManifestEntry
  | .map raw => do
      let tags ← iterate (orValue (field raw "tags") (.list []))
      return {
        id := textField raw "id" ""
        kind := textField raw "kind" "unknown"
        path := textField raw "path" ""
        hashSha256 := textField raw "hash_sha256" ""
        rows := field raw "rows"
        timespan := field raw "timespan"
        source := field raw "source"
        owner := field raw "owner"
        reviewer := field raw "reviewer"
        validationPlaybookId := field raw "validation_playbook_id"
        status := textField raw "status" "provisional"
        tags }
  | _ => .error .attributeError

/-- `now` is the time of loading. -/
def loadManifest (now : String) : Option Value → Except PyError DatasetManifest
  | none => .ok { schemaVersion := "data.manifest.v1", generatedAt := now, entries := [] }
  | some (.map payload) => do
      let raws ← iterate ((Mapping.get? payload "entries").getD (.list []))
      let entries ← tryMap readEntry raws
      return {
        schemaVersion := textField payload "schema_version" "data.manifest.v1"
        generatedAt := textField payload "generated_at" now
        entries }
  | some _ => .error .attributeError

/-! ## Recording and verifying -/

/-- The service, the file, and whether the service has saved. -/
structure DataManifestService where
  file : Option Value
  manifest : DatasetManifest
  saved : Bool := false

inductive ManifestError where
  | fileNotFound
  | entryExists (entryId : String)
  | entryNotFound (entryId : String)
  | nothingNamed
deriving Repr, DecidableEq

/-- A call of `record`: `hash` is that of the data file, if there is one, and
`entryId` is the new `uuid4`. -/
structure RecordCall where
  path : String
  kind : String
  owner : Option String := none
  playbookId : Option String := none
  tags : Option (List String) := none
  force : Bool := false
  hash : Option String
  entryId : String
  now : String

def optionText : Option String → Value
  | some text => .str text
  | none => .null

/-- What `str(Path(text))` is, and the hash of each file that exists. -/
structure DataFiles where
  pathText : String → String
  hash : String → Option String

structure Verification where
  status : String
  path : String
  entryId : Option String
  expectedHash : Option String
  currentHash : String
deriving Repr, DecidableEq

namespace DataManifestService

def save (service : DataManifestService) : DataManifestService :=
  { service with file := some (.map service.manifest.toDict), saved := true }

def record (service : DataManifestService) (call : RecordCall) :
    Except ManifestError (DataManifestService × ManifestEntry) :=
  match call.hash with
  | none => .error .fileNotFound
  | some fileHash =>
    let entry : ManifestEntry := {
      id := call.entryId
      kind := call.kind
      path := call.path
      hashSha256 := fileHash
      owner := optionText call.owner
      validationPlaybookId := optionText call.playbookId
      tags := (call.tags.getD []).map Value.str }
    if !call.force && service.manifest.entries.any (fun existing => existing.id == call.entryId)
    then .error (.entryExists call.entryId)
    else
      let appended := { service with
        manifest := { service.manifest with
          entries := service.manifest.entries ++ [entry]
          generatedAt := call.now } }
      .ok (appended.save, entry)

def verify (service : DataManifestService) (files : DataFiles)
    (path entryId : Option String) : Except ManifestError Verification := do
  let entries := service.manifest.entries
  let (entry, target) ← match entryId.filter (· ≠ ""), path, entryId with
    | some entryId, _, _ =>
      match entries.find? (fun existing => existing.id == entryId) with
      | some existing => .ok (some existing, files.pathText existing.path)
      | none => .error (.entryNotFound entryId)
    | none, some path, _ => .ok (entries.find? (fun existing => existing.path == path), path)
    | none, none, some _ => .ok (entries.find? (fun existing => existing.path == "."), ".")
    | none, none, none => .error .nothingNamed
  match files.hash target with
  | none => .error .fileNotFound
  | some currentHash =>
    let expectedHash := entry.map ManifestEntry.hashSha256
    return {
      status := if expectedHash = some currentHash then "ok" else "mismatch"
      path := target
      entryId := entry.map ManifestEntry.id
      expectedHash
      currentHash }

/-- A call that raises saves nothing. -/
def step (service : DataManifestService) (call : RecordCall) : DataManifestService :=
  match service.record call with
  | .ok (after, _) => after
  | .error _ => service

end DataManifestService

/-! ## What recording has to keep -/

/-- Two values are dicts with the same fields. -/
def SameFields (before after : Value) : Prop :=
  ∃ left right, before = .map left ∧ after = .map right ∧
    ∀ key, Mapping.get? left key = Mapping.get? right key

def existingEntries (content : Mapping) : List Value :=
  match Mapping.get? content "entries" with
  | some (.list raws) => raws
  | _ => []

/-- The new content is the old one, but for the time of writing and entries that
were appended. -/
structure KeepsContent (before after : Mapping) : Prop where
  topLevel : ∀ key, key ≠ "entries" → key ≠ "generated_at" →
    Mapping.get? after key = Mapping.get? before key
  entries : ∃ kept added, Mapping.get? after "entries" = some (.list (kept ++ added)) ∧
    List.Forall₂ SameFields (existingEntries before) kept

namespace DataManifestService

/-- Where the call records: what the file held is kept, and a verification of
the file that was recorded, unchanged, answers `ok`. -/
def RecordsWell (service : DataManifestService) (call : RecordCall) : Prop :=
  ∀ after entry, service.record call = .ok (after, entry) →
    (∀ content, service.file = some (.map content) →
      ∃ written, after.file = some (.map written) ∧ KeepsContent content written) ∧
    ∀ files : DataFiles, files.hash call.path = call.hash →
      ∃ result, after.verify files (some call.path) none = .ok result ∧ result.status = "ok"

end DataManifestService

/-! ## The form that is kept -/

def entryKeys : List String :=
  ["id", "kind", "path", "hash_sha256", "rows", "timespan", "source", "owner", "reviewer",
    "validation_playbook_id", "status", "tags"]

/-- The field is a text, and is not empty where an empty one is replaced. -/
def TextIn (raw : Mapping) (key default : String) : Prop :=
  ∃ text, Mapping.get? raw key = some (.str text) ∧ (text = "" → default = "")

/-- An entry with exactly the fields that are written, of their types. -/
structure EntryInForm (raw : Mapping) : Prop where
  keys : ∀ key, (∃ value, Mapping.get? raw key = some value) ↔ key ∈ entryKeys
  id : TextIn raw "id" ""
  kind : TextIn raw "kind" "unknown"
  path : TextIn raw "path" ""
  hashSha256 : TextIn raw "hash_sha256" ""
  status : TextIn raw "status" "provisional"
  tags : ∃ items, Mapping.get? raw "tags" = some (.list items)

/-- A manifest with a schema version, no top-level key that the service does not
know, and entries in form. -/
structure ContentInForm (content : Mapping) : Prop where
  topLevel : ∀ key value, Mapping.get? content key = some value →
    key = "schema_version" ∨ key = "generated_at" ∨ key = "entries"
  schemaVersion : TextIn content "schema_version" "data.manifest.v1"
  entries : ∀ raw ∈ existingEntries content, ∃ fields, raw = .map fields ∧ EntryInForm fields

/-- Where the call records: what the service loaded was in form, and the first
entry of the path, if there is one, has the hash of the file. -/
def DataManifestService.FindsInForm (service : DataManifestService) (call : RecordCall) : Prop :=
  ∀ fileHash, call.hash = some fileHash →
    (call.force = true ∨ ∀ existing ∈ service.manifest.entries, existing.id ≠ call.entryId) →
    (service.saved = false →
      ∀ content, service.file = some (.map content) → ContentInForm content) ∧
    ∀ existing, service.manifest.entries.find? (fun entry => entry.path == call.path) =
      some existing → existing.hashSha256 = fileHash

section Fields

variable {raw : Mapping} {key default : String}

theorem textField_kept_iff :
    some (.str (textField raw key default)) = Mapping.get? raw key ↔ TextIn raw key default := by
  rw [TextIn, textField, field]
  cases found : Mapping.get? raw key with
  | none => simp
  | some value =>
    cases value with
    | str text =>
      by_cases empty : text = ""
      · simp [orValue, Value.truth, Value.text, empty]
      · simp [orValue, Value.truth, Value.text, empty]
    | null => simp
    | bool flag => simp
    | int number => simp
    | float number text => simp
    | list items => simp
    | map entries => simp

theorem field_kept_iff :
    some (field raw key) = Mapping.get? raw key ↔ ∃ value, Mapping.get? raw key = some value := by
  rw [field]
  cases Mapping.get? raw key with
  | none => simp
  | some value => simp

theorem tags_kept_iff {tags : List Value}
    (read : iterate (orValue (field raw "tags") (.list [])) = .ok tags) :
    some (.list tags) = Mapping.get? raw "tags" ↔
      ∃ items, Mapping.get? raw "tags" = some (.list items) := by
  refine ⟨fun kept => ⟨tags, kept.symm⟩, ?_⟩
  rintro ⟨items, found⟩
  have same : iterate (orValue (field raw "tags") (.list [])) = .ok items := by
    cases items with
    | nil => simp [field, found, orValue, Value.truth, iterate]
    | cons item rest => simp [field, found, orValue, Value.truth, iterate]
  rw [same] at read
  cases read
  exact found.symm

end Fields

/-! ## Entries and top level -/

theorem ManifestEntry.exists_toDict_iff (entry : ManifestEntry) (key : String) :
    (∃ value, Mapping.get? entry.toDict key = some value) ↔ key ∈ entryKeys :=
  Mapping.exists_get?_iff entry.toDict key

theorem ManifestEntry.get?_toDict_of_unknown (entry : ManifestEntry) {key : String}
    (unknown : key ∉ entryKeys) : Mapping.get? entry.toDict key = none := by
  by_contra present
  exact unknown ((entry.exists_toDict_iff key).mp (Option.ne_none_iff_exists'.mp present))

/-- A raw entry is written as it was exactly when it is in form. -/
theorem sameFields_readEntry_iff {raw : Value} {entry : ManifestEntry}
    (read : readEntry raw = .ok entry) :
    SameFields raw (.map entry.toDict) ↔ ∃ fields, raw = .map fields ∧ EntryInForm fields := by
  cases raw with
  | map fields =>
    obtain ⟨tags, iterated, returned⟩ := bind_ok read
    cases returned
    constructor
    · rintro ⟨left, right, sameLeft, sameRight, same⟩
      cases sameLeft
      cases sameRight
      refine ⟨fields, rfl, ?_, textField_kept_iff.mp (same "id").symm,
        textField_kept_iff.mp (same "kind").symm, textField_kept_iff.mp (same "path").symm,
        textField_kept_iff.mp (same "hash_sha256").symm,
        textField_kept_iff.mp (same "status").symm,
        (tags_kept_iff iterated).mp (same "tags").symm⟩
      intro key
      rw [same key]
      exact ManifestEntry.exists_toDict_iff _ key
    · rintro ⟨left, sameLeft, inForm⟩
      cases sameLeft
      refine ⟨_, _, rfl, rfl, fun key => ?_⟩
      by_cases known : key ∈ entryKeys
      · have present := (inForm.keys key).mpr known
        simp only [entryKeys, List.mem_cons, List.not_mem_nil, or_false] at known
        rcases known with rfl | rfl | rfl | rfl | rfl | rfl | rfl | rfl | rfl | rfl | rfl | rfl
        · exact (textField_kept_iff.mpr inForm.id).symm
        · exact (textField_kept_iff.mpr inForm.kind).symm
        · exact (textField_kept_iff.mpr inForm.path).symm
        · exact (textField_kept_iff.mpr inForm.hashSha256).symm
        · exact (field_kept_iff.mpr present).symm
        · exact (field_kept_iff.mpr present).symm
        · exact (field_kept_iff.mpr present).symm
        · exact (field_kept_iff.mpr present).symm
        · exact (field_kept_iff.mpr present).symm
        · exact (field_kept_iff.mpr present).symm
        · exact (textField_kept_iff.mpr inForm.status).symm
        · exact ((tags_kept_iff iterated).mpr inForm.tags).symm
      · have absent : Mapping.get? fields key = none := by
          by_contra present
          exact known ((inForm.keys key).mp (Option.ne_none_iff_exists'.mp present))
        rw [absent, ManifestEntry.get?_toDict_of_unknown _ known]
  | null => cases read
  | bool flag => cases read
  | int number => cases read
  | float number text => cases read
  | str text => cases read
  | list items => cases read

theorem sameFields_entries_iff {raws : List Value} {entries : List ManifestEntry}
    (read : tryMap readEntry raws = .ok entries) :
    List.Forall₂ SameFields raws (entries.map (fun entry => .map entry.toDict)) ↔
      ∀ raw ∈ raws, ∃ fields, raw = .map fields ∧ EntryInForm fields := by
  induction raws generalizing entries with
  | nil =>
    cases read
    simp
  | cons raw rest ih =>
    obtain ⟨entry, later, readFirst, readRest, rfl⟩ := tryMap_cons_ok read
    rw [List.map_cons, List.forall₂_cons, List.forall_mem_cons,
      sameFields_readEntry_iff readFirst, ih readRest]

theorem sameFields_refl {entries : List ManifestEntry} :
    List.Forall₂ SameFields (entries.map (fun entry => .map entry.toDict))
      (entries.map (fun entry => .map entry.toDict)) := by
  induction entries with
  | nil => exact .nil
  | cons entry rest ih => exact .cons ⟨_, _, rfl, rfl, fun _ => rfl⟩ ih

/-- What was loaded are the entries that exist, and the schema version. -/
theorem loadManifest_ok {now : String} {content : Mapping} {manifest : DatasetManifest}
    (loaded : loadManifest now (some (.map content)) = .ok manifest) :
    tryMap readEntry (existingEntries content) = .ok manifest.entries ∧
      manifest.schemaVersion = textField content "schema_version" "data.manifest.v1" := by
  obtain ⟨raws, iterated, loaded⟩ := bind_ok loaded
  obtain ⟨entries, read, returned⟩ := bind_ok loaded
  cases returned
  refine ⟨?_, rfl⟩
  rw [existingEntries]
  cases found : Mapping.get? content "entries" with
  | none =>
    rw [found] at iterated
    cases iterated
    exact read
  | some value =>
    rw [found] at iterated
    cases value with
    | list items =>
      cases iterated
      exact read
    | str text =>
      cases iterated
      cases chars : text.toList with
      | nil => rw [chars] at read; exact read
      | cons char rest => rw [chars] at read; cases read
    | map items =>
      cases iterated
      cases items with
      | nil => exact read
      | cons item rest => cases read
    | null => cases iterated
    | bool flag => cases iterated
    | int number => cases iterated
    | float number text => cases iterated

/-- The top level that a manifest is written with is that of the content exactly
when the content is in form there. -/
theorem topLevel_kept_iff {content : Mapping} {manifest : DatasetManifest}
    (schema : manifest.schemaVersion = textField content "schema_version" "data.manifest.v1") :
    (∀ key, key ≠ "entries" → key ≠ "generated_at" →
        Mapping.get? manifest.toDict key = Mapping.get? content key) ↔
      (∀ key value, Mapping.get? content key = some value →
        key = "schema_version" ∨ key = "generated_at" ∨ key = "entries") ∧
      TextIn content "schema_version" "data.manifest.v1" := by
  have written : ∀ key, (∃ value, Mapping.get? manifest.toDict key = some value) ↔
      key = "schema_version" ∨ key = "generated_at" ∨ key = "entries" := by
    intro key
    rw [Mapping.exists_get?_iff]
    simp [DatasetManifest.toDict]
  have version : Mapping.get? manifest.toDict "schema_version" =
      some (.str (textField content "schema_version" "data.manifest.v1")) := by
    rw [← schema]
    rfl
  constructor
  · intro same
    constructor
    · intro key value found
      by_contra unknown
      rw [not_or, not_or] at unknown
      have also := same key unknown.2.2 unknown.2.1
      rw [found] at also
      cases (written key).mp ⟨value, also⟩ with
      | inl isSchema => exact unknown.1 isSchema
      | inr others => exact not_or.mpr unknown.2 others
    · rw [← textField_kept_iff, ← version]
      exact same "schema_version" (by decide) (by decide)
  · rintro ⟨known, version'⟩ key notEntries notGenerated
    by_cases isSchema : key = "schema_version"
    · subst isSchema
      rw [version]
      exact textField_kept_iff.mpr version'
    · have unknown : ¬ (key = "schema_version" ∨ key = "generated_at" ∨ key = "entries") :=
        not_or.mpr ⟨isSchema, not_or.mpr ⟨notGenerated, notEntries⟩⟩
      have unwritten : Mapping.get? manifest.toDict key = none := by
        by_contra present
        exact unknown ((written key).mp (Option.ne_none_iff_exists'.mp present))
      have absent : Mapping.get? content key = none := by
        by_contra present
        obtain ⟨value, found⟩ := Option.ne_none_iff_exists'.mp present
        exact unknown (known key value found)
      rw [unwritten, absent]

/-! ## One call -/

namespace DataManifestService

variable {service : DataManifestService} {call : RecordCall}

def newEntry (call : RecordCall) (fileHash : String) : ManifestEntry where
  id := call.entryId
  kind := call.kind
  path := call.path
  hashSha256 := fileHash
  owner := optionText call.owner
  validationPlaybookId := optionText call.playbookId
  tags := (call.tags.getD []).map Value.str

variable (service call) in
/-- What a call that records leaves. -/
def recorded (fileHash : String) : DataManifestService :=
  let manifest : DatasetManifest := {
    schemaVersion := service.manifest.schemaVersion
    generatedAt := call.now
    entries := service.manifest.entries ++ [newEntry call fileHash] }
  { file := some (.map manifest.toDict), manifest, saved := true }

theorem record_ok_iff {after : DataManifestService} {entry : ManifestEntry} :
    service.record call = .ok (after, entry) ↔
      ∃ fileHash, call.hash = some fileHash ∧
        (call.force = true ∨ ∀ existing ∈ service.manifest.entries, existing.id ≠ call.entryId) ∧
        after = service.recorded call fileHash ∧ entry = newEntry call fileHash := by
  have taken_iff : (!call.force && service.manifest.entries.any
      (fun existing => existing.id == call.entryId)) = false ↔
        (call.force = true ∨
          ∀ existing ∈ service.manifest.entries, existing.id ≠ call.entryId) := by
    cases call.force with
    | true => simp
    | false => simp [List.any_eq_false]
  rw [record]
  cases call.hash with
  | none => simp
  | some fileHash =>
    rw [← taken_iff]
    cases taken : !call.force && service.manifest.entries.any
        (fun existing => existing.id == call.entryId) with
    | true => simp
    | false =>
      simp only [Bool.false_eq_true, if_false, Except.ok.injEq, Prod.mk.injEq,
        Option.some.injEq, true_and, exists_eq_left', eq_comm]
      rfl

variable (service) in
theorem verify_path {files : DataFiles} {path currentHash : String}
    (present : files.hash path = some currentHash) :
    ∃ result, service.verify files (some path) none = .ok result ∧
      (result.status = "ok" ↔
        (service.manifest.entries.find? (fun existing => existing.path == path)).map
          ManifestEntry.hashSha256 = some currentHash) := by
  refine ⟨_, by simp only [verify, Option.filter_none, bind, Except.bind, present]; rfl, ?_⟩
  dsimp only
  split
  · rename_i same
    exact iff_of_true rfl same
  · rename_i different
    exact iff_of_false (by decide) different

theorem verify_recorded_iff {fileHash : String} :
    (∀ files : DataFiles, files.hash call.path = some fileHash →
      ∃ result, (service.recorded call fileHash).verify files (some call.path) none = .ok result ∧
        result.status = "ok") ↔
      ∀ existing, service.manifest.entries.find? (fun entry => entry.path == call.path) =
        some existing → existing.hashSha256 = fileHash := by
  have first : ((service.recorded call fileHash).manifest.entries.find?
      (fun entry => entry.path == call.path)).map ManifestEntry.hashSha256 = some fileHash ↔
        ∀ existing, service.manifest.entries.find? (fun entry => entry.path == call.path) =
          some existing → existing.hashSha256 = fileHash := by
    have own : [newEntry call fileHash].find? (fun entry => entry.path == call.path) =
        some (newEntry call fileHash) := by
      simp [newEntry]
    rw [recorded, List.find?_append, own]
    cases service.manifest.entries.find? (fun entry => entry.path == call.path) with
    | none => simp [newEntry]
    | some existing => simp
  rw [← first]
  constructor
  · intro verifies
    obtain ⟨result, answered, good⟩ := verifies ⟨id, fun _ => some fileHash⟩ rfl
    have present : (⟨id, fun _ => some fileHash⟩ : DataFiles).hash call.path = some fileHash := rfl
    obtain ⟨other, alsoAnswered, status⟩ := verify_path (service.recorded call fileHash) present
    rw [answered] at alsoAnswered
    cases alsoAnswered
    exact status.mp good
  · intro same files present
    obtain ⟨result, answered, status⟩ := verify_path (service.recorded call fileHash) present
    exact ⟨result, answered, status.mpr same⟩

/-- The service holds what the file was loaded as, or what it saved. -/
def Holds (service : DataManifestService) : Prop :=
  if service.saved then service.file = some (.map service.manifest.toDict)
  else ∃ now, loadManifest now service.file = .ok service.manifest

theorem keepsContent_iff {fileHash : String} (unsaved : service.saved = false)
    (holds : service.Holds) {content : Mapping} (file : service.file = some (.map content)) :
    KeepsContent content (service.recorded call fileHash).manifest.toDict ↔
      ContentInForm content := by
  rw [Holds, unsaved, if_neg (by decide), file] at holds
  obtain ⟨now, loaded⟩ := holds
  obtain ⟨read, schema⟩ := loadManifest_ok loaded
  have sameSchema : (service.recorded call fileHash).manifest.schemaVersion =
      textField content "schema_version" "data.manifest.v1" := schema
  have entries : Mapping.get? (service.recorded call fileHash).manifest.toDict "entries" =
      some (.list (service.manifest.entries.map (fun entry => .map entry.toDict) ++
        [.map (newEntry call fileHash).toDict])) := by
    have appended : (service.recorded call fileHash).manifest.entries.map
        (fun entry => Value.map entry.toDict) =
          service.manifest.entries.map (fun entry => .map entry.toDict) ++
            [.map (newEntry call fileHash).toDict] := List.map_append
    rw [← appended]
    rfl
  constructor
  · intro keeps
    obtain ⟨topLevel, version⟩ := (topLevel_kept_iff sameSchema).mp keeps.topLevel
    refine ⟨topLevel, version, ?_⟩
    obtain ⟨kept, added, written, same⟩ := keeps.entries
    have lengths : service.manifest.entries.length = (existingEntries content).length := by
      have labels : service.manifest.entries.map (fun _ => ()) =
          (existingEntries content).map (fun _ => ()) := map_of_tryMap (fun _ _ _ => rfl) read
      simpa using congrArg List.length labels
    rw [entries, Option.some.injEq, Value.list.injEq] at written
    have sameKept := (List.append_inj written (by rw [List.length_map, lengths, same.length_eq])).1
    rw [← sameKept] at same
    exact (sameFields_entries_iff read).mp same
  · intro inForm
    refine ⟨(topLevel_kept_iff sameSchema).mpr ⟨inForm.topLevel, inForm.schemaVersion⟩, ?_⟩
    exact ⟨_, _, entries, (sameFields_entries_iff read).mpr inForm.entries⟩

theorem keepsContent_saved {fileHash : String} :
    KeepsContent service.manifest.toDict (service.recorded call fileHash).manifest.toDict := by
  constructor
  · intro key notEntries notGenerated
    have apart : ¬ "generated_at" = key ∧ ¬ "entries" = key :=
      ⟨Ne.symm notGenerated, Ne.symm notEntries⟩
    simp [Mapping.get?, DatasetManifest.toDict, recorded, List.find?_cons, apart]
  · have existing : existingEntries service.manifest.toDict =
        service.manifest.entries.map (fun entry => .map entry.toDict) := rfl
    rw [existing]
    refine ⟨_, [.map (newEntry call fileHash).toDict], ?_, sameFields_refl⟩
    have appended : (service.recorded call fileHash).manifest.entries.map
        (fun entry => Value.map entry.toDict) =
          service.manifest.entries.map (fun entry => .map entry.toDict) ++
            [.map (newEntry call fileHash).toDict] := List.map_append
    rw [← appended]
    rfl

theorem holds_loaded {file : Option Value} {now : String} {manifest : DatasetManifest}
    (loaded : loadManifest now file = .ok manifest) : Holds { file, manifest } := ⟨now, loaded⟩

theorem step_holds (holds : service.Holds) (call : RecordCall) : (service.step call).Holds := by
  cases recorded : service.record call with
  | error error =>
    rw [step, recorded]
    exact holds
  | ok result =>
    obtain ⟨after, entry⟩ := result
    obtain ⟨fileHash, -, -, rfl, -⟩ := record_ok_iff.mp recorded
    rw [step, recorded]
    rfl

theorem recordsWell_iff (holds : service.Holds) (call : RecordCall) :
    service.RecordsWell call ↔ service.FindsInForm call := by
  constructor
  · intro well fileHash present accepted
    have recorded := record_ok_iff.mpr ⟨fileHash, present, accepted, rfl, rfl⟩
    obtain ⟨keeps, verifies⟩ := well _ _ recorded
    rw [present] at verifies
    refine ⟨fun unsaved content file => ?_, verify_recorded_iff.mp verifies⟩
    obtain ⟨written, sameFile, kept⟩ := keeps content file
    cases sameFile
    exact (keepsContent_iff unsaved holds file).mp kept
  · intro finds after entry recorded
    obtain ⟨fileHash, present, accepted, rfl, rfl⟩ := record_ok_iff.mp recorded
    obtain ⟨inForm, sameHash⟩ := finds fileHash present accepted
    rw [present]
    refine ⟨fun content file => ⟨_, rfl, ?_⟩, verify_recorded_iff.mpr sameHash⟩
    cases saved : service.saved with
    | false => exact (keepsContent_iff saved holds file).mpr (inForm saved content file)
    | true =>
      rw [Holds, saved, if_pos rfl, file] at holds
      cases holds
      exact keepsContent_saved

/-- For every content of the file, and every history of calls of the service
that loaded it: each call keeps the content and verifies, exactly when what was
loaded is in form and no earlier entry of a path has another hash. -/
theorem recordsWell_iff_findsInForm (file : Option Value) (now : String)
    (manifest : DatasetManifest) (loaded : loadManifest now file = .ok manifest)
    (calls : List RecordCall) :
    EachStep step RecordsWell { file, manifest } calls ↔
      EachStep step FindsInForm { file, manifest } calls :=
  eachStep_iff_of_invariant Holds (fun _ call holds _ => step_holds holds call)
    (fun _ call holds => recordsWell_iff holds call) (holds_loaded loaded)

end DataManifestService

/-! ## Sample manifests -/

def loadedEntry : ManifestEntry where
  id := "0b1c"
  kind := "bars"
  path := "data/usdjpy.csv"
  hashSha256 := "aa11"
  tags := [.str "fx"]

def loadedManifest : DatasetManifest where
  schemaVersion := "data.manifest.v1"
  generatedAt := "2025-01-02T00:00:00Z"
  entries := [loadedEntry]

def recordOf (path hash entryId : String) : RecordCall where
  path
  kind := "bars"
  hash := some hash
  entryId
  now := "2025-01-03T00:00:00Z"

theorem ManifestEntry.inForm_toDict (entry : ManifestEntry) (kind : entry.kind ≠ "")
    (status : entry.status ≠ "") : EntryInForm entry.toDict where
  keys := entry.exists_toDict_iff
  id := ⟨entry.id, rfl, fun _ => rfl⟩
  kind := ⟨entry.kind, rfl, fun empty => absurd empty kind⟩
  path := ⟨entry.path, rfl, fun _ => rfl⟩
  hashSha256 := ⟨entry.hashSha256, rfl, fun _ => rfl⟩
  status := ⟨entry.status, rfl, fun empty => absurd empty status⟩
  tags := ⟨entry.tags, rfl⟩

theorem loadedManifest_inForm : ContentInForm loadedManifest.toDict where
  topLevel := by
    intro key value found
    have member := (Mapping.exists_get?_iff _ key).mp ⟨value, found⟩
    simpa [DatasetManifest.toDict] using member
  schemaVersion := ⟨"data.manifest.v1", rfl, by simp⟩
  entries := by
    intro raw member
    obtain rfl := List.mem_singleton.mp member
    exact ⟨_, rfl, loadedEntry.inForm_toDict (by decide) (by decide)⟩

theorem loadedManifest_loads :
    loadManifest "2025-01-03T00:00:00Z" (some (.map loadedManifest.toDict)) = .ok loadedManifest :=
  rfl

/-- A file recorded again unchanged, and another one. -/
theorem recordsWell_again : EachStep DataManifestService.step DataManifestService.RecordsWell
    { file := some (.map loadedManifest.toDict), manifest := loadedManifest }
    [recordOf "data/usdjpy.csv" "aa11" "7f2e", recordOf "data/eurusd.csv" "bb22" "93d4"] := by
  refine (DataManifestService.recordsWell_iff_findsInForm _ _ _ loadedManifest_loads _).mpr
    ⟨?_, ?_, trivial⟩
  · intro fileHash present _
    cases present
    refine ⟨fun _ content same => ?_, fun existing found => ?_⟩
    · cases same
      exact loadedManifest_inForm
    · cases found
      rfl
  · intro fileHash present _
    refine ⟨fun unsaved => Bool.noConfusion unsaved, fun existing found => ?_⟩
    cases found

/-- The strategies that the gate reads are dropped, and a changed file that is
recorded again does not verify. -/
theorem record_drops_and_mismatches :
    ¬ DataManifestService.RecordsWell
        { file := some (.map (loadedManifest.toDict ++ [("strategies", .map [])]))
          manifest := loadedManifest } (recordOf "data/eurusd.csv" "bb22" "93d4") ∧
      ¬ DataManifestService.RecordsWell
        { file := some (.map loadedManifest.toDict), manifest := loadedManifest }
        (recordOf "data/usdjpy.csv" "cc33" "7f2e") := by
  constructor
  · intro well
    have loaded : loadManifest "2025-01-03T00:00:00Z"
        (some (.map (loadedManifest.toDict ++ [("strategies", .map [])]))) =
          .ok loadedManifest := rfl
    have holds := DataManifestService.holds_loaded loaded
    have finds := (DataManifestService.recordsWell_iff holds _).mp well
    have inForm := (finds "bb22" rfl (.inr (by decide))).1 rfl _ rfl
    have known := inForm.topLevel "strategies" (.map []) rfl
    exact absurd known (by decide)
  · intro well
    have holds := DataManifestService.holds_loaded loadedManifest_loads
    have finds := (DataManifestService.recordsWell_iff holds _).mp well
    have sameHash := (finds "cc33" rfl (.inr (by decide))).2 loadedEntry rfl
    exact absurd sameHash (by decide)

end FxToushi.Ingestion
