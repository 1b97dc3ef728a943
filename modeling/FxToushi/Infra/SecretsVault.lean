import FxToushi.Core.JsonlLogs
import FxToushi.Data.Dict
import FxToushi.Data.Runs
import FxToushi.Py.Containers

namespace FxToushi.Infra

open FxToushi.Core Data Py

/-! # The secrets vault

A secret is stored encrypted in a file named after its id, and one metadata
file tells of every secret.  A secret that was never stored here may still lie
in plain text, in a `.json` file of its id.
-/

/-- AES-GCM under the key of the vault: decryption undoes encryption. -/
structure Cipher (Nonce Ciphertext : Type) where
  encrypt : Nonce → List Char → Ciphertext
  decrypt : Nonce → Ciphertext → Option (List Char)
  undoes : ∀ nonce text, decrypt nonce (encrypt nonce text) = some text

structure Envelope (Nonce Ciphertext : Type) where
  alg : String
  nonce : Nonce
  ciphertext : Ciphertext

/-- `accepts` tells the names that the file system takes, by the id in them.
`metadataId` is the id whose plain text file is the metadata file, where that
lies in the directory of the secrets; the paths by default make it `metadata`. -/
structure SecretsVaultService (Nonce Ciphertext : Type) where
  cipher : Cipher Nonce Ciphertext
  checksum : Mapping → String
  accepts : String → Bool
  metadataId : Option String
  metadataName : ∀ name, metadataId = some name → '/' ∉ name.toList ∧ accepts name = true

/-- The files, under the ids in their names. -/
structure VaultFiles (Nonce Ciphertext : Type) where
  encrypted : Dict String (Envelope Nonce Ciphertext)
  plain : Dict String Value
  metadata : Option Value

inductive VaultError where
  | secretNotFound
  | secretDecryption
  | jsonDecode
  | attribute
  | os
deriving Repr, DecidableEq

/-- `secret_id.replace("/", "_")`. -/
def safeId (secretId : String) : String :=
  String.ofList (secretId.toList.map (fun char => if char = '/' then '_' else char))

/-- A payload that is not a dict is wrapped. -/
def asPayload : Value → Mapping
  | .map entries => entries
  | value => [("value", value)]

namespace SecretsVaultService

variable {Nonce Ciphertext : Type} (service : SecretsVaultService Nonce Ciphertext)
  (files : VaultFiles Nonce Ciphertext)

def loadMetadata : Mapping :=
  match files.metadata with
  | some (.map entries) => entries
  | _ => []

/-- `metadata.get(secret_id, {})`, which has to be a dict. -/
def metadataEntry (metadata : Mapping) (secretId : String) : Except VaultError Mapping :=
  match metadata.get? secretId with
  | none => .ok []
  | some (.map entry) => .ok entry
  | some _ => .error .attribute

def textValue : Option String → Value
  | some text => .str text
  | none => .null

def updateMetadata (secretId : String) (payload : Mapping) (action : String)
    (rotationAt algorithm : Option String) (now : String) :
    Except VaultError (VaultFiles Nonce Ciphertext) := do
  let metadata := loadMetadata files
  let entry ← metadataEntry metadata secretId
  let updated : Mapping :=
    [("checksum", .str (service.checksum payload)),
      ("last_used_at", .str now),
      ("rotation_at", orValue (textValue rotationAt) ((entry.get? "rotation_at").getD .null)),
      ("action", .str action),
      ("algorithm", orValue (textValue algorithm)
        ((entry.get? "algorithm").getD (.str "aes-256-gcm")))]
  return { files with metadata := some (.map (metadata.set secretId (.map updated))) }

/-! ## Storing -/

def encryptPayload (payload : Record) (nonce : Nonce) : Envelope Nonce Ciphertext where
  alg := "AES-256-GCM"
  nonce
  ciphertext := service.cipher.encrypt nonce (Json.dumps true (.map payload.payload))

/-- The files that are left, and the exception if there is one. -/
def store (secretId : String) (payload : Record) (nonce : Nonce) (rotationAt : Option String)
    (now : String) : VaultFiles Nonce Ciphertext × Option VaultError :=
  let safe := safeId secretId
  if service.accepts safe then
    let written :=
      { files with encrypted := files.encrypted.set safe (service.encryptPayload payload nonce) }
    match service.updateMetadata written secretId payload.payload "store" rotationAt
        (some "aes-256-gcm") now with
    | .ok updated => (updated, none)
    | .error error => (written, some error)
  else (files, some .os)

/-! ## Loading -/

def decryptPayload (envelope : Envelope Nonce Ciphertext) : Except VaultError Mapping :=
  if envelope.alg ≠ "AES-256-GCM" then .error .secretDecryption
  else
    match service.cipher.decrypt envelope.nonce envelope.ciphertext with
    | none => .error .secretDecryption
    | some text =>
      match Json.loads text with
      | none => .error .jsonDecode
      | some value => .ok (asPayload value)

/-- The plain text file of the id, which may be the metadata file. -/
def legacyDocument (safe : String) : Option Value :=
  if service.metadataId = some safe then files.metadata else files.plain.get? safe

def readPayload (secretId : String) : Except VaultError Mapping :=
  let safe := safeId secretId
  if service.accepts safe then
    match files.encrypted.get? safe, service.legacyDocument files safe with
    | some envelope, _ => service.decryptPayload envelope
    | none, some value => .ok (asPayload value)
    | none, none => .error .secretNotFound
  else .error .os

def load (secretId : String) (now : String) :
    VaultFiles Nonce Ciphertext × Except VaultError Mapping :=
  match service.readPayload files secretId with
  | .error error => (files, .error error)
  | .ok payload =>
    match service.updateMetadata files secretId payload "load" none none now with
    | .error error => (files, .error error)
    | .ok updated => (updated, .ok payload)

end SecretsVaultService

/-! ## Histories -/

inductive VaultCall (Nonce : Type) where
  | store (secretId : String) (payload : Record) (nonce : Nonce) (rotationAt : Option String)
      (now : String)
  | load (secretId : String) (now : String)

/-- The files, and the last payload stored under each id. -/
structure VaultHistory (Nonce Ciphertext : Type) where
  files : VaultFiles Nonce Ciphertext := ⟨.empty, .empty, none⟩
  stored : Dict String Mapping := .empty

namespace VaultHistory

variable {Nonce Ciphertext : Type} (service : SecretsVaultService Nonce Ciphertext)

def step (history : VaultHistory Nonce Ciphertext) :
    VaultCall Nonce → VaultHistory Nonce Ciphertext
  | .store secretId payload nonce rotationAt now =>
    match service.store history.files secretId payload nonce rotationAt now with
    | (files, none) => ⟨files, history.stored.set secretId payload.payload⟩
    | (files, some _) => { history with files }
  | .load secretId now => { history with files := (service.load history.files secretId now).1 }

/-- `load` returns what was stored last under exactly that id. -/
def ReturnsStored (history : VaultHistory Nonce Ciphertext) : Prop :=
  ∀ secretId payload now, history.stored.get? secretId = some payload →
    (service.load history.files secretId now).2 = .ok payload

/-- A store leaves what `load` returns for the other ids. -/
def LeavesOthers (history : VaultHistory Nonce Ciphertext) : VaultCall Nonce → Prop
  | .store secretId payload nonce rotationAt now =>
    ∀ other later, other ≠ secretId →
      (service.load (history.step service (.store secretId payload nonce rotationAt now)).files
          other later).2 =
        (service.load history.files other later).2
  | .load _ _ => True

def Faithful (history : VaultHistory Nonce Ciphertext) (call : VaultCall Nonce) : Prop :=
  (history.step service call).ReturnsStored service ∧ history.LeavesOthers service call

/-- A store is under an id without slash and underscore, and does not create the
file that another id is loaded from. -/
def OwnFile (history : VaultHistory Nonce Ciphertext) : VaultCall Nonce → Prop
  | .store secretId _ _ _ _ =>
    service.accepts (safeId secretId) = true →
      '/' ∉ secretId.toList ∧ '_' ∉ secretId.toList ∧
        ∀ name, service.metadataId = some name →
          name = secretId ∨ history.files.metadata ≠ none
  | .load _ _ => True

end VaultHistory

/-! ## The ids that share a file -/

theorem safeId_toList (secretId : String) :
    (safeId secretId).toList = secretId.toList.map (fun char => if char = '/' then '_' else char) :=
  String.toList_ofList

theorem slash_not_mem_safeId (secretId : String) : '/' ∉ (safeId secretId).toList := by
  rw [safeId_toList]
  intro member
  obtain ⟨char, -, same⟩ := List.mem_map.mp member
  split at same
  · cases same
  · rename_i other
    exact other same

theorem underscore_mem_safeId {secretId : String}
    (shared : '/' ∈ secretId.toList ∨ '_' ∈ secretId.toList) :
    '_' ∈ (safeId secretId).toList := by
  rw [safeId_toList]
  cases shared with
  | inl slash => exact List.mem_map.mpr ⟨'/', slash, rfl⟩
  | inr underscore => exact List.mem_map.mpr ⟨'_', underscore, rfl⟩

theorem safeId_of_noSlash {secretId : String} (noSlash : '/' ∉ secretId.toList) :
    safeId secretId = secretId := by
  have kept : secretId.toList.map (fun char => if char = '/' then '_' else char) =
      secretId.toList := by
    refine (List.map_congr_left ?_).trans (List.map_id _)
    intro char member
    have other : char ≠ '/' := by
      rintro rfl
      exact noSlash member
    rw [if_neg other, id]
  rw [safeId, kept, String.ofList_toList]

theorem safeId_injective {secretId other : String} (noSlash : '/' ∉ secretId.toList)
    (noUnderscore : '_' ∉ secretId.toList) (same : safeId other = safeId secretId) :
    other = secretId := by
  rw [safeId_of_noSlash noSlash] at same
  have otherNoSlash : '/' ∉ other.toList := by
    intro slash
    exact noUnderscore (same ▸ underscore_mem_safeId (.inl slash))
  rw [← same, safeId_of_noSlash otherNoSlash]

/-- An id with a slash or an underscore shares its file with another. -/
theorem exists_twin {secretId : String}
    (shared : '/' ∈ secretId.toList ∨ '_' ∈ secretId.toList) :
    ∃ other, other ≠ secretId ∧ safeId other = safeId secretId := by
  by_cases slash : '/' ∈ secretId.toList
  · refine ⟨safeId secretId, ?_, safeId_of_noSlash (slash_not_mem_safeId secretId)⟩
    intro same
    exact slash_not_mem_safeId secretId (same.symm ▸ slash)
  · have underscore := shared.resolve_left slash
    let other := String.ofList (secretId.toList.map (fun char => if char = '_' then '/' else char))
    have otherSlash : '/' ∈ other.toList := by
      rw [String.toList_ofList]
      exact List.mem_map.mpr ⟨'_', underscore, rfl⟩
    refine ⟨other, fun same => slash (same ▸ otherSlash), ?_⟩
    have back : other.toList.map (fun char => if char = '/' then '_' else char) =
        secretId.toList := by
      rw [String.toList_ofList, List.map_map]
      refine (List.map_congr_left ?_).trans (List.map_id _)
      intro char member
      have noSlash : char ≠ '/' := by
        rintro rfl
        exact slash member
      by_cases isUnderscore : char = '_'
      · simp [isUnderscore]
      · simp [isUnderscore, noSlash]
    rw [safeId, back, String.ofList_toList, safeId_of_noSlash slash]

namespace SecretsVaultService

variable {Nonce Ciphertext : Type} {service : SecretsVaultService Nonce Ciphertext}
  {files : VaultFiles Nonce Ciphertext}

/-! ## What storing and loading leave -/

/-- Every entry of the metadata is a dict. -/
def SaneMetadata (files : VaultFiles Nonce Ciphertext) : Prop :=
  ∀ secretId, ∃ entry, metadataEntry (loadMetadata files) secretId = .ok entry

/-- The metadata alone changes. -/
structure MetadataUpdated (before after : VaultFiles Nonce Ciphertext) : Prop where
  encrypted : after.encrypted = before.encrypted
  plain : after.plain = before.plain
  written : after.metadata ≠ none
  sane : SaneMetadata after

variable (service) in
theorem updateMetadata_ok (sane : SaneMetadata files) (secretId : String) (payload : Mapping)
    (action : String) (rotationAt algorithm : Option String) (now : String) :
    ∃ updated, service.updateMetadata files secretId payload action rotationAt algorithm now =
      .ok updated ∧ MetadataUpdated files updated := by
  have updates : ∃ entry,
      service.updateMetadata files secretId payload action rotationAt algorithm now =
        .ok { files with
          metadata := some (.map ((loadMetadata files).set secretId (.map entry))) } := by
    obtain ⟨entry, found⟩ := sane secretId
    exact ⟨_, by rw [updateMetadata, found]; rfl⟩
  obtain ⟨entry, updates⟩ := updates
  refine ⟨_, updates, rfl, rfl, Option.some_ne_none _, ?_⟩
  intro other
  by_cases same : other = secretId
  · exact ⟨entry, by simp [metadataEntry, loadMetadata, Mapping.get?_set, same]⟩
  · obtain ⟨before, found⟩ := sane other
    refine ⟨before, ?_⟩
    rw [← found, metadataEntry, metadataEntry, loadMetadata, Mapping.get?_set, if_neg same]

theorem load_result (sane : SaneMetadata files) (secretId now : String) :
    (service.load files secretId now).2 = service.readPayload files secretId := by
  rw [load]
  cases read : service.readPayload files secretId with
  | error error => rfl
  | ok payload =>
    obtain ⟨updated, done, -⟩ :=
      updateMetadata_ok service sane secretId payload "load" none none now
    simp only [done]

variable (service) in
theorem load_files (sane : SaneMetadata files) (secretId now : String) :
    (service.load files secretId now).1 = files ∨
      (∃ payload, service.readPayload files secretId = .ok payload) ∧
        MetadataUpdated files (service.load files secretId now).1 := by
  rw [load]
  cases read : service.readPayload files secretId with
  | error error => exact .inl rfl
  | ok payload =>
    obtain ⟨updated, done, changed⟩ :=
      updateMetadata_ok service sane secretId payload "load" none none now
    simp only [done]
    exact .inr ⟨⟨payload, rfl⟩, changed⟩

theorem store_accepted (sane : SaneMetadata files) {secretId : String}
    (accepted : service.accepts (safeId secretId) = true) (payload : Record) (nonce : Nonce)
    (rotationAt : Option String) (now : String) :
    ∃ updated, service.store files secretId payload nonce rotationAt now = (updated, none) ∧
      MetadataUpdated { files with
        encrypted := files.encrypted.set (safeId secretId) (service.encryptPayload payload nonce) }
        updated := by
  have saneWritten : SaneMetadata { files with
      encrypted := files.encrypted.set (safeId secretId) (service.encryptPayload payload nonce) } :=
    sane
  obtain ⟨updated, done, changed⟩ := updateMetadata_ok service saneWritten secretId
    payload.payload "store" rotationAt (some "aes-256-gcm") now
  exact ⟨updated, by simp only [store, if_pos accepted, done], changed⟩

theorem store_refused {secretId : String} (refused : service.accepts (safeId secretId) ≠ true)
    (payload : Record) (nonce : Nonce) (rotationAt : Option String) (now : String) :
    service.store files secretId payload nonce rotationAt now = (files, some .os) := by
  rw [store, if_neg refused]

theorem decrypt_encrypt (payload : Record) (nonce : Nonce) :
    service.decryptPayload (service.encryptPayload payload nonce) = .ok payload.payload := by
  have decrypted := service.cipher.undoes nonce (Json.dumps true (.map payload.payload))
  simp only [decryptPayload, encryptPayload, decrypted, Json.loads_dumps true payload.wellFormed]
  rfl

theorem readPayload_encrypted {secretId : String} {envelope : Envelope Nonce Ciphertext}
    (accepted : service.accepts (safeId secretId) = true)
    (found : files.encrypted.get? (safeId secretId) = some envelope) :
    service.readPayload files secretId = service.decryptPayload envelope := by
  simp only [readPayload, if_pos accepted, found]

theorem readPayload_absent {secretId : String}
    (absent : files.encrypted.get? (safeId secretId) = none)
    (noLegacy : service.legacyDocument files (safeId secretId) = none) (payload : Mapping) :
    service.readPayload files secretId ≠ .ok payload := by
  rw [readPayload]
  split
  · simp [absent, noLegacy]
  · simp

end SecretsVaultService

namespace VaultHistory

open SecretsVaultService

variable {Nonce Ciphertext : Type} {service : SecretsVaultService Nonce Ciphertext}
  {history : VaultHistory Nonce Ciphertext}

/-! ## Vaults of which every file has one id -/

variable (service history) in
/-- Every secret that was stored has its own file, and the metadata file is not
what another id is loaded from. -/
structure OneIdAFile : Prop where
  sane : SaneMetadata history.files
  noPlain : history.files.plain = .empty
  held : ∀ secretId payload, history.stored.get? secretId = some payload →
    service.accepts (safeId secretId) = true ∧ '/' ∉ secretId.toList ∧ '_' ∉ secretId.toList ∧
      ∃ envelope, history.files.encrypted.get? (safeId secretId) = some envelope ∧
        service.decryptPayload envelope = .ok payload
  named : ∀ safe envelope, history.files.encrypted.get? safe = some envelope →
    ∃ payload, history.stored.get? safe = some payload
  covered : history.files.metadata ≠ none → ∀ name, service.metadataId = some name →
    ∃ payload, history.stored.get? name = some payload
  unwritten : history.files.metadata = none → ∀ secretId, history.stored.get? secretId = none

namespace OneIdAFile

theorem initial : OneIdAFile service {} where
  sane := fun _ => ⟨[], rfl⟩
  noPlain := rfl
  held := fun _ _ found => by cases found
  named := fun _ _ found => by cases found
  covered := fun written => absurd rfl written
  unwritten := fun _ _ => rfl

theorem encrypted_of_stored (own : OneIdAFile service history) {name : String} {payload : Mapping}
    (stored : history.stored.get? name = some payload) :
    ∃ envelope, history.files.encrypted.get? name = some envelope := by
  obtain ⟨-, noSlash, -, envelope, found, -⟩ := own.held name payload stored
  exact ⟨envelope, by rw [← safeId_of_noSlash noSlash, found]⟩

theorem no_legacy (own : OneIdAFile service history) {safe : String}
    (absent : history.files.encrypted.get? safe = none) :
    service.legacyDocument history.files safe = none := by
  rw [legacyDocument]
  split
  · rename_i isMetadata
    by_contra written
    obtain ⟨payload, stored⟩ := own.covered written safe isMetadata
    obtain ⟨envelope, found⟩ := own.encrypted_of_stored stored
    rw [absent] at found
    cases found
  · rw [own.noPlain]
    rfl

theorem load_absent (own : OneIdAFile service history) {secretId : String} (now : String)
    (absent : history.files.encrypted.get? (safeId secretId) = none) (payload : Mapping) :
    (service.load history.files secretId now).2 ≠ .ok payload := by
  rw [load_result own.sane]
  exact readPayload_absent absent (own.no_legacy absent) payload

theorem load_congr {other : VaultHistory Nonce Ciphertext} (own : OneIdAFile service history)
    (otherOwn : OneIdAFile service other) {secretId now : String}
    (same : other.files.encrypted.get? (safeId secretId) =
      history.files.encrypted.get? (safeId secretId)) :
    (service.load other.files secretId now).2 = (service.load history.files secretId now).2 := by
  rw [load_result own.sane, load_result otherOwn.sane, readPayload, readPayload, same]
  split
  · cases found : history.files.encrypted.get? (safeId secretId) with
    | some envelope => rfl
    | none => rw [own.no_legacy found, otherOwn.no_legacy (same.trans found)]
  · rfl

theorem returnsStored (own : OneIdAFile service history) : history.ReturnsStored service := by
  intro secretId payload now stored
  obtain ⟨accepted, -, -, envelope, found, decrypted⟩ := own.held secretId payload stored
  rw [load_result own.sane, readPayload_encrypted accepted found, decrypted]

theorem load_kept (own : OneIdAFile service history) (secretId now : String) :
    OneIdAFile service (history.step service (.load secretId now)) := by
  cases load_files service own.sane secretId now with
  | inl same =>
    rw [step, same]
    exact own
  | inr updates =>
    obtain ⟨⟨payload, read⟩, changed⟩ := updates
    have found : history.files.encrypted.get? (safeId secretId) ≠ none :=
      fun absent => readPayload_absent absent (own.no_legacy absent) payload read
    obtain ⟨envelope, found⟩ := Option.ne_none_iff_exists'.mp found
    obtain ⟨last, stored⟩ := own.named _ _ found
    have written : history.files.metadata ≠ none := by
      intro unwritten
      rw [own.unwritten unwritten] at stored
      cases stored
    refine ⟨changed.sane, changed.plain.trans own.noPlain, ?_, ?_, fun _ => own.covered written,
      fun unwritten => absurd unwritten changed.written⟩
    · intro other otherPayload otherStored
      rw [step, changed.encrypted]
      exact own.held other otherPayload otherStored
    · intro safe otherEnvelope otherFound
      rw [step, changed.encrypted] at otherFound
      exact own.named safe otherEnvelope otherFound

end OneIdAFile

section Store

variable {secretId : String} {payload : Record} {nonce : Nonce} {rotationAt : Option String}
  {now : String}

theorem step_refused (refused : service.accepts (safeId secretId) ≠ true) :
    history.step service (.store secretId payload nonce rotationAt now) = history := by
  rw [step, store_refused refused]

variable (payload nonce rotationAt now) in
theorem step_accepted (own : OneIdAFile service history)
    (accepted : service.accepts (safeId secretId) = true) :
    ∃ files, history.step service (.store secretId payload nonce rotationAt now) =
        ⟨files, history.stored.set secretId payload.payload⟩ ∧
      MetadataUpdated { history.files with
        encrypted := history.files.encrypted.set (safeId secretId)
          (service.encryptPayload payload nonce) } files := by
  obtain ⟨files, done, changed⟩ :=
    store_accepted own.sane accepted payload nonce rotationAt now
  exact ⟨files, by simp only [step, done], changed⟩

theorem OneIdAFile.store_kept (own : OneIdAFile service history)
    (accepted : service.accepts (safeId secretId) = true)
    (ownFile : history.OwnFile service (.store secretId payload nonce rotationAt now)) :
    OneIdAFile service (history.step service (.store secretId payload nonce rotationAt now)) := by
  obtain ⟨noSlash, noUnderscore, besides⟩ := ownFile accepted
  obtain ⟨files, stepped, changed⟩ := step_accepted payload nonce rotationAt now own accepted
  rw [stepped]
  refine ⟨changed.sane, changed.plain.trans own.noPlain, ?_, ?_, ?_, ?_⟩
  · intro other otherPayload stored
    simp only [changed.encrypted, Dict.get?_set] at stored ⊢
    by_cases same : secretId = other
    · subst same
      rw [if_pos rfl] at stored ⊢
      cases stored
      exact ⟨accepted, noSlash, noUnderscore, _, rfl, decrypt_encrypt payload nonce⟩
    · have apart : safeId secretId ≠ safeId other :=
        fun shared => same (safeId_injective noSlash noUnderscore shared.symm).symm
      rw [if_neg same] at stored
      rw [if_neg apart]
      exact own.held other otherPayload stored
  · intro safe envelope found
    simp only [changed.encrypted, Dict.get?_set] at found ⊢
    rw [safeId_of_noSlash noSlash] at found
    by_cases same : secretId = safe
    · exact ⟨payload.payload, if_pos same⟩
    · rw [if_neg same] at found ⊢
      exact own.named safe envelope found
  · intro _ name isMetadata
    simp only [Dict.get?_set]
    by_cases same : secretId = name
    · exact ⟨payload.payload, if_pos same⟩
    · rw [if_neg same]
      have written := (besides name isMetadata).resolve_left (Ne.symm same)
      exact own.covered written name isMetadata
  · intro unwritten
    exact absurd unwritten changed.written

theorem OneIdAFile.store_leavesOthers (own : OneIdAFile service history)
    (accepted : service.accepts (safeId secretId) = true)
    (ownFile : history.OwnFile service (.store secretId payload nonce rotationAt now)) :
    history.LeavesOthers service (.store secretId payload nonce rotationAt now) := by
  intro other later apart
  obtain ⟨noSlash, noUnderscore, -⟩ := ownFile accepted
  refine own.load_congr (own.store_kept accepted ownFile) ?_
  obtain ⟨files, stepped, changed⟩ := step_accepted payload nonce rotationAt now own accepted
  rw [stepped, changed.encrypted, Dict.get?_set,
    if_neg (fun shared => apart (safeId_injective noSlash noUnderscore shared.symm))]

/-- A store that leaves the other ids alone has its own file. -/
theorem OneIdAFile.ownFile_of_leavesOthers (own : OneIdAFile service history)
    (leaves : history.LeavesOthers service (.store secretId payload nonce rotationAt now)) :
    history.OwnFile service (.store secretId payload nonce rotationAt now) := by
  intro accepted
  obtain ⟨files, stepped, changed⟩ := step_accepted payload nonce rotationAt now own accepted
  rw [LeavesOthers, stepped] at leaves
  have alone : ¬ ('/' ∈ secretId.toList ∨ '_' ∈ secretId.toList) := by
    intro shared
    obtain ⟨other, apart, same⟩ := exists_twin shared
    have absent : history.files.encrypted.get? (safeId other) = none := by
      by_contra present
      obtain ⟨envelope, found⟩ := Option.ne_none_iff_exists'.mp present
      obtain ⟨last, stored⟩ := own.named _ _ found
      obtain ⟨-, -, noUnderscore, -⟩ := own.held _ last stored
      exact noUnderscore (same ▸ underscore_mem_safeId shared)
    refine own.load_absent now absent payload.payload ?_
    have found : files.encrypted.get? (safeId other) =
        some (service.encryptPayload payload nonce) := by
      rw [changed.encrypted, Dict.get?_set, if_pos same.symm]
    rw [← leaves other now apart, load_result changed.sane,
      readPayload_encrypted (same ▸ accepted) found, decrypt_encrypt]
  rw [not_or] at alone
  refine ⟨alone.1, alone.2, fun name isMetadata => ?_⟩
  by_contra creates
  obtain ⟨apart, unwritten⟩ := not_or.mp creates
  rw [not_not] at unwritten
  obtain ⟨noSlash, nameAccepted⟩ := service.metadataName name isMetadata
  have safeName := safeId_of_noSlash noSlash
  have absent : history.files.encrypted.get? (safeId name) = none := by
    by_contra present
    obtain ⟨envelope, found⟩ := Option.ne_none_iff_exists'.mp present
    obtain ⟨last, stored⟩ := own.named _ _ found
    rw [own.unwritten unwritten] at stored
    cases stored
  have stillAbsent : files.encrypted.get? (safeId name) = none := by
    rw [changed.encrypted, Dict.get?_set, safeName, safeId_of_noSlash alone.1,
      if_neg (Ne.symm apart), ← safeName, absent]
  obtain ⟨document, written⟩ := Option.ne_none_iff_exists'.mp changed.written
  refine own.load_absent now absent (asPayload document) ?_
  rw [← leaves name now apart, load_result changed.sane, readPayload, stillAbsent, legacyDocument,
    safeName, if_pos nameAccepted, if_pos isMetadata, written]

end Store

theorem OneIdAFile.step_kept (own : OneIdAFile service history) {call : VaultCall Nonce}
    (ownFile : history.OwnFile service call) : OneIdAFile service (history.step service call) := by
  cases call with
  | load secretId now => exact own.load_kept secretId now
  | store secretId payload nonce rotationAt now =>
    by_cases accepted : service.accepts (safeId secretId) = true
    · exact own.store_kept accepted ownFile
    · rw [step_refused accepted]
      exact own

theorem OneIdAFile.faithful_iff (own : OneIdAFile service history) (call : VaultCall Nonce) :
    history.Faithful service call ↔ history.OwnFile service call := by
  cases call with
  | load secretId now =>
    exact iff_of_true ⟨(own.load_kept secretId now).returnsStored, trivial⟩ trivial
  | store secretId payload nonce rotationAt now =>
    refine ⟨fun faithful => own.ownFile_of_leavesOthers faithful.2, fun ownFile => ?_⟩
    refine ⟨(own.step_kept ownFile).returnsStored, ?_⟩
    by_cases accepted : service.accepts (safeId secretId) = true
    · exact own.store_leavesOthers accepted ownFile
    · intro other later _
      rw [step_refused accepted]

/-- In every history of a new vault, `load` returns what was stored under the id
and a store leaves the other ids alone, exactly when every secret is stored in
a file of its own. -/
theorem faithful_iff_ownFile (service : SecretsVaultService Nonce Ciphertext)
    (calls : List (VaultCall Nonce)) :
    EachStep (step service) (Faithful service) {} calls ↔
      EachStep (step service) (OwnFile service) {} calls :=
  eachStep_iff_of_invariant (OneIdAFile service)
    (fun _ _ own ownFile => own.step_kept ownFile)
    (fun _ call own => own.faithful_iff call) OneIdAFile.initial

end VaultHistory

/-! ## Sample vaults -/

/-- The text backwards, bound to its nonce. -/
def backwards : Cipher String (String × List Char) where
  encrypt := fun nonce text => (nonce, text.reverse)
  decrypt := fun nonce ciphertext =>
    if ciphertext.1 = nonce then some ciphertext.2.reverse else none
  undoes := by
    intro nonce text
    simp

/-- The metadata file lies elsewhere, or in the directory of the secrets. -/
def sampleVault (beside : Bool) : SecretsVaultService String (String × List Char) where
  cipher := backwards
  checksum := fun _ => "0123456789abcdef"
  accepts := fun safe => safe.length ≤ 244
  metadataId := if beside then some "metadata" else none
  metadataName := by
    intro name named
    cases beside with
    | false => cases named
    | true =>
      cases named
      decide

def apiKey (text : String) : Record where
  payload := [("api_key", .str text)]
  wellFormed := ⟨by simp, trivial, trivial⟩

def storeKey (secretId text : String) : VaultCall String :=
  .store secretId (apiKey text) "nonce" none "2025-01-02T00:00:00Z"

/-- Two ids that differ in a slash share a file, and the first secret stored
makes the metadata loadable as a secret. -/
theorem secrets_confused :
    ¬ EachStep (VaultHistory.step (sampleVault false)) (VaultHistory.Faithful (sampleVault false))
        {} [storeKey "oanda/live" "first", storeKey "oanda_live" "second"] ∧
      ¬ EachStep (VaultHistory.step (sampleVault true)) (VaultHistory.Faithful (sampleVault true))
        {} [storeKey "oanda" "first"] := by
  constructor
  · intro each
    have ownFile := (VaultHistory.OneIdAFile.initial.faithful_iff _).mp each.1
    exact absurd (ownFile (by decide)).1 (by decide)
  · intro each
    have ownFile := (VaultHistory.OneIdAFile.initial.faithful_iff _).mp each.1
    obtain ⟨-, -, besides⟩ := ownFile (by decide)
    cases besides "metadata" rfl with
    | inl same => exact absurd same (by decide)
    | inr written => exact written rfl

end FxToushi.Infra
