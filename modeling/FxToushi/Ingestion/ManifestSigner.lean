import FxToushi.Data.Dict
import FxToushi.Data.Runs
import FxToushi.Py.JsonIndent
import FxToushi.Py.JsonSorted

namespace FxToushi.Ingestion.ManifestSigner

open Data Py

/-! # Signed manifests

A manifest is signed by the digest of its canonical text, and the signature is
kept under the manifest's stem.  Others may write the manifests at any time.
The digest and Ed25519 stand outside.
-/

/-- `verify` is false where a signature is no hex text, or is not one of the message. -/
structure Cryptography (PrivateKey PublicKey : Type) where
  sha256 : List Char → String
  sign : PrivateKey → String → String
  verify : PublicKey → String → String → Bool

inductive SignerError where
  | fileNotFound (path : String)
  | manifestSignatureError (message : String)
  | jsonDecodeError
  | attributeError
  | unreadableKey
deriving Repr, DecidableEq

/-- What is loaded from a PEM file. -/
inductive KeyFile (Key : Type) where
  | unreadable
  | otherType
  | holds (key : Key)

def KeyFile.load {Key : Type} (kind : String) : KeyFile Key → Except SignerError Key
  | .unreadable => .error .unreadableKey
  | .otherType => .error (.manifestSignatureError ("unsupported " ++ kind ++ " key type"))
  | .holds key => .ok key

structure ManifestPath where
  directory : String
  name : String
deriving Repr, DecidableEq

namespace ManifestPath

def text (path : ManifestPath) : String := path.directory ++ "/" ++ path.name

/-- The name without its last suffix. -/
def stem (path : ManifestPath) : String :=
  let reversed := path.name.toList.reverse
  match reversed.takeWhile (· ≠ '.'), reversed.dropWhile (· ≠ '.') with
  | _ :: _, _ :: last :: front => String.ofList (last :: front).reverse
  | _, _ => path.name

end ManifestPath

/-- What the JSON of a file reads as. -/
structure JsonFile where
  payload : Value
  wellFormed : Json.WellFormed payload

/-- The manifests, with `none` for a text that is no JSON, and the signature files. -/
structure SignerFiles where
  manifests : Dict ManifestPath (Option JsonFile)
  signatures : Dict String (List Char)

structure ManifestSignature where
  manifestPath : String
  sha256 : String
  signedAt : String
  signer : String
  signature : String
  signaturePath : String
deriving Repr, DecidableEq

/-- What the signature file holds. -/
def ManifestSignature.document (made : ManifestSignature) : Mapping :=
  [("schema_version", .str "data.manifest.signature.v1"),
    ("manifest_path", .str made.manifestPath),
    ("sha256", .str made.sha256),
    ("signed_at", .str made.signedAt),
    ("signer", .str made.signer),
    ("signature", .str made.signature)]

structure ManifestVerification where
  status : String
  manifestPath : String
  signaturePath : String
  sha256 : String
  signature : String
  signer : Value

/-- A call of `sign`. -/
structure SignCall (PrivateKey : Type) where
  manifestPath : ManifestPath
  privateKey : KeyFile PrivateKey
  signer : String := "local"
  now : String

section Signer

variable {PrivateKey PublicKey : Type} (crypto : Cryptography PrivateKey PublicKey)
  (signatureDir : String)

def signaturePath (path : ManifestPath) : String := signatureDir ++ "/" ++ path.stem ++ ".sig"

def opened {File : Type} (path : String) : Option File → Except SignerError File
  | none => .error (.fileNotFound path)
  | some file => .ok file

def loadJson (text : List Char) : Except SignerError Value :=
  match Json.loads text with
  | none => .error .jsonDecodeError
  | some payload => .ok payload

def manifestSha : Option JsonFile → Except SignerError String
  | none => .error .jsonDecodeError
  | some file => .ok (crypto.sha256 (Json.canonical file.payload))

/-- The signature that a call makes. -/
def makeSignature (files : SignerFiles) (call : SignCall PrivateKey) :
    Except SignerError ManifestSignature := do
  let manifest ← opened call.manifestPath.text (files.manifests.get? call.manifestPath)
  let shaValue ← manifestSha crypto manifest
  let key ← call.privateKey.load "private"
  return {
    manifestPath := call.manifestPath.text
    sha256 := shaValue
    signedAt := call.now
    signer := call.signer
    signature := crypto.sign key shaValue
    signaturePath := signaturePath signatureDir call.manifestPath }

def sign (files : SignerFiles) (call : SignCall PrivateKey) :
    SignerFiles × Except SignerError ManifestSignature :=
  match makeSignature crypto signatureDir files call with
  | .error error => (files, .error error)
  | .ok made =>
    ({ files with
        signatures := files.signatures.set made.signaturePath
          (Json.dumpsIndented 0 (.map made.document)) }, .ok made)

def readSignature : Value → Except SignerError (Mapping × String)
  | .map payload =>
    match Mapping.get? payload "signature" with
    | some (.str signature) => .ok (payload, signature)
    | _ => .error (.manifestSignatureError "signature missing in signature file")
  | _ => .error .attributeError

def verify (files : SignerFiles) (path : ManifestPath) (signaturePath : String)
    (publicKey : KeyFile PublicKey) : Except SignerError ManifestVerification := do
  let manifest ← opened path.text (files.manifests.get? path)
  let written ← opened signaturePath (files.signatures.get? signaturePath)
  let payload ← loadJson written
  let shaValue ← manifestSha crypto manifest
  let (payload, signature) ← readSignature payload
  let key ← publicKey.load "public"
  return {
    status := if crypto.verify key signature shaValue then "ok" else "mismatch"
    manifestPath := path.text
    signaturePath
    sha256 := shaValue
    signature
    signer := (payload.get? "signer").getD .null }

/-! ## Runs -/

/-- A manifest is written by others, or signed. -/
inductive Action (PrivateKey : Type) where
  | write (path : ManifestPath) (manifest : Option JsonFile)
  | sign (call : SignCall PrivateKey)

def step (files : SignerFiles) : Action PrivateKey → SignerFiles
  | .write path manifest => { files with manifests := files.manifests.set path manifest }
  | .sign call => (sign crypto signatureDir files call).1

/-- The action writes the signature file of that path. -/
def Signs (path : String) (files : SignerFiles) (action : Action PrivateKey) : Prop :=
  ∃ call made, action = .sign call ∧ makeSignature crypto signatureDir files call = .ok made ∧
    made.signaturePath = path

/-- For two texts, the digest tells them apart, and so does a signature of the
one's digest. -/
structure TellsApart (privateKey : PrivateKey) (publicKey : PublicKey)
    (first second : List Char) : Prop where
  digest : crypto.sha256 first = crypto.sha256 second → first = second
  accepts : crypto.verify publicKey (crypto.sign privateKey (crypto.sha256 first))
    (crypto.sha256 first) = true
  rejects : crypto.sha256 first ≠ crypto.sha256 second →
    crypto.verify publicKey (crypto.sign privateKey (crypto.sha256 first))
      (crypto.sha256 second) = false

end Signer

section Runs

variable {PrivateKey PublicKey : Type} {crypto : Cryptography PrivateKey PublicKey}
  {signatureDir : String} {files : SignerFiles}

theorem signatures_step {path : String} {action : Action PrivateKey}
    (other : ¬ Signs crypto signatureDir path files action) :
    (step crypto signatureDir files action).signatures.get? path = files.signatures.get? path := by
  cases action with
  | write target manifest => rfl
  | sign call =>
    rw [step, sign]
    split
    · rfl
    · rename_i made signed
      rw [Dict.get?_set, if_neg fun same => other ⟨call, made, rfl, signed, same⟩]

theorem signatures_run {path : String} {actions : List (Action PrivateKey)}
    (others : EachStep (step crypto signatureDir)
      (fun files action => ¬ Signs crypto signatureDir path files action) files actions) :
    (runFrom (step crypto signatureDir) files actions).signatures.get? path =
      files.signatures.get? path := by
  induction actions generalizing files with
  | nil => rfl
  | cons action rest ih =>
    rw [runFrom, List.foldl_cons]
    exact (ih others.2).trans (signatures_step others.1)

theorem wellFormed_document (made : ManifestSignature) :
    Json.WellFormed (.map made.document) := by
  refine ⟨?_, ?_⟩
  · simp [ManifestSignature.document]
  · simp [ManifestSignature.document, Json.WellFormedEntries, Json.WellFormed]

theorem loadJson_document (made : ManifestSignature) :
    loadJson (Json.dumpsIndented 0 (.map made.document)) = .ok (.map made.document) := by
  rw [loadJson, Json.loads_dumpsIndented (wellFormed_document made)]

theorem readSignature_document (made : ManifestSignature) :
    readSignature (.map made.document) = .ok (made.document, made.signature) := by
  rfl

theorem makeSignature_holds (crypto : Cryptography PrivateKey PublicKey) (signatureDir : String)
    {files : SignerFiles} {call : SignCall PrivateKey} {signed : JsonFile} {key : PrivateKey}
    (stands : files.manifests.get? call.manifestPath = some (some signed))
    (held : call.privateKey = .holds key) :
    makeSignature crypto signatureDir files call = .ok {
      manifestPath := call.manifestPath.text
      sha256 := crypto.sha256 (Json.canonical signed.payload)
      signedAt := call.now
      signer := call.signer
      signature := crypto.sign key (crypto.sha256 (Json.canonical signed.payload))
      signaturePath := signaturePath signatureDir call.manifestPath } := by
  rw [makeSignature, stands, held]
  rfl

theorem signed_run {before after : List (Action PrivateKey)} {call : SignCall PrivateKey}
    {made : ManifestSignature}
    (goes : makeSignature crypto signatureDir (runFrom (step crypto signatureDir) files before)
      call = .ok made)
    (last : EachStep (step crypto signatureDir)
      (fun files action => ¬ Signs crypto signatureDir made.signaturePath files action)
      (runFrom (step crypto signatureDir) files (before ++ [.sign call])) after) :
    (runFrom (step crypto signatureDir) files (before ++ .sign call :: after)).signatures.get?
        made.signaturePath = some (Json.dumpsIndented 0 (.map made.document)) := by
  have split : before ++ Action.sign call :: after = (before ++ [.sign call]) ++ after := by simp
  rw [split, runFrom, List.foldl_append]
  refine (signatures_run last).trans ?_
  rw [runFrom, List.foldl_append, List.foldl_cons, List.foldl_nil, step, sign]
  rw [runFrom] at goes
  rw [goes]
  simp only [Dict.get?_set, if_true]

theorem verify_made {path : ManifestPath} {current : JsonFile} {made : ManifestSignature}
    {publicKey : PublicKey} (stands : files.manifests.get? path = some (some current))
    (written : files.signatures.get? made.signaturePath =
      some (Json.dumpsIndented 0 (.map made.document))) :
    verify crypto files path made.signaturePath (.holds publicKey) = .ok {
      status :=
        if crypto.verify publicKey made.signature (crypto.sha256 (Json.canonical current.payload))
        then "ok" else "mismatch"
      manifestPath := path.text
      signaturePath := made.signaturePath
      sha256 := crypto.sha256 (Json.canonical current.payload)
      signature := made.signature
      signer := .str made.signer } := by
  rw [verify, stands, written, opened, opened]
  simp only [bind, Except.bind, loadJson_document, manifestSha, readSignature_document,
    KeyFile.load]
  rfl

theorem TellsApart.verify_iff {privateKey : PrivateKey} {publicKey : PublicKey}
    {first second : List Char} (apart : TellsApart crypto privateKey publicKey first second) :
    crypto.verify publicKey (crypto.sign privateKey (crypto.sha256 first))
      (crypto.sha256 second) = true ↔ first = second := by
  constructor
  · intro verified
    by_contra different
    rw [apart.rejects fun same => different (apart.digest same)] at verified
    cases verified
  · rintro rfl
    exact apart.accepts

/-- What a signature says of a manifest, at any time after it was made: whether the
manifest is the document that was signed. -/
theorem verify_run (before after : List (Action PrivateKey)) {call : SignCall PrivateKey}
    {signed current : JsonFile} {privateKey : PrivateKey} {publicKey : PublicKey}
    {path : ManifestPath}
    (stood : (runFrom (step crypto signatureDir) files before).manifests.get? call.manifestPath =
      some (some signed))
    (held : call.privateKey = .holds privateKey)
    (last : EachStep (step crypto signatureDir)
      (fun files action =>
        ¬ Signs crypto signatureDir (signaturePath signatureDir call.manifestPath) files action)
      (runFrom (step crypto signatureDir) files (before ++ [.sign call])) after)
    (stands : (runFrom (step crypto signatureDir) files
      (before ++ .sign call :: after)).manifests.get? path = some (some current))
    (apart : TellsApart crypto privateKey publicKey (Json.canonical signed.payload)
      (Json.canonical current.payload)) :
    ∃ verification, verify crypto
        (runFrom (step crypto signatureDir) files (before ++ .sign call :: after)) path
        (signaturePath signatureDir call.manifestPath) (.holds publicKey) = .ok verification ∧
      (verification.status = "ok" ↔ Json.SameDocument signed.payload current.payload) ∧
      (verification.status = "mismatch" ↔ ¬ Json.SameDocument signed.payload current.payload) ∧
      verification.signer = .str call.signer := by
  have made := makeSignature_holds crypto signatureDir stood held
  have written := signed_run made last
  refine ⟨_, verify_made stands written, ?_⟩
  rw [← Json.canonical_eq_iff signed.wellFormed current.wellFormed, ← apart.verify_iff]
  by_cases verified : crypto.verify publicKey (crypto.sign privateKey
      (crypto.sha256 (Json.canonical signed.payload)))
      (crypto.sha256 (Json.canonical current.payload)) = true
  · simp [verified]
  · simp [verified]

end Runs

/-! ## A sample manifest -/

def textItself : Cryptography Unit Unit where
  sha256 := String.ofList
  sign _ digest := digest
  verify _ signature digest := signature == digest

def dataManifest : ManifestPath := ⟨"reports", "data_manifest.json"⟩

def oneEntry : JsonFile where
  payload := .map [("schema_version", .str "data.manifest.v1"), ("entries", .list [.str "bars"])]
  wellFormed := by decide +kernel

def oneEntryFirst : JsonFile where
  payload := .map [("entries", .list [.str "bars"]), ("schema_version", .str "data.manifest.v1")]
  wellFormed := by decide +kernel

def firstSigning : SignCall Unit where
  manifestPath := dataManifest
  privateKey := .holds ()
  now := "2024-03-01T12:00:00Z"

/-- The manifest is written with its keys in another order, and still verifies. -/
theorem verify_reordered : ∃ verification,
    verify textItself (runFrom (step textItself "signatures") ⟨.empty, .empty⟩
      ([.write dataManifest (some oneEntry)] ++ .sign firstSigning ::
        [.write dataManifest (some oneEntryFirst)])) dataManifest
      (signaturePath "signatures" dataManifest) (.holds ()) = .ok verification ∧
    verification.status = "ok" := by
  have apart : TellsApart textItself () () (Json.canonical oneEntry.payload)
      (Json.canonical oneEntryFirst.payload) := by
    constructor
    · exact fun same => String.ofList_injective same
    · exact beq_self_eq_true _
    · exact fun different => beq_eq_false_iff_ne.mpr different
  have last : ¬ Signs textItself "signatures" (signaturePath "signatures" dataManifest)
      (runFrom (step textItself "signatures") ⟨.empty, .empty⟩
        [.write dataManifest (some oneEntry), .sign firstSigning])
      (.write dataManifest (some oneEntryFirst)) := by
    rintro ⟨call, made, other, -⟩
    cases other
  have stood : (runFrom (step textItself "signatures") ⟨.empty, .empty⟩
      [.write dataManifest (some oneEntry)]).manifests.get? firstSigning.manifestPath =
      some (some oneEntry) := by
    simp [runFrom, step, Dict.get?_set, firstSigning]
  have stands : (runFrom (step textItself "signatures") ⟨.empty, .empty⟩
      ([.write dataManifest (some oneEntry)] ++ .sign firstSigning ::
        [.write dataManifest (some oneEntryFirst)])).manifests.get? dataManifest =
      some (some oneEntryFirst) := by
    simp [runFrom, step, Dict.get?_set]
  obtain ⟨verification, verified, ok, -⟩ := verify_run [.write dataManifest (some oneEntry)]
    [.write dataManifest (some oneEntryFirst)] stood rfl ⟨last, trivial⟩ stands apart
  refine ⟨verification, verified, ok.mpr ?_⟩
  rw [oneEntry, oneEntryFirst, Json.SameDocument]
  exact ⟨rfl, ⟨_, rfl, rfl⟩, ⟨_, rfl, ⟨_, _, rfl, rfl, rfl⟩⟩, trivial⟩

end FxToushi.Ingestion.ManifestSigner
