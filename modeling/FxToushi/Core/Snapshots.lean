import FxToushi.Core.Resync
import FxToushi.Py.JsonIndent

namespace FxToushi.Core.Snapshots

open FxToushi.Core.Resync Data Py

/-! # Snapshots

A snapshot is written to a temporary file, which then takes the place of the last
one.  A call may fail or be cut off anywhere; what it has written until then stays.
-/

inductive SnapshotError where
  | persistError
  | hashError
  | corruptedError
  | dataMismatchDetected
  | hashComputationError
deriving Repr, DecidableEq

def SnapshotError.value : SnapshotError → String
  | .persistError => "snapshot.persist_error"
  | .hashError => "snapshot.hash_error"
  | .corruptedError => "snapshot.corrupted"
  | .dataMismatchDetected => "snapshot.data_mismatch"
  | .hashComputationError => "snapshot.hash_computation_error"

inductive Raised where
  | runtimeError (message : String)
  | fileNotFound
  | unicodeDecode
  | attributeError
deriving Repr, DecidableEq

def raised (error : SnapshotError) : Raised := .runtimeError error.value

/-- The bytes of `latest.json` and of `latest.tmp`, where they exist. -/
structure SnapshotFiles where
  latest : Option (List UInt8) := none
  tmp : Option (List UInt8) := none
deriving Repr, DecidableEq

inductive Change where
  | openTmp
  | write (bytes : List UInt8)
  | replace

def SnapshotFiles.apply (files : SnapshotFiles) : Change → SnapshotFiles
  | .openTmp => { files with tmp := some [] }
  | .write bytes => { files with tmp := some bytes }
  | .replace => { latest := files.tmp, tmp := none }

/-- A write that is torn leaves some bytes; a file is opened, and replaced, at once. -/
def SnapshotFiles.tear (files : SnapshotFiles) (change : Change) (bytes : List UInt8) :
    SnapshotFiles :=
  match change with
  | .openTmp => files
  | .write _ => { files with tmp := some bytes }
  | .replace => files

structure PersistCall where
  snapshot : Value
  cfgHash : String
  dataHash : String
  actor : Option String := none
  now : UtcTime
  fault : Option (Interruption (List UInt8)) := none

def PersistCall.metadata (call : PersistCall) : Mapping :=
  [("cfg_hash", .str call.cfgHash),
    ("data_hash", .str call.dataHash),
    ("actor", call.actor.elim .null .str),
    ("created_at", .str call.now.isoText)]

def PersistCall.payload (call : PersistCall) : Value :=
  .map [("metadata", .map call.metadata), ("state", call.snapshot)]

def PersistCall.document (call : PersistCall) : List UInt8 :=
  Utf8.encode (Json.dumpsIndented 0 call.payload)

def PersistCall.changes (call : PersistCall) : List Change :=
  [.openTmp, .write call.document, .replace]

/-- How a call ends, with the checksum it returns, and the files it leaves. -/
def persist (sha256Path : List UInt8 → String) (files : SnapshotFiles) (call : PersistCall) :
    Except Raised String × SnapshotFiles :=
  if call.cfgHash = "" ∨ call.dataHash = "" then (.error (raised .hashError), files)
  else
    match interrupted SnapshotFiles.apply SnapshotFiles.tear files call.changes call.fault with
    | (true, files) => (.error (raised .persistError), files)
    | (false, files) => (.ok (sha256Path (files.latest.getD [])), files)

def restore (files : SnapshotFiles) : Except Raised Value :=
  match files.latest with
  | none => .error .fileNotFound
  | some bytes =>
    match Utf8.decode bytes with
    | none => .error .unicodeDecode
    | some text =>
      match Json.loads text with
      | none => .error (raised .corruptedError)
      | some (.map data) =>
        match orValue (field data "metadata") (.map []) with
        | .map metadata =>
          if (field metadata "cfg_hash").truth && (field metadata "data_hash").truth then
            .ok (field data "state")
          else .error (raised .hashError)
        | _ => .error .attributeError
      | some _ => .error .attributeError

/-- A report is only returned for hashes that match. -/
def compareHash (dataHash expectedHash : String) : Except Raised Bool :=
  if dataHash = "" ∨ expectedHash = "" then .error (raised .hashComputationError)
  else if dataHash = expectedHash then .ok true
  else .error (raised .dataMismatchDetected)

/-! ## One call -/

/-- The temporary file of the call has taken the place of the last snapshot. -/
def Lands (call : PersistCall) : Bool :=
  call.cfgHash != "" && call.dataHash != "" && call.fault.all fun fault => 3 ≤ fault.made

section Calls

variable {sha256Path : List UInt8 → String} {files : SnapshotFiles} {call : PersistCall}

def after (sha256Path : List UInt8 → String) (files : SnapshotFiles) (call : PersistCall) :
    SnapshotFiles := (persist sha256Path files call).2

theorem run_changes (files : SnapshotFiles) (call : PersistCall) :
    runFrom SnapshotFiles.apply files call.changes =
      { latest := some call.document, tmp := none } :=
  rfl

theorem interrupted_early (files : SnapshotFiles) (call : PersistCall)
    {fault : Interruption (List UInt8)} (early : fault.made < 3) :
    ∃ left, interrupted SnapshotFiles.apply SnapshotFiles.tear files call.changes (some fault) =
      (true, left) ∧ left.latest = files.latest := by
  obtain ⟨made, torn⟩ := fault
  have counts : made = 0 ∨ made = 1 ∨ made = 2 := by
    simp only at early
    omega
  rcases counts with rfl | rfl | rfl
  · cases torn <;> exact ⟨_, rfl, rfl⟩
  · cases torn <;> exact ⟨_, rfl, rfl⟩
  · cases torn <;> exact ⟨_, rfl, rfl⟩

theorem lands_iff : Lands call = true ↔
    ¬ (call.cfgHash = "" ∨ call.dataHash = "") ∧ ∀ fault, call.fault = some fault →
      3 ≤ fault.made := by
  rw [Lands, Bool.and_eq_true, Bool.and_eq_true, bne_iff_ne, bne_iff_ne, not_or]
  cases call.fault with
  | none => simp
  | some fault => simp

theorem persist_landed (sha256Path : List UInt8 → String) (files : SnapshotFiles)
    (lands : Lands call = true) :
    (persist sha256Path files call).2 = { latest := some call.document, tmp := none } ∧
      ((persist sha256Path files call).1 = .ok (sha256Path call.document) ∨
        (persist sha256Path files call).1 = .error (raised .persistError)) := by
  obtain ⟨hashes, late⟩ := lands_iff.mp lands
  have left : (interrupted SnapshotFiles.apply SnapshotFiles.tear files call.changes
      call.fault).2 = { latest := some call.document, tmp := none } := by
    cases fault : call.fault with
    | none => rfl
    | some given =>
      have made : call.changes.length ≤ given.made := late given fault
      exact (interrupted_late made).trans (run_changes files call)
  rw [persist, if_neg hashes]
  split
  · rename_i ended
    rw [ended] at left
    exact ⟨left, .inr rfl⟩
  · rename_i ended
    rw [ended] at left
    simp only at left
    rw [left]
    exact ⟨rfl, .inl rfl⟩

theorem persist_refused (sha256Path : List UInt8 → String) (files : SnapshotFiles)
    (refused : ¬ Lands call = true) :
    (persist sha256Path files call).2.latest = files.latest ∧
      ∃ error, (persist sha256Path files call).1 = .error error := by
  rw [lands_iff, not_and_or, not_not] at refused
  rw [persist]
  cases refused with
  | inl missing =>
    rw [if_pos missing]
    exact ⟨rfl, _, rfl⟩
  | inr early =>
    push Not at early
    obtain ⟨fault, given, early⟩ := early
    obtain ⟨left, ended, same⟩ := interrupted_early files call early
    rw [given, ended]
    split
    · exact ⟨rfl, _, rfl⟩
    · exact ⟨same, _, rfl⟩

theorem after_latest (sha256Path : List UInt8 → String) (files : SnapshotFiles)
    (call : PersistCall) :
    (after sha256Path files call).latest =
      if Lands call then some call.document else files.latest := by
  split
  · rename_i lands
    rw [after, (persist_landed sha256Path files lands).1]
  · rename_i refused
    exact (persist_refused sha256Path files refused).1

theorem landed_of_returned {checksum : String}
    (returned : (persist sha256Path files call).1 = .ok checksum) :
    Lands call = true ∧ checksum = sha256Path call.document := by
  by_cases lands : Lands call = true
  · refine ⟨lands, ?_⟩
    rcases (persist_landed sha256Path files lands).2 with same | failed
    · exact Except.ok.inj (returned.symm.trans same)
    · rw [failed] at returned
      cases returned
  · obtain ⟨error, failed⟩ := (persist_refused sha256Path files lands).2
    rw [failed] at returned
    cases returned

theorem wellFormed_payload (wellFormed : Json.WellFormed call.snapshot) :
    Json.WellFormed call.payload := by
  have actor : Json.WellFormed (call.actor.elim .null .str) := by
    cases call.actor with
    | none => trivial
    | some actor => trivial
  refine ⟨?_, ⟨?_, trivial, trivial, actor, trivial, trivial⟩, wellFormed, trivial⟩
  · simp
  · simp [PersistCall.metadata]

theorem restore_landed (lands : Lands call = true) (wellFormed : Json.WellFormed call.snapshot)
    (latest : files.latest = some call.document) : restore files = .ok call.snapshot := by
  have hashes := (lands_iff.mp lands).1
  rw [not_or] at hashes
  rw [restore, latest]
  simp only [PersistCall.document, Utf8.decode_encode,
    Json.loads_dumpsIndented (wellFormed_payload wellFormed)]
  simp [PersistCall.payload, PersistCall.metadata, field, Mapping.get?, orValue, Value.truth,
    hashes.1, hashes.2]

end Calls

/-! ## Runs of calls -/

section Runs

variable {sha256Path : List UInt8 → String} {files : SnapshotFiles} {calls : List PersistCall}

def lastLanded (calls : List PersistCall) : Option PersistCall := (calls.filter Lands).getLast?

theorem run_latest (sha256Path : List UInt8 → String) (files : SnapshotFiles)
    (calls : List PersistCall) :
    (runFrom (after sha256Path) files calls).latest =
      (lastLanded calls).elim files.latest fun call => some call.document := by
  unfold lastLanded
  induction calls using List.reverseRecOn with
  | nil => rfl
  | append_singleton calls call ih =>
    rw [runFrom, List.foldl_append, List.foldl_cons, List.foldl_nil, ← runFrom, after_latest, ih,
      List.filter_append]
    by_cases lands : Lands call = true
    · simp [lands]
    · simp [lands]

/-- Whatever fails and wherever, a snapshot that is restored is the last one that has landed, and
every call that returns has landed, with the checksum of what is read back. -/
theorem restore_run (sha256Path : List UInt8 → String) (files : SnapshotFiles)
    (calls : List PersistCall) (wellFormed : ∀ call ∈ calls, Json.WellFormed call.snapshot) :
    restore (runFrom (after sha256Path) files calls) =
        (lastLanded calls).elim (restore files) (fun call => .ok call.snapshot) ∧
      EachStep (after sha256Path)
        (fun files call => ∀ checksum, (persist sha256Path files call).1 = .ok checksum →
          Lands call = true ∧ checksum = sha256Path call.document) files calls := by
  refine ⟨?_, eachStep_of_forall fun _ _ _ => landed_of_returned⟩
  have latest := run_latest sha256Path files calls
  cases last : lastLanded calls with
  | none =>
    rw [last] at latest
    have same : (runFrom (after sha256Path) files calls).latest = files.latest := latest
    rw [restore, same]
    rfl
  | some call =>
    rw [last] at latest
    obtain ⟨member, lands⟩ := List.mem_filter.mp (List.mem_of_getLast? last)
    exact restore_landed lands (wellFormed call member) latest

end Runs

def boardCall (board : String) (fault : Option (Interruption (List UInt8))) : PersistCall where
  snapshot := .map [("board", .str board)]
  cfgHash := "sha256:c0"
  dataHash := "sha256:d0"
  now := { micros := 63844891200000000, covered := by decide }
  fault

/-- The write of the second snapshot is torn, and the first one is restored. -/
theorem restore_tornBoard :
    restore (runFrom (after (fun _ => "sha256:0")) {}
        [boardCall "open" none, boardCall "halted" (some { made := 1, torn := some [123, 10] })]) =
      .ok (.map [("board", .str "open")]) :=
  (restore_run (fun _ => "sha256:0") {} _ (by
    intro call member
    rcases List.mem_cons.mp member with rfl | member
    · exact ⟨List.nodup_singleton _, trivial, trivial⟩
    · obtain rfl := List.mem_singleton.mp member
      exact ⟨List.nodup_singleton _, trivial, trivial⟩)).1

end FxToushi.Core.Snapshots
