import FxToushi.Py.IsoFormat
import FxToushi.Py.JsonQuoting
import FxToushi.Py.Lines

namespace FxToushi.Core

open Py

/-! # Logs of JSON lines

The health history, the resync queue and the log of shadow fills append one
document a line and read the lines back.  A file is the text it holds; a file
that does not exist holds nothing.
-/

def appendLine (content : List Char) (payload : Mapping) : List Char :=
  content ++ (Json.dumps true (.map payload) ++ ['\n'])

/-- `line.strip()`. -/
def stripLine (line : List Char) : List Char := (strip (String.ofList line)).toList

/-- A blank line, and one that does not load, is passed over. -/
def loadLine (trim : List Char → List Char) (line : List Char) : Option Value :=
  if stripLine line = [] then none else Json.loads (trim line)

def readLines (trim : List Char → List Char) (content : List Char) : List Value :=
  (splitlines content).filterMap (loadLine trim)

namespace HealthStateStore

def appendJsonl (content : List Char) (payload : Mapping) : List Char := appendLine content payload

/-- The stripped line is loaded. -/
def readHistory (content : List Char) : List Value := readLines stripLine content

end HealthStateStore

namespace ResyncQueue

def appendJsonl (content : List Char) (payload : Mapping) : List Char := appendLine content payload

def readJsonl (content : List Char) : List Value := readLines id content

end ResyncQueue

namespace FillShadowStore

def appendJsonl (content : List Char) (payload : Mapping) : List Char := appendLine content payload

def readJsonl (content : List Char) : List Value := readLines id content

end FillShadowStore

/-! ## What one record is read as -/

/-- A payload as the sources pass it: floats print as they read, and a key is
given once. -/
structure Record where
  payload : Mapping
  wellFormed : Json.WellFormed (.map payload)

/-- The line breaks that a document does not escape. -/
def foreignBreaks : List Char := ['\u0085', '\u2028', '\u2029']

/-- No text or key of the record has one of them. -/
def Record.OneLine (record : Record) : Prop :=
  ∀ char ∈ Json.chars (.map record.payload), char ∉ foreignBreaks

instance : DecidablePred Record.OneLine := fun record =>
  List.decidableBAll (fun char => char ∉ foreignBreaks) (Json.chars (.map record.payload))

def Record.document (record : Record) : List Char := Json.dumps true (.map record.payload)

theorem oneLine_of_every {records : List Record}
    (every : records.all (fun record => (Json.chars (.map record.payload)).all
      (fun char => !foreignBreaks.contains char)) = true) : ∀ record ∈ records, record.OneLine := by
  intro record member char inTexts breaks
  have plain := List.all_eq_true.mp (List.all_eq_true.mp every record member) char inTexts
  simp [breaks] at plain

theorem isLineBreak_iff {char : Char} (visible : 32 ≤ char.toNat) :
    isLineBreak char = true ↔ char ∈ foreignBreaks := by
  have control : ∀ other : Char, other.toNat < 32 → char ≠ other := by
    rintro other low rfl
    omega
  simp only [isLineBreak, List.contains_iff_mem, List.mem_cons, foreignBreaks,
    control '\n' (by decide), control '\u000b' (by decide), control '\u000c' (by decide),
    control '\r' (by decide), control '\u001c' (by decide), control '\u001d' (by decide),
    control '\u001e' (by decide), false_or]

theorem foreign_of_break {char : Char} (breaks : char ∈ foreignBreaks) : 127 ≤ char.toNat := by
  have every : ∀ other ∈ foreignBreaks, 127 ≤ other.toNat :=
    List.all_iff_forall_prop.mp (by decide)
  exact every char breaks

namespace Record

variable (record : Record)

theorem renders : Json.Renders record.document (Json.chars (.map record.payload)) :=
  Json.renders_dumps true _ record.wellFormed

theorem scanned : Json.scan .outside record.document = some .outside :=
  Json.scan_of_loads (Json.loads_dumps true record.wellFormed)

theorem break_mem_iff {char : Char} (member : char ∈ record.document) :
    isLineBreak char = true ↔ char ∈ foreignBreaks :=
  isLineBreak_iff (record.renders.visible char member)

theorem oneLine_iff : record.OneLine ↔ Unbroken record.document := by
  constructor
  · intro oneLine char member
    rw [← Bool.not_eq_true, record.break_mem_iff member]
    intro breaks
    have inTexts := (record.renders.foreign char (foreign_of_break breaks)).mp member
    exact oneLine char inTexts breaks
  · intro unbroken char inTexts breaks
    have member := (record.renders.foreign char (foreign_of_break breaks)).mpr inTexts
    have other := unbroken char member
    rw [← Bool.not_eq_true, record.break_mem_iff member] at other
    exact other breaks

end Record

/-! ## Plain texts -/

/-- No line break that a document does not escape. -/
def PlainText (text : List Char) : Prop := ∀ char ∈ text, char ∉ foreignBreaks

theorem plainText_of_low {text : List Char} (low : ∀ char ∈ text, char.toNat < 128) :
    PlainText text := by
  intro char member breaks
  have every : ∀ other ∈ foreignBreaks, 128 ≤ other.toNat :=
    List.all_iff_forall_prop.mp (by decide)
  have := low char member
  have := every char breaks
  omega

theorem plainText_of_all {text : List Char}
    (low : text.all (fun char => char.toNat < 128) = true) : PlainText text :=
  plainText_of_low fun char member => of_decide_eq_true (List.all_eq_true.mp low char member)

theorem plainText_isoText (time : UtcTime) : PlainText time.isoText.toList := by
  refine plainText_of_low fun char member => ?_
  exact UtcTime.low_of_written (List.all_eq_true.mp (UtcTime.written_isoText time) char member)

theorem PlainText.append {first second : List Char} (left : PlainText first)
    (right : PlainText second) : PlainText (first ++ second) := by
  intro char member
  exact (List.mem_append.mp member).elim (left char) (right char)

theorem mem_entryChars_iff {entries : Mapping} {char : Char} :
    char ∈ Json.entryChars entries ↔
      ∃ entry ∈ entries, char ∈ entry.1.toList ∨ char ∈ Json.chars entry.2 := by
  induction entries with
  | nil => simp [Json.entryChars]
  | cons entry rest ih => simp [Json.entryChars, ih, or_assoc]

theorem mem_itemChars_iff {items : List Value} {char : Char} :
    char ∈ Json.itemChars items ↔ ∃ item ∈ items, char ∈ Json.chars item := by
  induction items with
  | nil => simp [Json.itemChars]
  | cons item rest ih => simp [Json.itemChars, ih]

theorem plainText_payload {payload : Mapping} {keys : List String}
    (keyed : payload.map Prod.fst = keys)
    (low : keys.all (fun key => key.toList.all fun char => char.toNat < 128) = true)
    (values : ∀ entry ∈ payload, PlainText (Json.chars entry.2)) :
    PlainText (Json.chars (.map payload)) := by
  intro char inside
  obtain ⟨entry, among, inKey | inValue⟩ := mem_entryChars_iff.mp inside
  · have member : entry.1 ∈ keys := keyed ▸ List.mem_map_of_mem among
    exact plainText_of_all (List.all_eq_true.mp low entry.1 member) char inKey
  · exact values entry among char inValue

/-! ## Trimming a line -/

/-- Only white space is taken off the ends. -/
structure Trims (trim : List Char → List Char) : Prop where
  split : ∀ line, ∃ lead trail, line = lead ++ (trim line ++ trail) ∧
    (∀ char ∈ lead, isSpace char = true) ∧ ∀ char ∈ trail, isSpace char = true
  document : ∀ record : Record, trim record.document = record.document

theorem stripLine_split (line : List Char) :
    ∃ lead trail, line = lead ++ (stripLine line ++ trail) ∧
      (∀ char ∈ lead, isSpace char = true) ∧ ∀ char ∈ trail, isSpace char = true := by
  let rest := line.dropWhile isSpace
  refine ⟨line.takeWhile isSpace, rest.rtakeWhile isSpace, ?_, ?_, ?_⟩
  · rw [stripLine, strip_toList, String.toList_ofList, List.rdropWhile_append_rtakeWhile,
      List.takeWhile_append_dropWhile]
  · intro char member
    exact List.mem_takeWhile_imp member
  · intro char member
    exact List.mem_rtakeWhile_imp member

theorem dumpsMoreEntries_ends (entries : List (String × Value)) :
    ∃ front, Json.dumpsMoreEntries true entries = front ++ ['\x7d'] := by
  induction entries with
  | nil => exact ⟨[], rfl⟩
  | cons entry rest ih =>
    obtain ⟨key, value⟩ := entry
    obtain ⟨front, same⟩ := ih
    refine ⟨',' :: (Json.gap true ++ (Json.quote key ++ ':' :: (Json.gap true ++
      (Json.dumps true value ++ front)))), ?_⟩
    rw [Json.dumpsMoreEntries, same]
    simp

theorem document_trimmed (record : Record) : Trimmed record.document := by
  have closed : ∃ front, record.document = '\x7b' :: (front ++ ['\x7d']) := by
    rw [Record.document, Json.dumps]
    cases record.payload with
    | nil => exact ⟨[], rfl⟩
    | cons entry rest =>
      obtain ⟨key, value⟩ := entry
      obtain ⟨front, same⟩ := dumpsMoreEntries_ends rest
      refine ⟨Json.quote key ++ ':' :: (Json.gap true ++ (Json.dumps true value ++ front)), ?_⟩
      rw [Json.dumpsEntries, same]
      simp
  obtain ⟨front, same⟩ := closed
  rw [same]
  constructor
  · intro char first
    cases first
    rfl
  · intro char last
    rw [← List.cons_append, List.getLast?_concat] at last
    cases last
    rfl

theorem trims_stripLine : Trims stripLine where
  split := stripLine_split
  document := by
    intro record
    have kept : strip (String.ofList record.document) = String.ofList record.document :=
      strip_eq_of_trimmed (by rw [String.toList_ofList]; exact document_trimmed record)
    rw [stripLine, kept, String.toList_ofList]

theorem trims_id : Trims id where
  split := fun line => ⟨[], [], by simp, by simp, by simp⟩
  document := fun _ => rfl

theorem scanStep_space {char : Char} (space : isSpace char = true) {quoting next : Json.Quoting}
    (stepped : Json.scanStep quoting char = some next) (reading : quoting ≠ .escaped) :
    next = quoting := by
  have quote : char ≠ '"' := by
    rintro rfl
    cases space
  have backslash : char ≠ '\\' := by
    rintro rfl
    cases space
  cases quoting with
  | outside =>
    rw [Json.scanStep, if_neg quote] at stepped
    split at stepped
    · exact (Option.some.inj stepped).symm
    · cases stepped
  | inside =>
    rw [Json.scanStep, if_neg quote, if_neg backslash] at stepped
    exact (Option.some.inj stepped).symm
  | escaped => exact absurd rfl reading

theorem scan_spaces {spaces : List Char} (every : ∀ char ∈ spaces, isSpace char = true)
    {quoting after : Json.Quoting} (scanned : Json.scan quoting spaces = some after)
    (reading : quoting ≠ .escaped) : after = quoting := by
  induction spaces with
  | nil => exact (Option.some.inj scanned).symm
  | cons char rest ih =>
    obtain ⟨space, later⟩ := List.forall_mem_cons.mp every
    obtain ⟨next, stepped, scannedRest⟩ := Option.bind_eq_some_iff.mp scanned
    obtain rfl := scanStep_space space stepped reading
    exact ih later scannedRest

/-! ## What a broken record is read as -/

section Broken

variable {trim : List Char → List Char} {line : List Char} {value : Value}

theorem loads_of_loadLine (loaded : loadLine trim line = some value) :
    Json.loads (trim line) = some value := by
  unfold loadLine at loaded
  split at loaded
  · cases loaded
  · exact loaded

theorem scan_line (trims : Trims trim) {after : Json.Quoting}
    (scanned : Json.scan .outside line = some after) (loaded : loadLine trim line = some value) :
    after = .outside := by
  obtain ⟨lead, trail, split, leadSpaces, trailSpaces⟩ := trims.split line
  rw [split] at scanned
  obtain ⟨first, scannedLead, scanned⟩ := Json.scan_of_append scanned
  obtain rfl := scan_spaces leadSpaces scannedLead (by decide)
  obtain ⟨second, scannedCore, scannedTrail⟩ := Json.scan_of_append scanned
  rw [Json.scan_of_loads (loads_of_loadLine loaded)] at scannedCore
  cases scannedCore
  exact scan_spaces trailSpaces scannedTrail (by decide)

theorem chars_of_line (trims : Trims trim) {after : Json.Quoting}
    (scanned : Json.scan .inside line = some after) (loaded : loadLine trim line = some value) :
    ∀ char ∈ Json.chars value, char ∈ line := by
  obtain ⟨lead, trail, split, leadSpaces, -⟩ := trims.split line
  rw [split] at scanned
  obtain ⟨first, scannedLead, scanned⟩ := Json.scan_of_append scanned
  obtain rfl := scan_spaces leadSpaces scannedLead (by decide)
  obtain ⟨second, scannedCore, -⟩ := Json.scan_of_append scanned
  intro char member
  have inCore := Json.chars_of_cut scannedCore (loads_of_loadLine loaded) char member
  rw [split]
  exact List.mem_append_right _ (List.mem_append_left _ inCore)

theorem scanStep_break {char : Char} (breaks : char ∈ foreignBreaks) {quoting next : Json.Quoting}
    (stepped : Json.scanStep quoting char = some next) : quoting ≠ .outside ∧ next = .inside := by
  have fromOutside : ∀ other ∈ foreignBreaks, Json.scanStep .outside other = none :=
    List.all_iff_forall_prop.mp (by decide)
  have fromInside : ∀ other ∈ foreignBreaks, Json.scanStep .inside other = some .inside :=
    List.all_iff_forall_prop.mp (by decide)
  cases quoting with
  | outside =>
    rw [fromOutside char breaks] at stepped
    cases stepped
  | inside =>
    rw [fromInside char breaks] at stepped
    exact ⟨by decide, (Option.some.inj stepped).symm⟩
  | escaped => exact ⟨by decide, (Option.some.inj stepped).symm⟩

/-- A line of an ended record is followed in the record, or is its last. -/
theorem after_of_record {record before after : List Char}
    (split : record ++ ['\n'] = before ++ (line ++ after)) (unbroken : Unbroken line)
    (ended : Ended line after) :
    ∃ later, record = before ++ (line ++ later) ∧ (later = [] → after = ['\n']) ∧
      ∀ char ∈ later.head?, isLineBreak char = true := by
  rcases List.eq_nil_or_concat after with rfl | ⟨later, last, rfl⟩
  · have nonempty : line ≠ [] := fun empty => ended.1 empty rfl
    rw [List.append_nil] at split
    have last : (before ++ line).getLast? = some '\n' := by
      rw [← split, List.getLast?_concat]
    rw [List.getLast?_append_of_ne_nil _ nonempty] at last
    exact absurd (unbroken _ (List.mem_of_getLast? last)) (by decide)
  · rw [List.concat_eq_append] at split ended ⊢
    rw [← List.append_assoc, ← List.append_assoc] at split
    obtain ⟨same, closing⟩ := List.append_inj' split rfl
    refine ⟨later, by rw [same, List.append_assoc], ?_, ?_⟩
    · rintro rfl
      exact closing.symm
    · intro char first
      refine ended.2 char ?_
      rw [List.head?_append, Option.mem_def.mp first]
      rfl

/-- No line of a broken record loads as a value with one of its line breaks. -/
theorem oneLine_of_line (trims : Trims trim) {record : Record} (broken : ¬ record.OneLine)
    (member : line ∈ splitlines (record.document ++ ['\n']))
    (loaded : loadLine trim line = some value) :
    ∀ char ∈ Json.chars value, char ∉ foreignBreaks := by
  cases lines : splitlines (record.document ++ ['\n']) with
  | nil => rw [lines] at member; cases member
  | cons first more =>
    rw [lines] at member
    cases List.mem_cons.mp member with
    | inl same =>
      subst same
      obtain ⟨after, split, unbroken, ended⟩ := splitlines_head lines
      have fromStart : record.document ++ ['\n'] = [] ++ (line ++ after) := split
      obtain ⟨later, whole, -, breaks⟩ := after_of_record fromStart unbroken ended
      rw [List.nil_append] at whole
      cases later with
      | nil =>
        rw [List.append_nil] at whole
        exact absurd (record.oneLine_iff.mpr (whole ▸ unbroken)) broken
      | cons breaker rest =>
        have inside : breaker ∈ record.document := by simp [whole]
        have foreign := (record.break_mem_iff inside).mp (breaks breaker rfl)
        have scanned := record.scanned
        rw [whole] at scanned
        obtain ⟨middle, scannedLine, scanned⟩ := Json.scan_of_append scanned
        obtain ⟨next, stepped, -⟩ := Option.bind_eq_some_iff.mp scanned
        exact absurd (scan_line trims scannedLine loaded) (scanStep_break foreign stepped).1
    | inr inMore =>
      have inTail : line ∈ (splitlines (record.document ++ ['\n'])).tail := by
        rw [lines]
        exact inMore
      obtain ⟨before, breaker, after, split, breaks, unbroken, ended⟩ := splitlines_tail inTail
      have fromBreak : record.document ++ ['\n'] = (before ++ [breaker]) ++ (line ++ after) := by
        rw [split, List.append_assoc, List.singleton_append]
      obtain ⟨later, whole, -, -⟩ := after_of_record fromBreak unbroken ended
      have inside : breaker ∈ record.document := by simp [whole]
      have foreign := (record.break_mem_iff inside).mp breaks
      have scanned := record.scanned
      rw [whole, List.append_assoc, List.singleton_append] at scanned
      obtain ⟨middle, -, scanned⟩ := Json.scan_of_append scanned
      obtain ⟨next, stepped, scanned⟩ := Option.bind_eq_some_iff.mp scanned
      obtain rfl := (scanStep_break foreign stepped).2
      obtain ⟨ending, scannedLine, -⟩ := Json.scan_of_append scanned
      intro char inValue breaksLine
      have inLine := chars_of_line trims scannedLine loaded char inValue
      have other := unbroken char inLine
      have inDocument : char ∈ record.document := by simp [whole, inLine]
      rw [(record.break_mem_iff inDocument).mpr breaksLine] at other
      cases other

end Broken

/-! ## Reading the log back -/

section Log

variable {trim : List Char → List Char}

def writeAll (records : List Record) : List Char :=
  records.foldl (fun content record => appendLine content record.payload) []

theorem writeAll_eq (records : List Record) :
    writeAll records = records.flatMap (fun record => record.document ++ ['\n']) := by
  have grown : ∀ content, records.foldl (fun content record => appendLine content record.payload)
      content = content ++ records.flatMap (fun record => record.document ++ ['\n']) := by
    induction records with
    | nil => simp
    | cons record rest ih =>
      intro content
      rw [List.foldl_cons, ih, appendLine, List.flatMap_cons, List.append_assoc]
      rfl
  exact grown []

theorem splitlines_writeAll (records : List Record) :
    splitlines (writeAll records) =
      records.flatMap (fun record => splitlines (record.document ++ ['\n'])) := by
  rw [writeAll_eq]
  induction records with
  | nil => rfl
  | cons record rest ih =>
    rw [List.flatMap_cons, List.flatMap_cons, List.append_assoc, List.singleton_append,
      splitlines_record, ih]

theorem document_visible (record : Record) : stripLine record.document ≠ [] := by
  rw [trims_stripLine.document record]
  exact List.cons_ne_nil _ _

theorem readLines_oneLine (trims : Trims trim) {record : Record} (oneLine : record.OneLine) :
    (splitlines (record.document ++ ['\n'])).filterMap (loadLine trim) = [.map record.payload] := by
  have loaded : loadLine trim record.document = some (.map record.payload) := by
    rw [loadLine, if_neg (document_visible record), trims.document]
    exact Json.loads_dumps true record.wellFormed
  rw [splitlines_unbroken (record.oneLine_iff.mp oneLine), List.filterMap_cons, loaded,
    List.filterMap_nil]

theorem oneLine_of_read (trims : Trims trim) {records : List Record} {value : Value}
    (read : value ∈ readLines trim (writeAll records)) :
    ∀ char ∈ Json.chars value, char ∉ foreignBreaks := by
  obtain ⟨line, member, loaded⟩ := List.mem_filterMap.mp read
  rw [splitlines_writeAll] at member
  obtain ⟨record, -, inRecord⟩ := List.mem_flatMap.mp member
  by_cases oneLine : record.OneLine
  · have only : value ∈ (splitlines (record.document ++ ['\n'])).filterMap (loadLine trim) :=
      List.mem_filterMap.mpr ⟨line, inRecord, loaded⟩
    rw [readLines_oneLine trims oneLine, List.mem_singleton] at only
    subst only
    exact oneLine
  · exact oneLine_of_line trims oneLine inRecord loaded

theorem readLines_iff (trims : Trims trim) (records : List Record) :
    readLines trim (writeAll records) = records.map (fun record => .map record.payload) ↔
      ∀ record ∈ records, record.OneLine := by
  constructor
  · intro same record member
    have read : Value.map record.payload ∈ readLines trim (writeAll records) := by
      rw [same]
      exact List.mem_map_of_mem member
    exact oneLine_of_read trims read
  · intro every
    rw [readLines, splitlines_writeAll]
    induction records with
    | nil => rfl
    | cons record rest ih =>
      obtain ⟨oneLine, later⟩ := List.forall_mem_cons.mp every
      rw [List.flatMap_cons, List.filterMap_append, readLines_oneLine trims oneLine, ih later]
      rfl

theorem readLines_payloads (trims : Trims trim) {payloads : List Mapping}
    (fits : ∀ payload ∈ payloads,
      Json.WellFormed (.map payload) ∧ PlainText (Json.chars (.map payload))) :
    readLines trim (payloads.foldl appendLine []) = payloads.map .map := by
  let records : List Record := payloads.attach.map fun payload =>
    { payload := payload.1, wellFormed := (fits payload.1 payload.2).1 }
  have same : records.map Record.payload = payloads := by
    rw [List.map_map]
    exact payloads.attach_map_subtype_val
  have oneLine : ∀ record ∈ records, record.OneLine := by
    intro record member
    obtain ⟨⟨payload, among⟩, -, rfl⟩ := List.mem_map.mp member
    exact (fits payload among).2
  have read := (readLines_iff trims records).mpr oneLine
  have written : writeAll records = payloads.foldl appendLine [] := by
    rw [writeAll, ← List.foldl_map, same]
  rw [← written, read, ← Function.comp_def Value.map, ← List.map_map, same]

end Log

/-- The three logs. -/
inductive JsonlLog where
  | healthHistory
  | resyncQueue
  | fillShadow
deriving Repr, DecidableEq

def JsonlLog.append : JsonlLog → List Char → Mapping → List Char
  | .healthHistory => HealthStateStore.appendJsonl
  | .resyncQueue => ResyncQueue.appendJsonl
  | .fillShadow => FillShadowStore.appendJsonl

def JsonlLog.read : JsonlLog → List Char → List Value
  | .healthHistory => HealthStateStore.readHistory
  | .resyncQueue => ResyncQueue.readJsonl
  | .fillShadow => FillShadowStore.readJsonl

/-- The records appended to an empty log are read back, in their order, exactly
when no text or key of them has a line break that is not escaped. -/
theorem readsBack_iff (log : JsonlLog) (records : List Record) :
    log.read (records.foldl (fun content record => log.append content record.payload) []) =
        records.map (fun record => .map record.payload) ↔
      ∀ record ∈ records, record.OneLine := by
  cases log with
  | healthHistory => exact readLines_iff trims_stripLine records
  | resyncQueue => exact readLines_iff trims_id records
  | fillShadow => exact readLines_iff trims_id records

/-- One note with a line separator. -/
def separated : Record where
  payload := [("reason", .str "spread\u2028normal")]
  wellFormed := ⟨by decide, trivial, trivial⟩

/-- A record with a line separator is lost from every log. -/
theorem separated_lost :
    HealthStateStore.readHistory (HealthStateStore.appendJsonl [] separated.payload) = [] ∧
      ResyncQueue.readJsonl (ResyncQueue.appendJsonl [] separated.payload) = [] ∧
      FillShadowStore.readJsonl (FillShadowStore.appendJsonl [] separated.payload) = [] := by
  decide +kernel

end FxToushi.Core
