import FxToushi.Py.JsonQuoting

namespace FxToushi.Py.Json

/-! # What a JSON text loads as

A document that was loaded can be written and loaded again: its floats print as
they read, and no key of a mapping is repeated.
-/

/-! ## Scalars -/

theorem wellFormed_float {chars : List Char} {number : Rat} {text : String}
    (printed : floatText text = chars) (bare : ∀ char ∈ chars, isBare char = true)
    (nonempty : chars ≠ []) (read : bare? chars = some (.float number text)) :
    WellFormed (.float number text) := by
  subst printed
  rw [WellFormed]
  exact ⟨nonempty, bare, read⟩

theorem wellFormed_number {chars : List Char} {value : Value}
    (bare : ∀ char ∈ chars, isBare char = true) (nonempty : chars ≠ [])
    (read : bare? chars = some value) (number : number? chars = some value) :
    WellFormed value := by
  have plain : ∀ name ∈ ["nan", "inf", "-inf"], String.ofList chars ≠ name := by
    intro name special same
    have spelled : chars = name.toList := by rw [← same, String.toList_ofList]
    have unread : number? name.toList = none := by
      simp only [List.mem_cons, List.not_mem_nil, or_false] at special
      rcases special with rfl | rfl | rfl <;> rfl
    rw [spelled, unread] at number
    cases number
  have printed : floatText (String.ofList chars) = chars := by
    simp only [List.mem_cons, List.not_mem_nil, or_false, forall_eq_or_imp, forall_eq] at plain
    rw [floatText, if_neg plain.1, if_neg plain.2.1, if_neg plain.2.2, String.toList_ofList]
  unfold number? at number
  split at number
  dsimp only at number
  split at number
  · split at number
    · cases number
      trivial
    · split at number
      · obtain ⟨found, -, same⟩ := Option.map_eq_some_iff.mp number
        rw [← same] at read ⊢
        exact wellFormed_float printed bare nonempty read
      · cases number
  · cases number

theorem wellFormed_bare {chars : List Char} {value : Value}
    (bare : ∀ char ∈ chars, isBare char = true) (nonempty : chars ≠ [])
    (read : bare? chars = some value) : WellFormed value := by
  have number := wellFormed_number bare nonempty read
  unfold bare? at read
  split at read
  · cases read
    trivial
  split at read
  · cases read
    trivial
  split at read
  · cases read
    trivial
  split at read
  · cases read
    decide
  split at read
  · cases read
    decide
  split at read
  · cases read
    decide
  · exact number read

/-! ## Tokens -/

def Token.Sound : Token → Prop
  | .mark _ => True
  | .scalar value => WellFormed value

/-- What has been seen of a number or a name is some bare characters. -/
def Mode.Sound : Mode → Prop
  | .bare seen => seen ≠ [] ∧ ∀ char ∈ seen, isBare char = true
  | _ => True

theorem sound_reverse {seen : List Char} (sound : (Mode.bare seen).Sound) {value : Value}
    (read : bare? seen.reverse = some value) : WellFormed value :=
  wellFormed_bare (fun char member => sound.2 char (List.mem_reverse.mp member))
    (by simpa using sound.1) read

theorem Opens.sound {char : Char} {next : Mode} {tokens : List Token}
    (opens : Opens char next tokens) : next.Sound ∧ ∀ token ∈ tokens, token.Sound := by
  cases opens with
  | blank blank => exact ⟨trivial, by simp⟩
  | mark mark => exact ⟨trivial, by simp [Token.Sound]⟩
  | quote => exact ⟨trivial, by simp⟩
  | bare bare => exact ⟨⟨by simp, by simpa using bare⟩, by simp⟩

theorem Lexes.sound {mode next : Mode} {char : Char} {tokens : List Token}
    (lexes : Lexes mode char next tokens) (sound : mode.Sound) :
    next.Sound ∧ ∀ token ∈ tokens, token.Sound := by
  cases lexes with
  | opens opens => exact opens.sound
  | bare bare => exact ⟨⟨by simp, List.forall_mem_cons.mpr ⟨bare, sound.2⟩⟩, by simp⟩
  | ends read opens =>
    obtain ⟨soundNext, soundLater⟩ := opens.sound
    exact ⟨soundNext, List.forall_mem_cons.mpr ⟨sound_reverse sound read, soundLater⟩⟩
  | closes => exact ⟨trivial, by simp [Token.Sound, WellFormed]⟩
  | digits read unicode =>
    cases unicode with
    | half code => exact ⟨trivial, by simp⟩
    | char found => exact ⟨trivial, by simp⟩
  | _ => exact ⟨trivial, by simp⟩

theorem Lexed.sound {mode : Mode} {text : List Char} {tokens : List Token}
    (lexed : Lexed mode text tokens) (sound : mode.Sound) : ∀ token ∈ tokens, token.Sound := by
  induction lexed with
  | done => simp
  | ends read =>
    intro token member
    rw [List.mem_singleton.mp member]
    exact sound_reverse sound read
  | step lexes later ih =>
    obtain ⟨soundNext, soundFirst⟩ := lexes.sound sound
    exact List.forall_mem_append.mpr ⟨soundFirst, ih soundNext⟩

/-! ## Values -/

theorem keys_set (entries : Mapping) (key : String) (value : Value)
    (distinct : (entries.map Prod.fst).Nodup) :
    ((Mapping.set entries key value).map Prod.fst).Nodup ∧
      ∀ found ∈ (Mapping.set entries key value).map Prod.fst,
        found = key ∨ found ∈ entries.map Prod.fst := by
  induction entries with
  | nil => simp [Mapping.set]
  | cons entry rest ih =>
    obtain ⟨fresh, distinctRest⟩ := List.nodup_cons.mp distinct
    obtain ⟨kept, among⟩ := ih distinctRest
    rw [Mapping.set]
    split
    · rename_i same
      rw [List.map_cons, ← same]
      exact ⟨distinct, fun found member => .inr member⟩
    · rename_i other
      rw [List.map_cons]
      refine ⟨List.nodup_cons.mpr ⟨?_, kept⟩, ?_⟩
      · intro member
        cases among entry.1 member with
        | inl same => exact other same
        | inr old => exact fresh old
      · intro found member
        cases List.mem_cons.mp member with
        | inl same => exact .inr (same ▸ List.mem_cons_self)
        | inr later => exact (among found later).imp_right (List.mem_cons_of_mem _)

theorem wellFormed_set {entries : Mapping} {key : String} {value : Value}
    (wellFormed : WellFormedEntries entries) (added : WellFormed value) :
    WellFormedEntries (Mapping.set entries key value) := by
  induction entries with
  | nil => exact ⟨added, trivial⟩
  | cons entry rest ih =>
    rw [Mapping.set]
    split
    · exact ⟨added, wellFormed.2⟩
    · exact ⟨wellFormed.1, ih wellFormed.2⟩

theorem wellFormed_collect {pairs : List (String × Value)} (wellFormed : WellFormedEntries pairs) :
    WellFormed (.map (collect pairs)) := by
  suffices kept : ∀ entries : Mapping, WellFormed (.map entries) → WellFormed
      (.map (pairs.foldl (fun entries pair => Mapping.set entries pair.1 pair.2) entries)) from
    kept [] ⟨List.nodup_nil, trivial⟩
  induction pairs with
  | nil => exact fun entries before => before
  | cons pair rest ih =>
    intro entries before
    exact ih wellFormed.2 _ ⟨(keys_set entries pair.1 pair.2 before.1).1,
      wellFormed_set before.2 wellFormed.1⟩

mutual

theorem ReadsValue.sound {tokens rest : List Token} {value : Value}
    (read : ReadsValue tokens value rest) (sound : ∀ token ∈ tokens, token.Sound) :
    WellFormed value ∧ ∀ token ∈ rest, token.Sound := by
  match read with
  | .scalar value rest => exact List.forall_mem_cons.mp sound
  | .emptyList rest =>
    rw [List.forall_mem_cons, List.forall_mem_cons] at sound
    exact ⟨trivial, sound.2.2⟩
  | .list items => exact items.sound (List.forall_mem_cons.mp sound).2
  | .emptyMap rest =>
    rw [List.forall_mem_cons, List.forall_mem_cons] at sound
    exact ⟨⟨List.nodup_nil, trivial⟩, sound.2.2⟩
  | .map entries =>
    obtain ⟨wellFormed, left⟩ := entries.sound (List.forall_mem_cons.mp sound).2
    exact ⟨wellFormed_collect wellFormed, left⟩

theorem ReadsItems.sound {tokens rest : List Token} {items : List Value}
    (read : ReadsItems tokens items rest) (sound : ∀ token ∈ tokens, token.Sound) :
    WellFormedItems items ∧ ∀ token ∈ rest, token.Sound := by
  match read with
  | .last first =>
    obtain ⟨wellFormed, left⟩ := first.sound sound
    exact ⟨⟨wellFormed, trivial⟩, (List.forall_mem_cons.mp left).2⟩
  | .more first later =>
    obtain ⟨wellFormed, left⟩ := first.sound sound
    obtain ⟨others, rest⟩ := later.sound (List.forall_mem_cons.mp left).2
    exact ⟨⟨wellFormed, others⟩, rest⟩

theorem ReadsEntries.sound {tokens rest : List Token} {entries : List (String × Value)}
    (read : ReadsEntries tokens entries rest) (sound : ∀ token ∈ tokens, token.Sound) :
    WellFormedEntries entries ∧ ∀ token ∈ rest, token.Sound := by
  match read with
  | .last first =>
    rw [List.forall_mem_cons, List.forall_mem_cons] at sound
    obtain ⟨wellFormed, left⟩ := first.sound sound.2.2
    exact ⟨⟨wellFormed, trivial⟩, (List.forall_mem_cons.mp left).2⟩
  | .more first later =>
    rw [List.forall_mem_cons, List.forall_mem_cons] at sound
    obtain ⟨wellFormed, left⟩ := first.sound sound.2.2
    obtain ⟨others, rest⟩ := later.sound (List.forall_mem_cons.mp left).2
    exact ⟨⟨wellFormed, others⟩, rest⟩

end

theorem wellFormed_of_loads {text : List Char} {value : Value} (loaded : loads text = some value) :
    WellFormed value := by
  obtain ⟨tokens, lexed, read⟩ := reads_of_loads loaded
  exact (read.sound (lexed.sound trivial)).1

end FxToushi.Py.Json
