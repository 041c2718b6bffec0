/-
Valid configurations.

A table is read into a configuration unless its rule options are of the wrong kind, its style is none of the
two, or an entry of its override table is no override.  What is refused is said here of the table alone, with
the message for it: options of the wrong kind go before the style, the style before the overrides, and of
the overrides the first one counts that is none.  Main statements:

* **`overrides_eq_error`** — overrides are refused for the first entry that is none;
* **`ofTable_eq_error`** — the fault of a table;
* **`lookup_overrides`** — what the overrides hold for an extension;
* **`refused_iff_invalid`** — the tables that are refused, the messages for them, and what the others are
  read into;
* **`long_style_has_no_message`** — a style can be refused without a message.
-/
import SpecifierLint.Proofs.Configuration.Override
import SpecifierLint.Proofs.Value.Display
import SpecifierLint.Room

namespace SpecifierLint

theorem Style.ofValue?_eq_some {v : Value} {s : Style} :
    Style.ofValue? v = some s ↔ v = .text s.label := by
  constructor
  · intro h
    cases v with
    | text t =>
      rw [Style.ofValue?, Style.ofLabel?] at h
      split at h
      · next ht => rw [ht, ← Option.some.inj h]
      · split at h
        · next ht => rw [ht, ← Option.some.inj h]
        · exact absurd h (by simp)
    | _ => exact absurd h (by simp [Style.ofValue?])
  · intro h
    rw [h]
    exact Style.ofLabel?_label s

/-- The value is the word for a style. -/
def NamesStyle (v : Value) : Prop := v = .text "always" ∨ v = .text "never"

theorem namesStyle_iff {v : Value} : NamesStyle v ↔ ∃ s : Style, v = .text s.label := by
  constructor
  · rintro (h | h)
    · exact ⟨.always, h⟩
    · exact ⟨.never, h⟩
  · rintro ⟨s, h⟩
    cases s with
    | always => exact .inl h
    | never => exact .inr h

theorem Style.ofValue?_eq_none {v : Value} : Style.ofValue? v = none ↔ ¬ NamesStyle v := by
  simp [Option.eq_none_iff_forall_ne_some, Style.ofValue?_eq_some, namesStyle_iff]

/-! ### Entries of an override table -/

namespace Options

theorem isReserved_eq_false {key : Text} :
    isReserved key = false ↔ key ≠ "tryExtensions" ∧ key ≠ "esm" := by
  rw [isReserved, Bool.or_eq_false_iff, decide_eq_false_iff_not, decide_eq_false_iff_not]
  exact Iff.rfl

theorem styleOf_eq_ok {key : Text} {v : Value} {s : Style} :
    styleOf key v = .ok s ↔ v = .text s.label := by
  rw [← Style.ofValue?_eq_some, styleOf]
  cases Style.ofValue? v with
  | none => simp
  | some s' => simp

theorem styleOf_eq_error {key : Text} {v : Value} {fault : ConfigFault} :
    styleOf key v = .error fault ↔ ¬ NamesStyle v ∧ fault = .badStyle v key := by
  rw [← Style.ofValue?_eq_none, styleOf]
  cases Style.ofValue? v with
  | none => simp [eq_comm]
  | some s => simp

/-- The key has a meaning of its own, or it is an extension and the value names a style. -/
def IsEntry (key : Text) (v : Value) : Prop :=
  key = "tryExtensions" ∨ key = "esm" ∨ key.head? = some '.' ∧ NamesStyle v

/-- Why an entry of an override table is none. -/
inductive EntryFault (key : Text) (v : Value) : ConfigFault → Prop
  | badKey (hreserved : isReserved key = false) (hkey : key.head? ≠ some '.') :
      EntryFault key v (.badKey key)
  | badStyle (hreserved : isReserved key = false) (hkey : key.head? = some '.')
      (hv : ¬ NamesStyle v) : EntryFault key v (.badStyle v key)

theorem EntryFault.not_isEntry {key : Text} {v : Value} {fault : ConfigFault}
    (h : EntryFault key v fault) : ¬ IsEntry key v := by
  intro hentry
  cases h with
  | badKey hreserved hkey =>
    obtain ⟨htry, hesm⟩ := isReserved_eq_false.1 hreserved
    rcases hentry with h | h | h
    · exact htry h
    · exact hesm h
    · exact hkey h.1
  | badStyle hreserved hkey hv =>
    obtain ⟨htry, hesm⟩ := isReserved_eq_false.1 hreserved
    rcases hentry with h | h | h
    · exact htry h
    · exact hesm h
    · exact hv h.2

theorem exists_entryFault {key : Text} {v : Value} (h : ¬ IsEntry key v) :
    ∃ fault, EntryFault key v fault := by
  have hreserved : isReserved key = false :=
    isReserved_eq_false.2 ⟨fun e => h (.inl e), fun e => h (.inr (.inl e))⟩
  by_cases hkey : key.head? = some '.'
  · exact ⟨_, .badStyle hreserved hkey fun hv => h (.inr (.inr ⟨hkey, hv⟩))⟩
  · exact ⟨_, .badKey hreserved hkey⟩

theorem overrides_cons_of_entryFault {key : Text} {v : Value} {fault : ConfigFault}
    (h : EntryFault key v fault) (rest : Table) : overrides ((key, v) :: rest) = .error fault := by
  cases h with
  | badKey hreserved hkey => rw [overrides, if_neg (by simp [hreserved]), if_pos hkey]
  | badStyle hreserved hkey hv =>
    rw [overrides, if_neg (by simp [hreserved]), if_neg (not_not_intro hkey),
      styleOf_eq_error.2 ⟨hv, rfl⟩]

theorem overrides_cons_eq_error {key : Text} {v : Value} (h : IsEntry key v) {rest : Table}
    {fault : ConfigFault} :
    overrides ((key, v) :: rest) = .error fault ↔ overrides rest = .error fault := by
  rw [overrides]
  split
  · rfl
  · next hreserved =>
    have hstyled : key.head? = some '.' ∧ NamesStyle v := by
      obtain ⟨htry, hesm⟩ := isReserved_eq_false.1 (Bool.eq_false_iff.2 hreserved)
      rcases h with h | h | h
      · exact absurd h htry
      · exact absurd h hesm
      · exact h
    obtain ⟨s, hs⟩ := namesStyle_iff.1 hstyled.2
    rw [if_neg (not_not_intro hstyled.1), styleOf_eq_ok.2 hs]
    cases overrides rest with
    | error fault' => simp [Except.map]
    | ok styles => simp [Except.map]

theorem overrides_append_eq_error {before rest : Table} {fault : ConfigFault}
    (h : ∀ entry ∈ before, IsEntry entry.1 entry.2) :
    overrides (before ++ rest) = .error fault ↔ overrides rest = .error fault := by
  induction before with
  | nil => rfl
  | cons entry before ih =>
    rw [List.cons_append, overrides_cons_eq_error (h entry List.mem_cons_self)]
    exact ih fun e he => h e (List.mem_cons_of_mem _ he)

/-- Overrides are refused for the first entry that is none. -/
theorem overrides_eq_error {t : Table} {fault : ConfigFault} :
    overrides t = .error fault ↔
      ∃ before key v after, t = before ++ (key, v) :: after
        ∧ (∀ entry ∈ before, IsEntry entry.1 entry.2) ∧ EntryFault key v fault := by
  constructor
  · -- the front grows as long as the entries are ones, and stops at the first that is none
    intro h
    induction t with
    | nil => exact absurd h (by simp [overrides])
    | cons entry rest ih =>
      obtain ⟨key, v⟩ := entry
      by_cases hentry : IsEntry key v
      · obtain ⟨before, key', v', after, rfl, hbefore, hfault⟩ :=
          ih ((overrides_cons_eq_error hentry).1 h)
        refine ⟨(key, v) :: before, key', v', after, rfl, ?_, hfault⟩
        intro e he
        rcases List.mem_cons.1 he with rfl | he
        · exact hentry
        · exact hbefore e he
      · obtain ⟨fault', hfault⟩ := exists_entryFault hentry
        have heq : fault' = fault :=
          Except.error.inj ((overrides_cons_of_entryFault hfault rest).symm.trans h)
        exact ⟨[], key, v, rest, rfl, by simp, heq ▸ hfault⟩
  · rintro ⟨before, key, v, after, rfl, hbefore, hfault⟩
    rw [overrides_append_eq_error hbefore]
    exact overrides_cons_of_entryFault hfault after

theorem exists_overrides_eq_error {t : Table} :
    (∃ fault, overrides t = .error fault) ↔ ∃ entry ∈ t, ¬ IsEntry entry.1 entry.2 := by
  constructor
  · rintro ⟨fault, h⟩
    obtain ⟨before, key, v, after, rfl, _, hfault⟩ := overrides_eq_error.1 h
    exact ⟨(key, v), by simp, hfault.not_isEntry⟩
  · rintro ⟨entry, hmem, hnone⟩
    induction t with
    | nil => exact absurd hmem (by simp)
    | cons first rest ih =>
      obtain ⟨key, v⟩ := first
      by_cases hfirst : IsEntry key v
      · rcases List.mem_cons.1 hmem with rfl | hmem
        · exact absurd hfirst hnone
        · obtain ⟨fault, h⟩ := ih hmem
          exact ⟨fault, (overrides_cons_eq_error hfirst).2 h⟩
      · obtain ⟨fault, hfault⟩ := exists_entryFault hfirst
        exact ⟨fault, overrides_cons_of_entryFault hfault rest⟩

/-- What the overrides hold for an extension: the style that its entry names. -/
theorem lookup_overrides {t : Table} {styles : List (Text × Style)} (h : overrides t = .ok styles)
    (extension : Text) (s : Style) :
    styles.lookup extension = some s ↔
      isReserved extension = false ∧ t.get? extension = some (.text s.label) := by
  -- both look-ups take the first entry with the key, and only reserved keys leave no entry behind
  induction t generalizing styles with
  | nil =>
    rw [overrides] at h
    rw [← Except.ok.inj h]
    simp [Table.get?]
  | cons entry rest ih =>
    obtain ⟨key, v⟩ := entry
    rw [overrides] at h
    split at h
    · next hkey =>
      rw [ih h, Table.get?, Table.get?, List.lookup_cons]
      cases hsame : extension == key with
      | false => rfl
      | true =>
        have hreserved : isReserved extension = true := by
          rw [eq_of_beq hsame]
          exact hkey
        simp [hreserved]
    · next hkey =>
      split at h
      · exact absurd h (by simp)
      · split at h
        · exact absurd h (by simp)
        · next s' hs =>
          obtain ⟨styles', hrest, rfl⟩ := Outcome.map_eq_ok.1 h
          rw [Table.get?, List.lookup_cons, List.lookup_cons]
          cases hsame : extension == key with
          | false => exact ih hrest
          | true =>
            have hreserved : isReserved extension = false := by
              rw [eq_of_beq hsame]
              exact Bool.eq_false_iff.2 hkey
            have hv : Style.ofValue? v = some s' := Style.ofValue?_eq_some.2 (styleOf_eq_ok.1 hs)
            show some s' = some s ↔ _ ∧ some v = some (.text s.label)
            rw [Option.some.injEq v, ← Style.ofValue?_eq_some, hv]
            simp [hreserved]

/-- The extensions to try are never none at all. -/
theorem tryExtensions?_ne_nil (t : Table) : tryExtensions? t ≠ some [] := by
  rw [tryExtensions?]
  split
  · next items _ =>
    cases items with
    | nil => simp
    | cons item rest =>
      rw [List.isEmpty_cons, List.mapM_cons]
      cases item.text? with
      | none => simp
      | some e =>
        cases rest.mapM Value.text? with
        | none => simp
        | some es => simp
  · simp

end Options

namespace Configuration

open Options

/-! ### Tables -/

/-- The rule options are neither a text nor a list. -/
def HasBadOptions (table : Table) : Prop :=
  ∃ v, table.get? "options" = some v ∧ (∀ t, v ≠ .text t) ∧ ∀ items, v ≠ .list items

/-- The table gives a style: as its rule options, or as the first of them. -/
inductive GivesStyle (table : Table) : Value → Prop
  | alone {t : Text} (h : table.get? "options" = some (.text t)) : GivesStyle table (.text t)
  | first {v : Value} {rest : List Value} (h : table.get? "options" = some (.list (v :: rest)))
      (hv : v ≠ .null) : GivesStyle table v

/-- The table gives an override table: the second of its rule options. -/
inductive GivesOverrides (table : Table) : Table → Prop
  | second {v : Value} {entries : Table} {rest : List Value}
      (h : table.get? "options" = some (.list (v :: .table entries :: rest))) :
      GivesOverrides table entries

/-- The table gives an extension a style of its own. -/
def Overrides (table : Table) (extension : Text) (s : Style) : Prop :=
  extension ≠ "tryExtensions" ∧ extension ≠ "esm"
    ∧ ∃ entries, GivesOverrides table entries ∧ entries.get? extension = some (.text s.label)

theorem HasBadOptions.not_givesStyle {table : Table} (h : HasBadOptions table) (v : Value) :
    ¬ GivesStyle table v := by
  obtain ⟨w, hw, htext, hlist⟩ := h
  intro hgives
  cases hgives with
  | alone h => exact htext _ (Option.some.inj (hw.symm.trans h))
  | first h _ => exact hlist _ (Option.some.inj (hw.symm.trans h))

theorem HasBadOptions.not_givesOverrides {table entries : Table} (h : HasBadOptions table) :
    ¬ GivesOverrides table entries := by
  obtain ⟨w, hw, _, hlist⟩ := h
  rintro ⟨h⟩
  exact hlist _ (Option.some.inj (hw.symm.trans h))

theorem optionsOf_eq_error {table : Table} {fault : ConfigFault} :
    optionsOf table = .error fault ↔ HasBadOptions table ∧ fault = .badOptions := by
  rw [optionsOf, HasBadOptions]
  cases table.get? "options" with
  | none => simp
  | some v => cases v <;> simp [eq_comm]

theorem optionsOf_eq_ok {table : Table} {options : List Value} :
    optionsOf table = .ok options ↔
      table.get? "options" = none ∧ options = []
        ∨ (∃ t, table.get? "options" = some (.text t) ∧ options = [.text t])
        ∨ table.get? "options" = some (.list options) := by
  rw [optionsOf]
  cases table.get? "options" with
  | none => simp [eq_comm]
  | some v => cases v <;> simp [eq_comm]

/-- The style that a table gives is the first of its options, unless that is null. -/
theorem givesStyle_iff {table : Table} {options : List Value} (h : optionsOf table = .ok options)
    {v : Value} : GivesStyle table v ↔ options.head? = some v ∧ v ≠ .null := by
  constructor
  · intro hgives
    cases hgives with
    | alone ht =>
      rcases optionsOf_eq_ok.1 h with ⟨hget, _⟩ | ⟨t', hget, rfl⟩ | hget
      · exact absurd (ht.symm.trans hget) (by simp)
      · exact ⟨congrArg some (Option.some.inj (hget.symm.trans ht)), by simp⟩
      · exact absurd (ht.symm.trans hget) (by simp)
    | first hl hv =>
      rcases optionsOf_eq_ok.1 h with ⟨hget, _⟩ | ⟨t, hget, _⟩ | hget
      · exact absurd (hl.symm.trans hget) (by simp)
      · exact absurd (hl.symm.trans hget) (by simp)
      · rw [← Value.list.inj (Option.some.inj (hl.symm.trans hget))]
        exact ⟨rfl, hv⟩
  · rintro ⟨hhead, hv⟩
    obtain ⟨rest, rfl⟩ := List.head?_eq_some_iff.1 hhead
    rcases optionsOf_eq_ok.1 h with ⟨_, hnil⟩ | ⟨t, hget, heq⟩ | hget
    · exact absurd hnil (by simp)
    · rw [(List.cons.inj heq).1]
      exact .alone hget
    · exact .first hget hv

/-- The override table is the second of the options. -/
theorem givesOverrides_iff {table entries : Table} {options : List Value}
    (h : optionsOf table = .ok options) :
    GivesOverrides table entries ↔ ∃ v rest, options = v :: .table entries :: rest := by
  constructor
  · rintro ⟨hl⟩
    rcases optionsOf_eq_ok.1 h with ⟨hget, _⟩ | ⟨t, hget, _⟩ | hget
    · exact absurd (hl.symm.trans hget) (by simp)
    · exact absurd (hl.symm.trans hget) (by simp)
    · exact ⟨_, _, (Value.list.inj (Option.some.inj (hl.symm.trans hget))).symm⟩
  · rintro ⟨v, rest, rfl⟩
    rcases optionsOf_eq_ok.1 h with ⟨_, heq⟩ | ⟨t, _, heq⟩ | hget
    · exact absurd heq (by simp)
    · exact absurd heq (by simp)
    · exact .second hget

/-- Without an override table there is nothing to refuse, and with one the overrides are its own. -/
theorem overrides_overrideTable_eq_error {options : List Value} {fault : ConfigFault} :
    overrides (overrideTable options) = .error fault ↔
      ∃ entries, (∃ v rest, options = v :: .table entries :: rest)
        ∧ overrides entries = .error fault := by
  constructor
  · intro h
    rw [overrideTable.eq_def] at h
    split at h
    · next v entries rest => exact ⟨entries, ⟨v, rest, rfl⟩, h⟩
    · exact absurd h (by simp [overrides])
  · rintro ⟨entries, ⟨v, rest, rfl⟩, h⟩
    exact h

theorem defaultStyle_cons {v : Value} (hv : v ≠ .null) (rest : List Value) :
    defaultStyle (v :: rest) = styleOf "options[0]" v := by
  cases v with
  | null => exact absurd rfl hv
  | _ => rfl

theorem defaultStyle_eq_error {options : List Value} {fault : ConfigFault} :
    defaultStyle options = .error fault ↔
      ∃ v, (options.head? = some v ∧ v ≠ .null) ∧ ¬ NamesStyle v
        ∧ fault = .badStyle v "options[0]" := by
  rcases options with _ | ⟨v, rest⟩
  · simp [defaultStyle]
  · by_cases hv : v = .null
    · simp [hv, defaultStyle]
    · rw [defaultStyle_cons hv, styleOf_eq_error]
      simp [hv]

theorem defaultStyle_eq_ok {options : List Value} {s : Style} :
    defaultStyle options = .ok s ↔
      options.head? = some (.text s.label)
        ∨ (∀ v, ¬ (options.head? = some v ∧ v ≠ .null)) ∧ s = .always := by
  rcases options with _ | ⟨v, rest⟩
  · simp [defaultStyle, eq_comm]
  · by_cases hv : v = .null
    · simp [hv, defaultStyle, eq_comm]
    · rw [defaultStyle_cons hv, styleOf_eq_ok]
      simp [hv]

theorem exists_defaultStyle_iff {options : List Value} :
    (∃ s, defaultStyle options = .ok s) ↔
      ∀ v, options.head? = some v ∧ v ≠ .null → NamesStyle v := by
  constructor
  · rintro ⟨s, hs⟩ v hv
    by_contra hnone
    have herror := defaultStyle_eq_error.2 ⟨v, hv, hnone, rfl⟩
    exact absurd (hs.symm.trans herror) (by simp)
  · intro h
    cases hs : defaultStyle options with
    | ok s => exact ⟨s, rfl⟩
    | error fault =>
      obtain ⟨v, hv, hnone, _⟩ := defaultStyle_eq_error.1 hs
      exact absurd (h v hv) hnone

theorem policy_eq_error {options : List Value} {settings : Table} {fault : ConfigFault} :
    Options.policy options settings = .error fault ↔
      defaultStyle options = .error fault
        ∨ (∃ s, defaultStyle options = .ok s)
          ∧ overrides (overrideTable options) = .error fault := by
  rw [Options.policy]
  cases defaultStyle options with
  | error fault' => simp
  | ok s => cases overrides (overrideTable options) <;> simp

/-- The fault of a table: its options, its style, or its overrides. -/
theorem ofTable_eq_error {table : Table} {fault : ConfigFault} :
    ofTable table = .error fault ↔
      HasBadOptions table ∧ fault = .badOptions
        ∨ (∃ v, GivesStyle table v ∧ ¬ NamesStyle v ∧ fault = .badStyle v "options[0]")
        ∨ (∀ v, GivesStyle table v → NamesStyle v)
          ∧ ∃ entries, GivesOverrides table entries ∧ overrides entries = .error fault := by
  rw [ofTable]
  cases hoptions : optionsOf table with
  | error fault' =>
    obtain ⟨hbad, rfl⟩ := optionsOf_eq_error.1 hoptions
    simp [hbad, hbad.not_givesStyle, hbad.not_givesOverrides, eq_comm]
  | ok options =>
    have hbad : ¬ HasBadOptions table := fun h =>
      absurd (hoptions.symm.trans (optionsOf_eq_error.2 ⟨h, rfl⟩)) (by simp)
    have hmap : ((Options.policy options (settingsOf table)).map (Configuration.mk table)) = .error fault
        ↔ Options.policy options (settingsOf table) = .error fault := by
      cases Options.policy options (settingsOf table) <;> simp [Except.map]
    -- what the table gives is what stands at the first two places of the options
    have hstyle : (∃ s, defaultStyle options = .ok s) ↔ ∀ v, GivesStyle table v → NamesStyle v := by
      rw [exists_defaultStyle_iff]
      exact forall_congr' fun v => by rw [givesStyle_iff hoptions]
    show Except.map _ _ = _ ↔ _
    rw [hmap, policy_eq_error, defaultStyle_eq_error, hstyle, overrides_overrideTable_eq_error]
    simp only [givesStyle_iff hoptions, givesOverrides_iff hoptions, hbad, false_and, false_or]

/-! ### Messages -/

/-- The value is the first that should name a style and does not: the style of the table, or that of an
extension. -/
inductive MissesStyle (table : Table) : Value → Text → Prop
  | first {v : Value} (h : GivesStyle table v) (hv : ¬ NamesStyle v) :
      MissesStyle table v "options[0]"
  | override {before after : Table} {key : Text} {v : Value}
      (hstyle : ∀ v, GivesStyle table v → NamesStyle v)
      (h : GivesOverrides table (before ++ (key, v) :: after))
      (hbefore : ∀ entry ∈ before, IsEntry entry.1 entry.2)
      (hreserved : key ≠ "tryExtensions" ∧ key ≠ "esm") (hkey : key.head? = some '.')
      (hv : ¬ NamesStyle v) : MissesStyle table v key

/-- A table is refused with a message. -/
inductive Refused (room : Nat) (table : Table) : Text → Prop
  | options (h : HasBadOptions table) :
      Refused room table "'options' must be a style string or a list."
  | style {v : Value} {key form : Text} (h : MissesStyle table v key) (hform : v.form room = .ok form) :
      Refused room table
        ("Invalid style " ++ form ++ " for '" ++ key ++ "': expected 'always' or 'never'.")
  | key {before after : Table} {key : Text} {v : Value}
      (hstyle : ∀ v, GivesStyle table v → NamesStyle v)
      (h : GivesOverrides table (before ++ (key, v) :: after))
      (hbefore : ∀ entry ∈ before, IsEntry entry.1 entry.2)
      (hreserved : key ≠ "tryExtensions" ∧ key ≠ "esm") (hkey : key.head? ≠ some '.') :
      Refused room table
        ("Invalid extension override key " ++ Text.quoted key ++ ": extensions must start with '.'.")

/-- A fault of a table that is about a style is about the first value that should name one. -/
theorem ofTable_eq_badStyle {table : Table} {v : Value} {key : Text} :
    ofTable table = .error (.badStyle v key) ↔ MissesStyle table v key := by
  constructor
  · intro h
    rcases ofTable_eq_error.1 h with ⟨_, heq⟩ | ⟨w, hgives, hw, heq⟩ | ⟨hstyle, entries, hgives, h⟩
    · exact absurd heq (by simp)
    · cases heq
      exact .first hgives hw
    · obtain ⟨before, _, _, after, rfl, hbefore, hfault⟩ := overrides_eq_error.1 h
      cases hfault with
      | badStyle hreserved hkey hv =>
        exact .override hstyle hgives hbefore (isReserved_eq_false.1 hreserved) hkey hv
  · intro h
    cases h with
    | first hgives hv => exact ofTable_eq_error.2 (.inr (.inl ⟨_, hgives, hv, rfl⟩))
    | override hstyle hgives hbefore hreserved hkey hv =>
      have hfault : EntryFault key v (.badStyle v key) :=
        .badStyle (isReserved_eq_false.2 hreserved) hkey hv
      exact ofTable_eq_error.2 (.inr (.inr ⟨hstyle, _, hgives,
        overrides_eq_error.2 ⟨_, _, _, _, rfl, hbefore, hfault⟩⟩))

/-- The faults of a table have the messages with which it is refused. -/
theorem message_iff_refused {room : Nat} {table : Table} {message : Text} :
    (∃ fault, ofTable table = .error fault ∧ fault.message room = .ok message)
      ↔ Refused room table message := by
  constructor
  · rintro ⟨fault, h, hmessage⟩
    -- each fault comes from one place of the table; the other places give other faults
    cases fault with
    | badStyle v key =>
      obtain ⟨form, hform, rfl⟩ := Outcome.map_eq_ok.1 hmessage
      exact .style (ofTable_eq_badStyle.1 h) hform
    | badOptions =>
      cases hmessage
      rcases ofTable_eq_error.1 h with ⟨hbad, _⟩ | ⟨_, _, _, heq⟩ | ⟨_, _, _, h⟩
      · exact .options hbad
      · exact absurd heq (by simp)
      · obtain ⟨_, _, _, _, _, _, hfault⟩ := overrides_eq_error.1 h
        cases hfault
    | badKey key =>
      cases hmessage
      rcases ofTable_eq_error.1 h with ⟨_, heq⟩ | ⟨_, _, _, heq⟩ | ⟨hstyle, entries, hgives, h⟩
      · exact absurd heq (by simp)
      · exact absurd heq (by simp)
      · obtain ⟨before, _, v, after, rfl, hbefore, hfault⟩ := overrides_eq_error.1 h
        cases hfault with
        | badKey hreserved hkey =>
          exact .key hstyle hgives hbefore (isReserved_eq_false.1 hreserved) hkey
  · intro h
    cases h with
    | options hbad => exact ⟨_, ofTable_eq_error.2 (.inl ⟨hbad, rfl⟩), rfl⟩
    | style hmisses hform =>
      exact ⟨_, ofTable_eq_badStyle.2 hmisses, Outcome.map_eq_ok.2 ⟨_, hform, rfl⟩⟩
    | @key _ _ key v hstyle hgives hbefore hreserved hkey =>
      have hfault : EntryFault key v (.badKey key) :=
        .badKey (isReserved_eq_false.2 hreserved) hkey
      exact ⟨_, ofTable_eq_error.2 (.inr (.inr ⟨hstyle, _, hgives,
        overrides_eq_error.2 ⟨_, _, _, _, rfl, hbefore, hfault⟩⟩)), rfl⟩

/-- A fault has no message exactly if it is about a value that cannot be written. -/
theorem no_message_iff {room : Nat} {table : Table} {reason : FormFault} :
    (∃ fault, ofTable table = .error fault ∧ fault.message room = .error reason)
      ↔ ∃ v key, MissesStyle table v key ∧ Value.Unwritable room v reason := by
  constructor
  · rintro ⟨fault, h, hmessage⟩
    cases fault with
    | badStyle v key =>
      refine ⟨v, key, ofTable_eq_badStyle.1 h, Value.form_eq_error_iff.1 ?_⟩
      rw [ConfigFault.message] at hmessage
      cases hform : v.form room with
      | ok form =>
        rw [hform] at hmessage
        exact absurd hmessage (by simp [Except.map])
      | error e =>
        rw [hform] at hmessage
        cases hmessage
        rfl
    -- the messages of the other faults quote texts only, which can always be written
    | badOptions => exact absurd hmessage (by simp [ConfigFault.message])
    | badKey key => exact absurd hmessage (by simp [ConfigFault.message])
  · rintro ⟨v, key, hmisses, hform⟩
    refine ⟨_, ofTable_eq_badStyle.2 hmisses, ?_⟩
    rw [ConfigFault.message, Value.form_eq_error_iff.2 hform]
    rfl

theorem exists_ofTable_eq_error {table : Table} :
    (∃ fault, ofTable table = .error fault) ↔
      HasBadOptions table
        ∨ (∃ v, GivesStyle table v ∧ ¬ NamesStyle v)
        ∨ ∃ entries, GivesOverrides table entries ∧ ∃ entry ∈ entries, ¬ IsEntry entry.1 entry.2 := by
  constructor
  · rintro ⟨fault, h⟩
    rcases ofTable_eq_error.1 h with ⟨hbad, _⟩ | ⟨v, hgives, hv, _⟩ | ⟨_, entries, hgives, h⟩
    · exact .inl hbad
    · exact .inr (.inl ⟨v, hgives, hv⟩)
    · exact .inr (.inr ⟨entries, hgives, exists_overrides_eq_error.1 ⟨fault, h⟩⟩)
  · intro h
    -- an entry that is none counts only behind a style that is one
    by_cases hstyle : ∃ v, GivesStyle table v ∧ ¬ NamesStyle v
    · obtain ⟨v, hgives, hv⟩ := hstyle
      exact ⟨_, ofTable_eq_error.2 (.inr (.inl ⟨v, hgives, hv, rfl⟩))⟩
    · have hnames : ∀ v, GivesStyle table v → NamesStyle v := by
        intro v hgives
        by_contra hv
        exact hstyle ⟨v, hgives, hv⟩
      rcases h with hbad | hbad | ⟨entries, hgives, hentry⟩
      · exact ⟨_, ofTable_eq_error.2 (.inl ⟨hbad, rfl⟩)⟩
      · exact absurd hbad hstyle
      · obtain ⟨fault, h⟩ := exists_overrides_eq_error.2 hentry
        exact ⟨fault, ofTable_eq_error.2 (.inr (.inr ⟨hnames, entries, hgives, h⟩))⟩

/-! ### What the other tables are read into -/

section

variable {table : Table} {c : Configuration} (h : ofTable table = .ok c)

include h

theorem tryExtensions_ne_nil : c.policy.tryExtensions ≠ [] := by
  obtain ⟨_, options, _, hpolicy⟩ := ofTable_eq_ok.1 h
  rw [(policy_eq_ok.1 hpolicy).2.2.1]
  have hfirst := tryExtensions?_ne_nil (overrideTable options)
  have hsecond := tryExtensions?_ne_nil (nodeTable (settingsOf table))
  cases hown : tryExtensions? (overrideTable options) with
  | some extensions =>
    rintro rfl
    exact hfirst hown
  | none =>
    cases hshared : tryExtensions? (nodeTable (settingsOf table)) with
    | some extensions =>
      rintro rfl
      exact hsecond hshared
    | none => decide

/-- The style that the table gives is the default style, and without one it is the first style. -/
theorem defaultStyle_of_ofTable (s : Style) :
    c.policy.defaultStyle = s ↔
      GivesStyle table (.text s.label) ∨ (∀ v, ¬ GivesStyle table v) ∧ s = .always := by
  obtain ⟨_, options, hoptions, hpolicy⟩ := ofTable_eq_ok.1 h
  have hstyle := (policy_eq_ok.1 hpolicy).1
  have hiff : c.policy.defaultStyle = s ↔ defaultStyle options = .ok s := by
    rw [hstyle, Except.ok.injEq]
  rw [hiff, defaultStyle_eq_ok]
  simp [givesStyle_iff hoptions]

/-- An extension has an override exactly if the table gives it a style of its own. -/
theorem lookup_of_ofTable (extension : Text) (s : Style) :
    c.policy.overrides.lookup extension = some s ↔ Overrides table extension s := by
  obtain ⟨_, options, hoptions, hpolicy⟩ := ofTable_eq_ok.1 h
  have hoverrides := (policy_eq_ok.1 hpolicy).2.1
  have hentries : (overrideTable options).get? extension = some (.text s.label) ↔
      ∃ entries, GivesOverrides table entries ∧ entries.get? extension = some (.text s.label) := by
    simp only [givesOverrides_iff hoptions]
    constructor
    · intro hget
      rw [overrideTable.eq_def] at hget
      split at hget
      · next v entries rest => exact ⟨entries, ⟨v, rest, rfl⟩, hget⟩
      · exact absurd hget (by simp [Table.get?])
    · rintro ⟨entries, ⟨v, rest, rfl⟩, hget⟩
      exact hget
  rw [lookup_overrides hoverrides, hentries, isReserved_eq_false, and_assoc]
  rfl

end

/-- A table is refused exactly if its options are of the wrong kind, its style is none, or its override table
has an entry that is none; the message is that for the first of these.  If this is a value that should name a
style and cannot be written, the reason for that is given in place of a message.  Every other table is read
into a configuration with extensions to try, with the default style that the table gives, or `always` if it
gives none, and with the styles that it gives to extensions, where every other extension has the default
style. -/
theorem refused_iff_invalid (room : Nat) (table : Table) :
    (∀ message, (∃ fault, ofTable table = .error fault ∧ fault.message room = .ok message)
        ↔ Refused room table message)
      ∧ (∀ reason, (∃ fault, ofTable table = .error fault ∧ fault.message room = .error reason)
        ↔ ∃ v key, MissesStyle table v key ∧ Value.Unwritable room v reason)
      ∧ ((∃ fault, ofTable table = .error fault) ↔
          HasBadOptions table
            ∨ (∃ v, GivesStyle table v ∧ ¬ NamesStyle v)
            ∨ ∃ entries, GivesOverrides table entries
                ∧ ∃ entry ∈ entries, ¬ IsEntry entry.1 entry.2)
      ∧ ∀ c, ofTable table = .ok c →
          c.policy.tryExtensions ≠ []
            ∧ (∀ s, c.policy.defaultStyle = s ↔
                GivesStyle table (.text s.label) ∨ (∀ v, ¬ GivesStyle table v) ∧ s = .always)
            ∧ ∀ extension,
                (∀ s, Overrides table extension s → c.policy.styleFor extension = s)
                  ∧ ((∀ s, ¬ Overrides table extension s) →
                    c.policy.styleFor extension = c.policy.defaultStyle) := by
  refine ⟨fun message => message_iff_refused, fun reason => no_message_iff, exists_ofTable_eq_error, ?_⟩
  intro c h
  refine ⟨tryExtensions_ne_nil h, defaultStyle_of_ofTable h, fun extension => ⟨?_, ?_⟩⟩
  · intro s hgives
    exact Policy.styleFor_of_lookup ((lookup_of_ofTable h extension s).2 hgives)
  · intro hnone
    have hlookup : c.policy.overrides.lookup extension = none := by
      rw [Option.eq_none_iff_forall_ne_some]
      intro s hs
      exact hnone s ((lookup_of_ofTable h extension s).1 hs)
    rw [Policy.styleFor, hlookup]
    rfl

/-- Options with a style, and with two entries that are none. -/
def refusedTable : Table :=
  [("options", .list [.text "never",
      .table [("esm", .int 3), (".ts", .text "always"), ("json", .text "never"), (".js", .null)]])]

/-- Options without a style, with something under a reserved key, an override and an item too many. -/
def acceptedTable : Table :=
  [("options", .list [.null, .table [("esm", .int 3), (".ts", .text "never")], .int 0])]

/-- The first entry that is none has the message; what stands under a reserved key is no override. -/
theorem refused_iff_invalid_first_entry :
    (∃ fault, ofTable refusedTable = .error fault
        ∧ fault.message 985
          = .ok "Invalid extension override key 'json': extensions must start with '.'.")
      ∧ ∃ c, ofTable acceptedTable = .ok c ∧ c.policy.defaultStyle = .always
        ∧ c.policy.styleFor ".ts" = .never ∧ c.policy.styleFor ".js" = c.policy.defaultStyle := by
  constructor
  · have hmessage : ("Invalid extension override key " ++ Text.quoted "json"
          ++ ": extensions must start with '.'." : Text)
        = "Invalid extension override key 'json': extensions must start with '.'." := by
      decide +kernel
    have hgiven : GivesOverrides refusedTable
        (([("esm", .int 3), (".ts", .text "always")] : Table)
          ++ (("json" : Text), Value.text "never") :: ([(".js", .null)] : Table)) :=
      .second rfl
    rw [← hmessage]
    refine ((refused_iff_invalid 985 refusedTable).1 _).2
      (.key ?_ hgiven ?_ (by decide +kernel) (by decide +kernel))
    · intro v hgives
      obtain ⟨hfirst, _⟩ := (givesStyle_iff rfl).1 hgives
      exact .inr (Option.some.inj hfirst).symm
    · intro entry hentry
      rcases List.mem_cons.1 hentry with rfl | hentry
      · exact .inr (.inl rfl)
      · rw [List.mem_singleton.1 hentry]
        exact .inr (.inr ⟨rfl, .inl rfl⟩)
  · have hload : ofTable acceptedTable
        = .ok ⟨acceptedTable, { overrides := [(".ts", .never)] }⟩ := rfl
    obtain ⟨_, hstyle, hstyleFor⟩ := (refused_iff_invalid 985 acceptedTable).2.2.2 _ hload
    refine ⟨_, hload, (hstyle .always).2 (.inr ⟨?_, rfl⟩), ?_, ?_⟩
    · intro v hgives
      obtain ⟨hfirst, hv⟩ := (givesStyle_iff rfl).1 hgives
      exact hv (Option.some.inj hfirst).symm
    · exact (hstyleFor ".ts").1 .never
        ⟨by decide +kernel, by decide +kernel, _, .second rfl, rfl⟩
    · refine (hstyleFor ".js").2 ?_
      intro s hgives
      have hlookup := (lookup_of_ofTable hload ".js" s).2 hgives
      have hnone : List.lookup (".js" : Text) [((".ts" : Text), Style.never)] = none := by
        decide +kernel
      exact absurd (hlookup.symm.trans hnone) (by simp)

/-- A number with more than 4300 digits. -/
def longStyle : Value := .int (Int.ofNat (Nat.pow 16 3600 - 1))

/-- A table with this number for a style. -/
def longStyleTable : Table := [("options", .list [longStyle])]

/-- The table is refused for its style, but since the number cannot be written there is no message. -/
theorem long_style_has_no_message :
    GivesStyle longStyleTable longStyle ∧ ¬ NamesStyle longStyle
      ∧ (∀ message, ¬ Refused ({} : Room).form longStyleTable message)
      ∧ ∃ fault, ofTable longStyleTable = .error fault
        ∧ fault.message ({} : Room).form = .error .longInteger := by
  have hgives : GivesStyle longStyleTable longStyle := .first rfl nofun
  have hnone : ¬ NamesStyle longStyle := by
    rintro (h | h)
    · exact nomatch h
    · exact nomatch h
  have hfault : ofTable longStyleTable = .error (.badStyle longStyle "options[0]") :=
    ofTable_eq_badStyle.2 (.first hgives hnone)
  have hmessage : (ConfigFault.badStyle longStyle "options[0]").message ({} : Room).form
      = .error .longInteger := by
    have hlong : Value.Unwritable ({} : Room).form longStyle .longInteger :=
      .long (by decide +kernel)
    rw [ConfigFault.message, Value.form_eq_error_iff.2 hlong]
    rfl
  refine ⟨hgives, hnone, fun message hrefused => ?_, _, hfault, hmessage⟩
  obtain ⟨fault, hother, hworded⟩ := message_iff_refused.2 hrefused
  cases hfault.symm.trans hother
  exact absurd (hmessage.symm.trans hworded) (by simp)

end Configuration

end SpecifierLint
