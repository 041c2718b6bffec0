/-
Overrides put over a configuration one after the other.

A style and a module flag can be put over a configuration in one call or in several, and what comes out can
be overridden again.  Each call rebuilds the rule options, which may be missing, a single style, or a list
of any values, and the policy is read again from them.  A row of calls amounts to one call with the last
style and the last flag that were given: neither their order counts nor what was given before.  Main
statements:

* **`withEsm_withStyle_again`** — options that are rebuilt twice are rebuilt once, with what was given last;
* **`exists_under`** — every call goes through, and changes nothing but what it gives;
* **`foldlM_under`** — a row of calls amounts to one;
* **`overrides_amount_to_last`** — both of them, for every configuration that can be read.
-/
import SpecifierLint.Proofs.Configuration.Override

namespace SpecifierLint

theorem Table.set_set (t : Table) (key : Text) (a b : Value) :
    (t.set key a).set key b = t.set key b := by
  induction t with
  | nil => simp [set]
  | cons entry rest ih =>
    obtain ⟨k, v⟩ := entry
    by_cases h : k = key
    · simp [set, h]
    · simp only [set, h, if_false]
      rw [ih]

theorem getLast?_filterMap_cons {α β : Type} (given : α → Option β) (a : α) (rest : List α) :
    ((a :: rest).filterMap given).getLast? = (rest.filterMap given).getLast?.or (given a) := by
  cases h : given a with
  | none => rw [List.filterMap_cons_none h, Option.or_none]
  | some b =>
    rw [List.filterMap_cons_some h, List.getLast?_cons]
    cases (rest.filterMap given).getLast? with
    | none => rfl
    | some last => rfl

namespace Configuration

open Options

/-! ### Options that are rebuilt again -/

theorem overrideTable_withStyle (options : List Value) (style : Option Value) :
    overrideTable (withStyle options style) = overrideTable options := by
  cases style with
  | none => rfl
  | some style =>
    -- the style stands at the place of the first option, and the table is looked for at the second
    rcases options with _ | ⟨first, _ | ⟨second, rest⟩⟩
    · rfl
    · rfl
    · cases second <;> rfl

theorem withStyle_withStyle (options : List Value) (first later : Option Value) :
    withStyle (withStyle options first) later = withStyle options (later.or first) := by
  cases later with
  | none => rfl
  | some style =>
    cases first with
    | none => rfl
    | some replaced => rfl

theorem withEsm_withEsm (options : List Value) (first later : Option Value) :
    withEsm (withEsm options first) later = withEsm options (later.or first) := by
  cases later with
  | none => rfl
  | some esm =>
    cases first with
    | none => rfl
    | some replaced =>
      -- the table that is read back is the one with the first flag, where the later one takes its place
      have htable : overrideTable (withEsm options (some replaced))
          = (overrideTable options).set esmKey replaced := rfl
      rw [withEsm, htable, Table.set_set]
      rfl

theorem withStyle_withEsm (options : List Value) (style esm : Value) :
    withStyle (withEsm options (some esm)) (some style)
      = withEsm (withStyle options (some style)) (some esm) := by
  rw [withEsm, withEsm, overrideTable_withStyle]
  rfl

/-- Options that are rebuilt twice are rebuilt once, with what was given last. -/
theorem withEsm_withStyle_again (options : List Value) (style style' esm esm' : Option Value) :
    withEsm (withStyle (withEsm (withStyle options style) esm) style') esm'
      = withEsm (withStyle options (style'.or style)) (esm'.or esm) := by
  -- the later style is moved in front of the flag, next to the style that it replaces
  have hflags : withStyle (withEsm (withStyle options style) esm) style'
      = withEsm (withStyle options (style'.or style)) esm := by
    cases esm with
    | none => exact withStyle_withStyle options style style'
    | some flag =>
      cases style' with
      | none => rfl
      | some later => rw [withStyle_withEsm, withStyle_withStyle]
  rw [hflags, withEsm_withEsm]

/-- A style put over the options changes the default style of the policy and nothing else. -/
theorem policy_withStyle {options : List Value} {settings : Table} {p : Policy}
    (h : Options.policy options settings = .ok p) (s : Style) :
    Options.policy (withStyle options (some (.text s.label))) settings
      = .ok { p with defaultStyle := s } := by
  obtain ⟨_, hoverrides, htry, hesm⟩ := policy_eq_ok.1 h
  have hstyle : styleOf "options[0]" (.text s.label) = .ok s := by
    rw [styleOf, Style.ofValue?, Style.ofLabel?_label]
  rw [← overrideTable_withStyle options (some (.text s.label))] at hoverrides htry hesm
  exact policy_eq_ok.2 ⟨hstyle, hoverrides, htry, hesm⟩

/-! ### Calls -/

/-- What a call gives: a style and a module flag, each or none of them. -/
structure Flags where
  style : Option Style := none
  esm : Option Bool := none

/-- What a call and a later one give together. -/
def Flags.followedBy (first later : Flags) : Flags where
  style := later.style.or first.style
  esm := later.esm.or first.esm

/-- What the calls of a row give last. -/
def Flags.last (calls : List Flags) : Flags where
  style := (calls.filterMap Flags.style).getLast?
  esm := (calls.filterMap Flags.esm).getLast?

/-- The configuration with the flags of a call put over its own. -/
def under (c : Configuration) (flags : Flags) : Except ConfigFault Configuration :=
  c.override (flags.style.map fun s => .text s.label) (flags.esm.map .bool)

/-- All but the default style and the module flag is as before. -/
structure Keeps (c c' : Configuration) : Prop where
  overrides : c'.policy.overrides = c.policy.overrides
  tryExtensions : c'.policy.tryExtensions = c.policy.tryExtensions
  exclude : c'.exclude = c.exclude
  sourceExtensions : c'.sourceExtensions = c.sourceExtensions
  settings : settingsOf c'.table = settingsOf c.table

/-- The rule options under the flags of a call. -/
def optionsUnder (options : List Value) (flags : Flags) : List Value :=
  withEsm (withStyle options (flags.style.map fun s => .text s.label)) (flags.esm.map .bool)

theorem optionsUnder_optionsUnder (options : List Value) (first later : Flags) :
    optionsUnder (optionsUnder options first) later = optionsUnder options (first.followedBy later) := by
  have hor {α β : Type} (f : α → β) (a b : Option α) : (a.or b).map f = (a.map f).or (b.map f) := by
    cases a with
    | none => rfl
    | some a => rfl
  rw [optionsUnder, optionsUnder, withEsm_withStyle_again, optionsUnder, Flags.followedBy, hor, hor]

theorem under_eq {c : Configuration} {options : List Value} (h : optionsOf c.table = .ok options)
    (flags : Flags) :
    c.under flags = ofTable (c.table.set "options" (.list (optionsUnder options flags))) := by
  rw [under, override, h]
  rfl

theorem policy_optionsUnder {options : List Value} {settings : Table} {p : Policy}
    (h : Options.policy options settings = .ok p) (flags : Flags) :
    ∃ esm, Options.policy (optionsUnder options flags) settings
        = .ok { p with defaultStyle := flags.style.getD p.defaultStyle, esm := esm }
      ∧ (flags.esm = none → esm = p.esm) := by
  have hstyle : Options.policy (withStyle options (flags.style.map fun s => .text s.label)) settings
      = .ok { p with defaultStyle := flags.style.getD p.defaultStyle } := by
    cases flags.style with
    | none => exact h
    | some s => exact policy_withStyle h s
  rw [optionsUnder]
  cases flags.esm with
  | none => exact ⟨p.esm, hstyle, fun _ => rfl⟩
  | some b => exact ⟨_, policy_withEsm hstyle b, fun hnone => absurd hnone (by simp)⟩

section

variable {c : Configuration} (h : ofTable c.table = .ok c)

include h

/-- A call goes through, and what comes out is a configuration that was read from its own table. -/
theorem exists_under (flags : Flags) :
    ∃ c', c.under flags = .ok c' ∧ ofTable c'.table = .ok c' ∧ Keeps c c'
      ∧ c'.policy.defaultStyle = flags.style.getD c.policy.defaultStyle
      ∧ (flags.esm = none → c'.policy.esm = c.policy.esm) := by
  obtain ⟨_, options, hoptions, hpolicy⟩ := ofTable_eq_ok.1 h
  obtain ⟨esm, hunder, hesm⟩ := policy_optionsUnder hpolicy flags
  let c' : Configuration := {
    table := c.table.set "options" (.list (optionsUnder options flags))
    policy := {
      c.policy with defaultStyle := flags.style.getD c.policy.defaultStyle, esm := esm } }
  have hload : ofTable c'.table = .ok c' := by
    refine ofTable_eq_ok.2 ⟨rfl, _, optionsOf_set c.table _, ?_⟩
    rw [settingsOf_set]
    exact hunder
  -- the other lists of the table stand under keys that are not written
  have hlist (key : Text) (default : List Text) (hkey : key ≠ "options") :
      textList c'.table key default = textList c.table key default := by
    funext room
    rw [textList, textList, Table.get?_set_of_ne c.table _ hkey]
  refine ⟨c', ?_, hload, ⟨rfl, rfl, ?_, ?_, settingsOf_set c.table _⟩, rfl, hesm⟩
  · rw [under_eq hoptions]
    exact hload
  · exact hlist "exclude" _ (by decide)
  · exact hlist "source_extensions" _ (by decide)

/-- Two calls, one after the other, amount to one. -/
theorem under_bind_under (first later : Flags) :
    (c.under first).bind (·.under later) = c.under (first.followedBy later) := by
  obtain ⟨_, options, hoptions, _⟩ := ofTable_eq_ok.1 h
  obtain ⟨c', hunder, _⟩ := exists_under h first
  have htable : c'.table = c.table.set "options" (.list (optionsUnder options first)) := by
    rw [under_eq hoptions] at hunder
    exact (ofTable_eq_ok.1 hunder).1
  have hoptions' : optionsOf c'.table = .ok (optionsUnder options first) := by
    rw [htable, optionsOf_set]
  have hlater : c'.under later = c.under (first.followedBy later) := by
    rw [under_eq hoptions', htable, Table.set_set, optionsUnder_optionsUnder, under_eq hoptions]
  rw [hunder]
  exact hlater

/-- A row of calls amounts to one call with what they give last. -/
theorem foldlM_under (first : Flags) (rest : List Flags) :
    (first :: rest).foldlM under c = c.under (Flags.last (first :: rest)) := by
  -- the first two calls of a row amount to one, and the row gets shorter
  induction rest generalizing first with
  | nil =>
    have hlast : Flags.last [first] = first := by
      simp [Flags.last]
    rw [hlast, List.foldlM_cons]
    cases c.under first with
    | error fault => rfl
    | ok c' => rfl
  | cons later rest ih =>
    have hlast : Flags.last (first :: later :: rest) = Flags.last (first.followedBy later :: rest) := by
      simp only [Flags.last, getLast?_filterMap_cons, Flags.followedBy, Option.or_assoc]
    have htwo : (first :: later :: rest).foldlM under c
        = ((c.under first).bind (·.under later)).bind (rest.foldlM under ·) := by
      rw [List.foldlM_cons]
      cases c.under first with
      | error fault => rfl
      | ok c' => rfl
    rw [htwo, under_bind_under h, hlast, ← ih]
    rfl

end

/-- Overrides with the two styles and with module flags never fail.  Each call changes the default style to
the style that it gives, at most the module flag if it gives one, and nothing else.  A row of calls, whatever
each of them gives, leads to the configuration that one call leads to with the last style and the last flag
of the row. -/
theorem overrides_amount_to_last {table : Table} {c : Configuration} (h : ofTable table = .ok c) :
    (∀ flags, ∃ c', c.under flags = .ok c' ∧ Keeps c c'
        ∧ c'.policy.defaultStyle = flags.style.getD c.policy.defaultStyle
        ∧ (flags.esm = none → c'.policy.esm = c.policy.esm))
      ∧ ∀ first rest, (first :: rest).foldlM under c = c.under (Flags.last (first :: rest)) := by
  obtain ⟨htable, _⟩ := ofTable_eq_ok.1 h
  subst htable
  refine ⟨fun flags => ?_, fun first rest => foldlM_under h first rest⟩
  obtain ⟨c', hunder, _, hkeeps, hstyle, hesm⟩ := exists_under h flags
  exact ⟨c', hunder, hkeeps, hstyle, hesm⟩

/-- Options without a style, with an override and the flag, and with an item too many. -/
def scatteredTable : Table :=
  [("options", .list [.null, .table [(".json", .text "never"), ("esm", .bool true)], .int 3]),
   ("exclude", .list [.text "out"])]

/-- The configuration that is read from it. -/
def scatteredConfiguration : Configuration where
  table := scatteredTable
  policy := { overrides := [(".json", .never)], esm := true }

/-- A flag, a style, another flag and a call that gives nothing amount to one call with the style and the
second flag. -/
theorem overrides_amount_to_last_scattered :
    ofTable scatteredTable = .ok scatteredConfiguration
      ∧ [{ esm := some false }, { style := some .never }, { esm := some true }, {}].foldlM under
          scatteredConfiguration
        = scatteredConfiguration.under { style := some .never, esm := some true }
      ∧ ∃ c', scatteredConfiguration.under { style := some .never, esm := some true } = .ok c'
        ∧ Keeps scatteredConfiguration c' ∧ c'.policy.defaultStyle = .never := by
  have hload : ofTable scatteredTable = .ok scatteredConfiguration := rfl
  obtain ⟨hcall, hrow⟩ := overrides_amount_to_last hload
  obtain ⟨c', hunder, hkeeps, hstyle, _⟩ := hcall { style := some .never, esm := some true }
  exact ⟨hload, hrow _ _, c', hunder, hkeeps, hstyle⟩

end Configuration

end SpecifierLint
