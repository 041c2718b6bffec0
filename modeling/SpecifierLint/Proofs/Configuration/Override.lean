/-
Overridden configurations.

The command line puts a style and a module flag over the rule options of a configuration, and the policy
is read again from what comes out.  The module flag goes into the override table, under a key that no
other part of the policy looks at.  The shared settings are not touched, so a flag that they set is set
whatever the command line says.  Main statements:

* **`ofTable_eq_ok`** — the policy of a configuration is that of its options and settings;
* **`policy_withEsm`** — a module flag put over the options changes at most the flag of the policy;
* **`override_esm_decides_iff`** — the flag of the command line decides unless the settings set it.
-/
import SpecifierLint.Configuration
import SpecifierLint.Proofs.Outcome

namespace SpecifierLint

/-! ### Override tables -/

namespace Options

theorem overrides_set_of_isReserved {key : Text} (h : isReserved key = true) (t : Table)
    (value : Value) : overrides (t.set key value) = overrides t := by
  induction t with
  | nil => simp [Table.set, overrides, h]
  | cons entry rest ih =>
    obtain ⟨k, v⟩ := entry
    rw [Table.set]
    split
    · next hk =>
      subst hk
      rw [overrides, if_pos h, overrides, if_pos h]
    · rw [overrides, overrides, ih]

theorem tryExtensions?_set_esm (t : Table) (value : Value) :
    tryExtensions? (t.set esmKey value) = tryExtensions? t := by
  rw [tryExtensions?, tryExtensions?, Table.get?_set_of_ne t value (by decide)]

theorem setsEsm_set (t : Table) (b : Bool) : setsEsm (t.set esmKey (.bool b)) = b := by
  rw [setsEsm, Table.get?_set_self]
  cases b with
  | false => rfl
  | true => rfl

/-- A policy is read from options and settings without a fault exactly if a style and the overrides
are. -/
theorem policy_eq_ok {options : List Value} {settings : Table} {p : Policy} :
    policy options settings = .ok p ↔
      defaultStyle options = .ok p.defaultStyle
        ∧ overrides (overrideTable options) = .ok p.overrides
        ∧ p.tryExtensions = ((tryExtensions? (overrideTable options)).or
            (tryExtensions? (nodeTable settings))).getD defaultTryExtensions
        ∧ p.esm = (setsEsm (overrideTable options) || setsEsm (nodeTable settings)) := by
  rw [policy]
  cases defaultStyle options with
  | error fault => simp
  | ok style =>
    cases overrides (overrideTable options) with
    | error fault => simp
    | ok styles =>
      obtain ⟨defaultStyle, overrides, tryExtensions, esm⟩ := p
      simp only [Except.ok.injEq, Policy.mk.injEq, eq_comm (b := tryExtensions), eq_comm (b := esm)]

end Options

/-! ### Options put over options -/

namespace Configuration

open Options

theorem defaultStyle_withEsm (options : List Value) (esm : Value) :
    defaultStyle (withEsm options (some esm)) = defaultStyle options := by
  cases options with
  | nil => rfl
  | cons first rest =>
    cases first with
    | null => rfl
    | _ => rfl

/-- A module flag put over the options changes at most the flag of the policy: it is the one that was
put there, or set by the settings. -/
theorem policy_withEsm {options : List Value} {settings : Table} {p : Policy}
    (h : Options.policy options settings = .ok p) (b : Bool) :
    Options.policy (withEsm options (some (.bool b))) settings
      = .ok { p with esm := b || setsEsm (nodeTable settings) } := by
  obtain ⟨hstyle, hoverrides, htry, _⟩ := policy_eq_ok.1 h
  have htable : overrideTable (withEsm options (some (.bool b)))
      = (overrideTable options).set esmKey (.bool b) := rfl
  refine policy_eq_ok.2 ⟨?_, ?_, ?_, ?_⟩
  · rw [defaultStyle_withEsm]
    exact hstyle
  · rw [htable, overrides_set_of_isReserved (by decide)]
    exact hoverrides
  · rw [htable, tryExtensions?_set_esm]
    exact htry
  · rw [htable, setsEsm_set]

/-! ### Configurations of tables -/

/-- The policy of a configuration is that of its options and settings. -/
theorem ofTable_eq_ok {table : Table} {c : Configuration} :
    ofTable table = .ok c ↔
      c.table = table ∧ ∃ options, optionsOf table = .ok options
        ∧ Options.policy options (settingsOf table) = .ok c.policy := by
  rw [ofTable]
  cases optionsOf table with
  | error fault => simp
  | ok options =>
    obtain ⟨t, p⟩ := c
    simp [Outcome.map_eq_ok, eq_comm (a := table), and_comm]

theorem optionsOf_set (table : Table) (options : List Value) :
    optionsOf (table.set "options" (.list options)) = .ok options := by
  rw [optionsOf, Table.get?_set_self]

theorem settingsOf_set (table : Table) (options : Value) :
    settingsOf (table.set "options" options) = settingsOf table := by
  rw [settingsOf, settingsOf, Table.get?_set_of_ne table options (by decide)]

/-- A configuration can be overridden by a module flag, which decides unless the table `node` of the
shared settings sets the flag: with the flag false, the settings are still asked.  The rest of the policy
stays. -/
theorem override_esm_decides_iff {table : Table} {c : Configuration} (h : ofTable table = .ok c)
    (b : Bool) :
    ∃ c', c.override none (some (.bool b)) = .ok c'
      ∧ c'.policy = { c.policy with esm := b || setsEsm (nodeTable (settingsOf table)) }
      ∧ (c'.policy.esm = b ↔ b = true ∨ setsEsm (nodeTable (settingsOf table)) = false) := by
  obtain ⟨rfl, options, hoptions, hpolicy⟩ := ofTable_eq_ok.1 h
  let overridden : Configuration := {
    table := c.table.set "options" (.list (withEsm options (some (.bool b))))
    policy := { c.policy with esm := b || setsEsm (nodeTable (settingsOf c.table)) } }
  have hload : ofTable overridden.table = .ok overridden := by
    refine ofTable_eq_ok.2 ⟨rfl, _, optionsOf_set c.table _, ?_⟩
    rw [settingsOf_set]
    exact policy_withEsm hpolicy b
  refine ⟨overridden, ?_, rfl, ?_⟩
  · rw [override, hoptions]
    exact hload
  · cases b with
    | false => simp [overridden]
    | true => simp [overridden]

/-- Options that set the flag, with an item too many, and settings that do not. -/
def flaggedTable : Table :=
  [("options", .list [.text "never", .table [(".json", .text "always"), ("esm", .bool true)], .null]),
   ("settings", .table [("node", .table [("esm", .text "yes")])])]

/-- The flag false decides against the options, and a flag of the settings that is not true does not
count. -/
theorem override_esm_decides_iff_flagged :
    ∃ c c', ofTable flaggedTable = .ok c ∧ c.policy.esm = true
      ∧ c.override none (some (.bool false)) = .ok c'
      ∧ c'.policy = { defaultStyle := .never, overrides := [(".json", .always)] } := by
  have hload : ofTable flaggedTable
      = .ok ⟨flaggedTable, { defaultStyle := .never, overrides := [(".json", .always)], esm := true }⟩ :=
    ofTable_eq_ok.2 ⟨rfl, _, rfl, policy_eq_ok.2 ⟨rfl, rfl, rfl, rfl⟩⟩
  obtain ⟨c', hoverride, hpolicy, _⟩ := override_esm_decides_iff hload false
  exact ⟨_, c', hload, rfl, hoverride, hpolicy⟩

/-- Settings that set the flag. -/
def settledTable : Table := [("settings", .table [("node", .table [("esm", .bool true)])])]

/-- Where the settings set the flag, the flag false of the command line has no effect. -/
theorem override_esm_false_ignored :
    ∃ c c', ofTable settledTable = .ok c ∧ c.override none (some (.bool false)) = .ok c'
      ∧ c'.policy.esm = true :=
  ⟨⟨settledTable, { esm := true }⟩, _, rfl, rfl, rfl⟩

end Configuration

end SpecifierLint
