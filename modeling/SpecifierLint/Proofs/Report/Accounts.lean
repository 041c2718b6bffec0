/-
Views of a result and what they add up to.

The record of a result leaves out the files that nothing is said about and still lists every violation,
and its counts are those of what it lists.  The table by extension has one row for each kind and extension
that some violation has, and its columns of numbers add up to the counts of the result.  Main statements:

* **`sum_count_of_nodup`** — counts by different keys add up to the number of what has one of the keys;
* **`CheckResult.listedIn?_record`** — a record lists all violations, in order;
* **`CheckResult.sum_count_byExtension`**, **`CheckResult.sum_fixable_byExtension`** — the rows count every
  violation once;
* **`views_account`** — both views account for the same violations.
-/
import Mathlib.Algebra.GroupWithZero.Nat
import Mathlib.Data.List.Count
import Mathlib.Data.List.Nodup
import SpecifierLint.Proofs.Text.Decimal
import SpecifierLint.Report.Printed

namespace SpecifierLint

/-! ### Counting by keys -/

section

variable {κ : Type} [BEq κ] [LawfulBEq κ]

theorem nodup_eraseDups (xs : List κ) : xs.eraseDups.Nodup := by
  match xs with
  | [] => exact List.nodup_nil
  | x :: rest =>
    rw [List.eraseDups_cons, List.nodup_cons]
    refine ⟨?_, nodup_eraseDups _⟩
    rw [List.mem_eraseDups, List.mem_filter]
    simp
termination_by xs.length
decreasing_by
  simp only [List.length_cons]
  exact Nat.lt_succ_of_le (List.length_filter_le ..)

theorem countP_mem_cons {key : κ} {keys : List κ} (h : key ∉ keys) (xs : List κ) :
    xs.countP (· ∈ key :: keys) = xs.count key + xs.countP (· ∈ keys) := by
  induction xs with
  | nil => rfl
  | cons x xs ih =>
    rw [List.countP_cons, List.countP_cons, List.count_cons, ih]
    by_cases hx : x = key
    · subst hx
      simp [h]
      omega
    · simp [hx]
      omega

/-- Counts by different keys add up to the number of what has one of the keys. -/
theorem sum_count_of_nodup {keys : List κ} (h : keys.Nodup) (xs : List κ) :
    (keys.map (xs.count ·)).sum = xs.countP (· ∈ keys) := by
  induction keys with
  | nil => simp
  | cons key keys ih =>
    obtain ⟨hkey, hkeys⟩ := List.nodup_cons.1 h
    rw [List.map_cons, List.sum_cons, ih hkeys, countP_mem_cons hkey]

end

/-! ### Violations by extension -/

namespace ExtensionCount

theorem mem_keys {vs : List Violation} {key : List Text} :
    key ∈ keys vs ↔ ∃ v ∈ vs, keyOf v = key := by
  rw [keys, List.mem_mergeSort, List.mem_eraseDups, List.mem_map]

theorem nodup_keys (vs : List Violation) : (keys vs).Nodup :=
  (List.mergeSort_perm _ _).nodup_iff.2 (nodup_eraseDups _)

theorem keys_strict (vs : List Violation) : (keys vs).Pairwise (· < ·) := by
  have hsorted : (keys vs).Pairwise fun a b => (!decide (b < a)) = true := by
    refine List.pairwise_mergeSort (fun a b c hab hbc => ?_) (fun a b => ?_) _
    · simp only [Bool.not_eq_true', decide_eq_false_iff_not] at hab hbc ⊢
      exact List.le_trans hab hbc
    · simp only [Bool.or_eq_true, Bool.not_eq_true', decide_eq_false_iff_not]
      exact List.le_total a b
  -- keys that do not decrease and are never the same increase
  refine (hsorted.and (nodup_keys vs)).imp fun {a b} hab => ?_
  obtain ⟨hnot, hne⟩ := hab
  simp only [Bool.not_eq_true', decide_eq_false_iff_not] at hnot
  by_contra hlt
  exact hne (Std.Trichotomous.trichotomous a b hlt hnot)

theorem count_ofKey (vs : List Violation) (key : List Text) :
    (ofKey vs key).count = (vs.map keyOf).count key := by
  rw [List.count_eq_countP, List.countP_map, List.countP_eq_length_filter]
  show (vs.filter (keyOf · = key)).length = _
  congr 1
  refine List.filter_congr fun v _ => ?_
  rw [Function.comp_apply, beq_eq_decide]

theorem fixable_ofKey (vs : List Violation) (key : List Text) :
    (ofKey vs key).fixable = ((vs.filter (·.fixable)).map keyOf).count key := by
  rw [← count_ofKey]
  show ((vs.filter (keyOf · = key)).filter (·.fixable)).length
    = ((vs.filter (·.fixable)).filter (keyOf · = key)).length
  rw [List.filter_filter, List.filter_filter]
  simp only [Bool.and_comm]

end ExtensionCount

namespace CheckResult

open ExtensionCount

/-- A number that says in each row how many of some violations have its key adds up to how many they are. -/
theorem sum_byExtension {r : CheckResult} {vs : List Violation} {number : ExtensionCount → Nat}
    (hsub : vs ⊆ r.violations)
    (hnumber : ∀ key, number (ofKey r.violations key) = (vs.map keyOf).count key) :
    (r.byExtension.map number).sum = vs.length := by
  have hcounts : r.byExtension.map number = (keys r.violations).map ((vs.map keyOf).count ·) := by
    rw [byExtension, List.map_map]
    exact List.map_congr_left fun key _ => hnumber key
  rw [hcounts, sum_count_of_nodup (nodup_keys _), List.countP_eq_length.2, List.length_map]
  intro key hkey
  obtain ⟨v, hv, rfl⟩ := List.mem_map.1 hkey
  simpa using mem_keys.2 ⟨v, hsub hv, rfl⟩

/-- The rows by extension count every violation once. -/
theorem sum_count_byExtension (r : CheckResult) :
    (r.byExtension.map (·.count)).sum = r.violations.length :=
  sum_byExtension (List.Subset.refl _) (count_ofKey r.violations)

/-- The rows by extension count every violation with an edit once. -/
theorem sum_fixable_byExtension (r : CheckResult) :
    (r.byExtension.map (·.fixable)).sum = r.fixableCount :=
  sum_byExtension (List.filter_subset_self _) (fixable_ofKey r.violations)

theorem count_pos_of_mem_byExtension {r : CheckResult} {row : ExtensionCount}
    (h : row ∈ r.byExtension) : 0 < row.count := by
  obtain ⟨key, hkey, rfl⟩ := List.mem_map.1 h
  obtain ⟨v, hv, hkeyOf⟩ := mem_keys.1 hkey
  rw [count_ofKey, List.count_pos_iff, List.mem_map]
  exact ⟨v, hv, hkeyOf⟩

end CheckResult

/-! ### Records -/

/-- The value under a key of a table. -/
def Value.field? (v : Value) (key : Text) : Option Value := v.table?.bind (·.get? key)

/-- The items of the list under a key of a table. -/
def Value.itemsOf? (v : Value) (key : Text) : Option (List Value) := (v.field? key).bind Value.list?

/-- The violations that the record of a result lists under its files, one file after the other. -/
def listedIn? (record : Value) : Option (List Value) := do
  let files ← record.itemsOf? "files"
  let lists ← files.mapM (·.itemsOf? "violations")
  some lists.flatten

/-- The record of a violation says that an edit is offered. -/
def saysFixable (record : Value) : Bool := (record.field? "fixable").bind Value.bool? = some true

theorem saysFixable_record (v : Violation) : saysFixable v.record = v.fixable := by
  show decide (some v.fixable = some true) = v.fixable
  cases v.fixable with
  | false => rfl
  | true => rfl

theorem itemsOf?_record (f : FileReport) :
    f.record.itemsOf? "violations" = some (f.violations.map Violation.record) := rfl

theorem mapM_itemsOf?_record (fs : List FileReport) :
    (fs.map FileReport.record).mapM (·.itemsOf? "violations")
      = some (fs.map fun f => f.violations.map Violation.record) := by
  induction fs with
  | nil => rfl
  | cons f rest ih =>
    rw [List.map_cons, List.mapM_cons, itemsOf?_record, ih]
    rfl

/-- A record lists all violations, in order. -/
theorem CheckResult.listedIn?_record (r : CheckResult) :
    listedIn? r.record = some (r.violations.map Violation.record) := by
  show ((r.notable.map FileReport.record).mapM fun f : Value => f.itemsOf? "violations").bind
    (fun lists => some lists.flatten) = _
  rw [mapM_itemsOf?_record, ← r.violations_notable, List.map_flatMap, List.flatMap_def]
  rfl

/-! ### Tables -/

namespace Report

/-- The cells below a head. -/
def MarkupTable.column (t : MarkupTable) (head : Text) : List Text :=
  t.rows.map fun row => row.getD (t.heads.idxOf head) []

theorem column_extensionTable (title : Text) (r : CheckResult) :
    (extensionTable title r).column "Kind" = r.byExtension.map (·.kind)
      ∧ (extensionTable title r).column "Extension" = r.byExtension.map (·.extension)
      ∧ (extensionTable title r).column "Count" = r.byExtension.map (Text.ofNat ·.count)
      ∧ (extensionTable title r).column "Auto-fixable" = r.byExtension.map (Text.ofNat ·.fixable) := by
  refine ⟨?_, ?_, ?_, ?_⟩
  all_goals rw [MarkupTable.column, extensionTable, List.map_map]
  all_goals rfl

theorem map_number_column (rows : List ExtensionCount) (number : ExtensionCount → Nat) :
    (rows.map (Text.ofNat ∘ number)).map Text.number = rows.map number := by
  rw [List.map_map]
  exact List.map_congr_left fun row _ => Text.number_ofNat (number row)

/-- The kinds and extensions in the rows of a table. -/
def MarkupTable.pairs (t : MarkupTable) : List (Text × Text) :=
  (t.column "Kind").zip (t.column "Extension")

theorem pairs_extensionTable (title : Text) (r : CheckResult) :
    (extensionTable title r).pairs
      = (ExtensionCount.keys r.violations).map fun key => (key.getD 0 [], key.getD 1 []) := by
  obtain ⟨hkind, hextension, _⟩ := column_extensionTable title r
  rw [MarkupTable.pairs, hkind, hextension, List.zip_map', CheckResult.byExtension, List.map_map]
  rfl

theorem pairs_strict (title : Text) (r : CheckResult) :
    (extensionTable title r).pairs.Pairwise (Prod.Lex (· < ·) (· < ·)) := by
  rw [pairs_extensionTable, List.pairwise_map]
  refine (ExtensionCount.keys_strict r.violations).imp_of_mem fun {a b} ha hb hab => ?_
  obtain ⟨v, _, rfl⟩ := ExtensionCount.mem_keys.1 ha
  obtain ⟨w, _, rfl⟩ := ExtensionCount.mem_keys.1 hb
  -- a key is a kind and an extension behind it, so keys are ordered as pairs are
  show Prod.Lex _ _ (v.kind.label, v.extension) (w.kind.label, w.extension)
  rw [Prod.lex_def]
  rcases List.cons_lt_cons_iff.1 hab with hkind | ⟨hkind, hrest⟩
  · exact .inl hkind
  · rcases List.cons_lt_cons_iff.1 hrest with hextension | ⟨_, hnil⟩
    · exact .inr ⟨hkind, hextension⟩
    · exact absurd hnil (List.not_lt_nil _)

theorem mem_pairs {title : Text} {r : CheckResult} {kind extension : Text} :
    (kind, extension) ∈ (extensionTable title r).pairs ↔
      ∃ v ∈ r.violations, v.kind.label = kind ∧ v.extension = extension := by
  rw [pairs_extensionTable, List.mem_map]
  constructor
  · rintro ⟨key, hkey, hpair⟩
    obtain ⟨v, hv, rfl⟩ := ExtensionCount.mem_keys.1 hkey
    exact ⟨v, hv, Prod.mk.inj hpair⟩
  · rintro ⟨v, hv, rfl, rfl⟩
    exact ⟨_, ExtensionCount.mem_keys.2 ⟨v, hv, rfl⟩, rfl⟩

/-- The record of a result lists all violations in order, also those it counts as fixable, and the table by
extension has one row for each kind and extension that occurs, in strictly increasing order; each row counts
some violations, and the columns add up to the counts of the result. -/
theorem views_account (r : CheckResult) (title : Text) :
    (∃ listed, listedIn? r.record = some listed
        ∧ listed = r.reports.flatMap (fun f => f.violations.map Violation.record)
        ∧ r.record.field? "violation_count" = some (.int listed.length)
        ∧ r.record.field? "fixable_count" = some (.int (listed.countP saysFixable))
        ∧ (r.hasViolations = true ↔ 0 < listed.length))
      ∧ (extensionTable title r).pairs.Pairwise (Prod.Lex (· < ·) (· < ·))
      ∧ (∀ kind extension, (kind, extension) ∈ (extensionTable title r).pairs ↔
          ∃ v ∈ r.violations, v.kind.label = kind ∧ v.extension = extension)
      ∧ (∀ cell ∈ (extensionTable title r).column "Count", ∃ n, 0 < n ∧ cell = Text.ofNat n)
      ∧ (((extensionTable title r).column "Count").map Text.number).sum = r.violations.length
      ∧ (((extensionTable title r).column "Auto-fixable").map Text.number).sum = r.fixableCount := by
  obtain ⟨_, _, hcount, hfixable⟩ := column_extensionTable title r
  refine ⟨⟨_, r.listedIn?_record, ?_, ?_, ?_, ?_⟩, pairs_strict title r, fun _ _ => mem_pairs, ?_, ?_, ?_⟩
  · rw [CheckResult.violations, List.map_flatMap]
  · rw [List.length_map]
    rfl
  · rw [List.countP_map, List.countP_congr fun v _ => by rw [Function.comp_apply, saysFixable_record],
      List.countP_eq_length_filter]
    rfl
  · rw [List.length_map, List.length_pos_iff]
    exact r.hasViolations_iff
  · intro cell hcell
    rw [hcount, List.mem_map] at hcell
    obtain ⟨row, hrow, rfl⟩ := hcell
    exact ⟨row.count, CheckResult.count_pos_of_mem_byExtension hrow, rfl⟩
  · rw [hcount, ← r.sum_count_byExtension]
    exact congrArg List.sum (map_number_column r.byExtension (·.count))
  · rw [hfixable, ← r.sum_fixable_byExtension]
    exact congrArg List.sum (map_number_column r.byExtension (·.fixable))

end Report

end SpecifierLint
