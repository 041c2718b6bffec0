/-
Values that can be written.

A message quotes a value with all its parts, and it cannot quote every value.  Parts can be nested deeper
than there is room for, and an integer can have too many digits.  Parts are written in their order, so the
first part that cannot be written says why the value cannot.  Main statements:

* **`formEntries_eq`** — a table is written if its values are;
* **`exists_form_iff`** — the values that can be written;
* **`form_eq_error_iff`** — why the others cannot.
-/
import SpecifierLint.Proofs.Outcome
import SpecifierLint.Value.Display

namespace SpecifierLint.Value

/-- The value can be written: there is room for the nesting of its parts, and the integers among them do
not have too many digits. -/
inductive IsWritable : Nat → Value → Prop
  | null {room : Nat} : IsWritable (room + 1) .null
  | bool {room : Nat} {b : Bool} : IsWritable (room + 1) (.bool b)
  | int {room : Nat} {n : Int} (h : n.natAbs < integerLimit) : IsWritable (room + 1) (.int n)
  | real {room : Nat} {x : Floating} : IsWritable (room + 1) (.real x)
  | text {room : Nat} {t : Text} : IsWritable (room + 1) (.text t)
  | list {room : Nat} {items : List Value} (h : ∀ v ∈ items, IsWritable room v) :
      IsWritable (room + 1) (.list items)
  | table {room : Nat} {entries : List (Text × Value)}
      (h : ∀ entry ∈ entries, IsWritable room entry.2) : IsWritable (room + 1) (.table entries)

/-- Why a value cannot be written: no room is left for it, it is an integer with too many digits, or it has
a part that cannot be written, behind others that can. -/
inductive Unwritable : Nat → Value → FormFault → Prop
  | deep {v : Value} : Unwritable 0 v .tooDeep
  | long {room : Nat} {n : Int} (h : integerLimit ≤ n.natAbs) :
      Unwritable (room + 1) (.int n) .longInteger
  | item {room : Nat} {before after : List Value} {v : Value} {fault : FormFault}
      (hbefore : ∀ w ∈ before, IsWritable room w) (hv : Unwritable room v fault) :
      Unwritable (room + 1) (.list (before ++ v :: after)) fault
  | entry {room : Nat} {before after : List (Text × Value)} {key : Text} {v : Value}
      {fault : FormFault} (hbefore : ∀ w ∈ before, IsWritable room w.2)
      (hv : Unwritable room v fault) :
      Unwritable (room + 1) (.table (before ++ (key, v) :: after)) fault

variable {room : Nat}

/-! ### Parts -/

/-- A table is written if its values are, in their order, each behind its key. -/
theorem formEntries_eq (entries : List (Text × Value)) :
    formEntries entries room
      = (formItems (entries.map Prod.snd) room).map
          fun forms => (entries.zip forms).map fun p => Text.quoted p.1.1 ++ ": " ++ p.2 := by
  induction entries with
  | nil => rfl
  | cons entry rest ih =>
    obtain ⟨key, v⟩ := entry
    rw [formEntries, List.map_cons, formItems]
    cases v.form room with
    | error fault => rfl
    | ok t =>
      rw [ih]
      cases formItems (rest.map Prod.snd) room with
      | error fault => rfl
      | ok forms => rfl

theorem exists_formItems_iff {items : List Value} :
    (∃ forms, formItems items room = .ok forms) ↔ ∀ v ∈ items, ∃ t, v.form room = .ok t := by
  induction items with
  | nil => simp [formItems]
  | cons v rest ih =>
    rw [List.forall_mem_cons, ← ih, formItems]
    cases v.form room with
    | error fault => simp
    | ok t => simp [Outcome.map_eq_ok]

/-- Writing some values one after the other fails at the first that cannot be written. -/
theorem formItems_eq_error_iff {items : List Value} {fault : FormFault} :
    formItems items room = .error fault ↔
      ∃ before v after, items = before ++ v :: after
        ∧ (∀ w ∈ before, ∃ t, w.form room = .ok t) ∧ v.form room = .error fault := by
  induction items with
  | nil => simp [formItems]
  | cons first rest ih =>
    rw [formItems]
    constructor
    · intro h
      cases hfirst : first.form room with
      | error e =>
        rw [hfirst] at h
        cases h
        exact ⟨[], first, rest, rfl, by simp, hfirst⟩
      | ok t =>
        rw [hfirst] at h
        cases hrest : formItems rest room with
        | ok forms => exact absurd h (by simp [hrest, Except.map])
        | error e =>
          rw [hrest] at h
          cases h
          obtain ⟨before, v, after, rfl, hbefore, hv⟩ := ih.1 hrest
          exact ⟨first :: before, v, after, rfl, List.forall_mem_cons.2 ⟨⟨t, hfirst⟩, hbefore⟩, hv⟩
    · rintro ⟨before, v, after, heq, hbefore, hv⟩
      -- the value that cannot be written is the first one or stands among the others
      cases before with
      | nil =>
        obtain ⟨rfl, rfl⟩ := List.cons.inj heq
        rw [hv]
      | cons w before =>
        obtain ⟨rfl, rfl⟩ := List.cons.inj heq
        obtain ⟨⟨t, ht⟩, hbefore⟩ := List.forall_mem_cons.1 hbefore
        rw [ht, ih.2 ⟨before, v, after, rfl, hbefore, hv⟩]
        rfl

theorem form_list (items : List Value) :
    form (.list items) (room + 1)
      = (formItems items room).map fun forms => "[" ++ Text.join ", " forms ++ "]" := by
  rw [form]

theorem form_table (entries : List (Text × Value)) :
    form (.table entries) (room + 1)
      = (formEntries entries room).map fun forms => "\x7b" ++ Text.join ", " forms ++ "\x7d" := by
  rw [form]

theorem intForm_eq_ok_iff {n : Int} : (∃ t, intForm n = .ok t) ↔ n.natAbs < integerLimit := by
  rw [intForm, ← Nat.not_le]
  split
  · next h => simp [h]
  · next h => simp [h]

theorem intForm_eq_error_iff {n : Int} {fault : FormFault} :
    intForm n = .error fault ↔ integerLimit ≤ n.natAbs ∧ fault = .longInteger := by
  rw [intForm]
  split
  · next h => simp [h, eq_comm]
  · next h => simp [h]

/-! ### Values -/

/-- The values that can be written. -/
theorem exists_form_iff {v : Value} : (∃ t, v.form room = .ok t) ↔ IsWritable room v := by
  -- each level of nesting takes one from the room
  induction room generalizing v with
  | zero =>
    rw [form]
    exact ⟨fun h => absurd h (by simp), nofun⟩
  | succ room ih =>
    cases v with
    | null => exact ⟨fun _ => .null, fun _ => ⟨_, rfl⟩⟩
    | bool b => exact ⟨fun _ => .bool, fun _ => ⟨_, rfl⟩⟩
    | int n =>
      rw [form, intForm_eq_ok_iff]
      exact ⟨.int, fun h => by cases h; assumption⟩
    | real x => exact ⟨fun _ => .real, fun _ => ⟨_, rfl⟩⟩
    | text t => exact ⟨fun _ => .text, fun _ => ⟨_, rfl⟩⟩
    | list items =>
      have hparts : (∃ t, form (.list items) (room + 1) = .ok t)
          ↔ ∃ forms, formItems items room = .ok forms := by
        rw [form_list]
        simp [Outcome.map_eq_ok]
      rw [hparts, exists_formItems_iff]
      simp only [ih]
      exact ⟨.list, fun h => by cases h; assumption⟩
    | table entries =>
      have hparts : (∃ t, form (.table entries) (room + 1) = .ok t)
          ↔ ∃ forms, formItems (entries.map Prod.snd) room = .ok forms := by
        rw [form_table, formEntries_eq]
        simp [Outcome.map_eq_ok]
      rw [hparts, exists_formItems_iff, List.forall_mem_map]
      simp only [ih]
      exact ⟨.table, fun h => by cases h; assumption⟩

/-- Why the others cannot. -/
theorem form_eq_error_iff {v : Value} {fault : FormFault} :
    v.form room = .error fault ↔ Unwritable room v fault := by
  induction room generalizing v with
  | zero =>
    rw [form]
    exact ⟨fun h => by cases h; exact .deep, fun h => by cases h; rfl⟩
  | succ room ih =>
    cases v with
    | null => exact ⟨nofun, nofun⟩
    | bool b => exact ⟨nofun, nofun⟩
    | int n =>
      rw [form, intForm_eq_error_iff]
      constructor
      · rintro ⟨h, rfl⟩
        exact .long h
      · intro h
        cases h with
        | long h => exact ⟨h, rfl⟩
    | real x => exact ⟨nofun, nofun⟩
    | text t => exact ⟨nofun, nofun⟩
    | list items =>
      have hparts : form (.list items) (room + 1) = .error fault
          ↔ formItems items room = .error fault := by
        rw [form_list]
        cases formItems items room <;> simp [Except.map]
      rw [hparts, formItems_eq_error_iff]
      simp only [exists_form_iff, ih]
      constructor
      · rintro ⟨before, v, after, rfl, hbefore, hv⟩
        exact .item hbefore hv
      · intro h
        cases h with
        | item hbefore hv => exact ⟨_, _, _, rfl, hbefore, hv⟩
    | table entries =>
      have hparts : form (.table entries) (room + 1) = .error fault
          ↔ formItems (entries.map Prod.snd) room = .error fault := by
        rw [form_table, formEntries_eq]
        cases formItems (entries.map Prod.snd) room <;> simp [Except.map]
      rw [hparts, formItems_eq_error_iff]
      simp only [exists_form_iff, ih]
      constructor
      · rintro ⟨before, v, after, heq, hbefore, hv⟩
        -- the values that were split stand in entries that are split in the same way
        obtain ⟨front, back, rfl, rfl, hback⟩ := List.map_eq_append_iff.1 heq
        obtain ⟨⟨key, w⟩, rest, rfl, rfl, rfl⟩ := List.map_eq_cons_iff.1 hback
        exact .entry (List.forall_mem_map.1 hbefore) hv
      · intro h
        cases h with
        | @entry _ before after key v _ hbefore hv =>
          exact ⟨_, v, _, List.map_append, List.forall_mem_map.2 hbefore, hv⟩

end SpecifierLint.Value
