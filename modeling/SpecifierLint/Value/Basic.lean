/-
Configuration values.

Configuration files, rule options and the guidance registry hold values of one dynamic type.  A
table keeps its entries in the order in which they were written, and each key stands once in it.
Main statements:

* **`Table.get?_set_self`** — a key that was set is found with its value;
* **`Table.get?_set_of_ne`** — setting a key leaves the others as they were.
-/
import SpecifierLint.Number.Decimal

namespace SpecifierLint

/-- A value of a configuration file. -/
inductive Value where
  | null
  | bool (b : Bool)
  | int (n : Int)
  | real (x : Floating)
  | text (t : Text)
  | list (items : List Value)
  | table (entries : List (Text × Value))
  deriving Repr, Inhabited

/-- Keys with their values, in the order of writing. -/
abbrev Table := List (Text × Value)

namespace Table

/-- The value of a key. -/
def get? (t : Table) (key : Text) : Option Value := t.lookup key

/-- The key is present. -/
def has (t : Table) (key : Text) : Bool := (t.get? key).isSome

/-- Gives a key a value, in its old place if it has one, else at the end. -/
def set : Table → Text → Value → Table
  | [], key, value => [(key, value)]
  | (k, v) :: rest, key, value =>
    if k = key then (k, value) :: rest else (k, v) :: set rest key value

/-- The keys in order. -/
def keys (t : Table) : List Text := t.map Prod.fst

@[simp] theorem get?_set_self (t : Table) (key : Text) (value : Value) :
    (t.set key value).get? key = some value := by
  induction t with
  | nil => simp [set, get?]
  | cons entry rest ih =>
    obtain ⟨k, v⟩ := entry
    by_cases h : k = key
    · simp [set, get?, h]
    · have h' : (key == k) = false := by simpa using fun e => h e.symm
      simp only [set, h, if_false, get?, List.lookup_cons, h']
      exact ih

theorem get?_set_of_ne (t : Table) {key other : Text} (value : Value) (h : other ≠ key) :
    (t.set key value).get? other = t.get? other := by
  induction t with
  | nil => simp [set, get?, h]
  | cons entry rest ih =>
    obtain ⟨k, v⟩ := entry
    by_cases hk : k = key
    · subst hk
      have h' : (other == k) = false := by simpa using h
      simp [set, get?, h', List.lookup_cons]
    · simp only [set, hk, if_false, get?, List.lookup_cons]
      split
      · rfl
      · exact ih

end Table

namespace Value

/-- Null, false, zero and whatever is empty count as absent. -/
def isPresent : Value → Bool
  | .null => false
  | .bool b => b
  | .int n => n != 0
  | .real x => !x.isZero
  | .text t => !t.isEmpty
  | .list items => !items.isEmpty
  | .table entries => !entries.isEmpty

/-- The entries of a table. -/
def table? : Value → Option Table
  | .table entries => some entries
  | _ => none

/-- The items of a list. -/
def list? : Value → Option (List Value)
  | .list items => some items
  | _ => none

/-- The text of a text. -/
def text? : Value → Option Text
  | .text t => some t
  | _ => none

/-- The truth value. -/
def bool? : Value → Option Bool
  | .bool b => some b
  | _ => none

end Value

end SpecifierLint
