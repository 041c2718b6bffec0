/-
How values are shown in messages.

`Value.form` writes a value unambiguously: texts in quotes, lists and tables with their items, and
the words `None`, `True` and `False`.  `Value.display` is the same except that a text at the top
stands for itself.  Not every value can be written: an integer can have too many digits, and the parts
of a value can be nested deeper than there is room for.
-/
import SpecifierLint.Value.Basic
import SpecifierLint.Text.Quoted

namespace SpecifierLint

/-- Why a value cannot be written. -/
inductive FormFault where
  | longInteger
  | tooDeep
  deriving DecidableEq, Repr

namespace Value

/-- The word for a truth value. -/
def boolWord (b : Bool) : Text := if b then "True" else "False"

/-- An integer as a message quotes it. -/
def intForm (n : Int) : Except FormFault Text :=
  if integerLimit ≤ n.natAbs then .error .longInteger else .ok (Text.ofInt n)

mutual

/-- The value as a message quotes it, where so many levels can be nested. -/
def form (v : Value) (room : Nat) : Except FormFault Text :=
  match v, room with
  | _, 0 => .error .tooDeep
  | .null, _ + 1 => .ok "None"
  | .bool b, _ + 1 => .ok (boolWord b)
  | .int n, _ + 1 => intForm n
  | .real x, _ + 1 => .ok (x.text "nan" "inf")
  | .text t, _ + 1 => .ok (Text.quoted t)
  | .list items, room + 1 =>
    (formItems items room).map fun forms => "[" ++ Text.join ", " forms ++ "]"
  | .table entries, room + 1 =>
    (formEntries entries room).map fun forms => "\x7b" ++ Text.join ", " forms ++ "\x7d"

/-- The forms of the items of a list. -/
def formItems (items : List Value) (room : Nat) : Except FormFault (List Text) :=
  match items with
  | [] => .ok []
  | v :: rest =>
    match form v room with
    | .error fault => .error fault
    | .ok t => (formItems rest room).map (t :: ·)

/-- The forms of the entries of a table. -/
def formEntries (entries : List (Text × Value)) (room : Nat) : Except FormFault (List Text) :=
  match entries with
  | [] => .ok []
  | (k, v) :: rest =>
    match form v room with
    | .error fault => .error fault
    | .ok t => (formEntries rest room).map fun forms => (Text.quoted k ++ ": " ++ t) :: forms

end

/-- The value as a text of its own. -/
def display (v : Value) (room : Nat) : Except FormFault Text :=
  match v with
  | .text t => .ok t
  | v => v.form room

example : (form (.list [.int 1, .text "a"]) 2).toOption = some ("[1, 'a']" : Text) := by
  decide +kernel

end Value

end SpecifierLint
