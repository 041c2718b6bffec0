/-
Tables from values.

Where a table is expected, a list of pairs will do as well: each pair is a list of two values, a text
of two characters, or a table of two keys.  Nothing, and whatever counts as nothing, is the empty
table.

A key need not be a text.  Keys are the same if they are equal as values, where a truth value is the
number one or zero and it does not matter how a number is written.  The first of them gives the key
its spelling, the last its value.
-/
import SpecifierLint.Value.Display

namespace SpecifierLint

/-- Why a value is no table. -/
inductive MappingFault where
  /-- A value, or one of its items, has no parts at all, or a part that cannot be a key. -/
  | noParts
  /-- An item does not have exactly two parts. -/
  | notPair
  deriving DecidableEq, Repr

/-- What a key is compared by. -/
inductive PairKey where
  | null
  | integer (n : Int)
  | fraction (x : Floating)
  | text (t : Text)
  deriving DecidableEq, Repr

namespace PairKey

/-- The key that a value makes; a value with parts makes none. -/
def ofValue? : Value → Option PairKey
  | .text t => some (.text t)
  | .null => some .null
  | .bool b => some (.integer (if b then 1 else 0))
  | .int n => some (.integer n)
  | .real x => some (x.integer?.elim (.fraction x) .integer)
  | .list _ => none
  | .table _ => none

/-- How a key is spelled. -/
def spelling : Value → Text
  | .text t => t
  | .null => "null"
  | .bool b => if b then "true" else "false"
  | .int n => Text.ofInt n
  | .real x => x.text "NaN" "Infinity"
  | .list _ => []
  | .table _ => []

end PairKey

/-- Pairs with keys of any kind: what the key is compared by, its spelling, and its value. -/
abbrev PairTable := List (PairKey × Text × Value)

namespace PairTable

/-- Gives a key a value; a key that is there keeps its place and its spelling. -/
def set : PairTable → PairKey → Text → Value → PairTable
  | [], key, spelling, value => [(key, spelling, value)]
  | (k, s, v) :: rest, key, spelling, value =>
    if k = key then (k, s, value) :: rest else (k, s, v) :: set rest key spelling value

/-- The table under the spellings of the keys. -/
def toTable (t : PairTable) : Table := t.foldl (fun table (_, s, v) => table.set s v) []

/-- Adds a pair. -/
def addPair (t : PairTable) : Value → Except MappingFault PairTable
  | .list [k, v] =>
    match PairKey.ofValue? k with
    | some key => .ok (t.set key (PairKey.spelling k) v)
    | none => .error .noParts
  | .text [k, v] => .ok (t.set (.text [k]) [k] (.text [v]))
  | .table [(k, _), (v, _)] => .ok (t.set (.text k) k (.text v))
  | .list _ => .error .notPair
  | .text _ => .error .notPair
  | .table _ => .error .notPair
  | _ => .error .noParts

/-- Adds pairs, one after the other. -/
def addPairs (t : PairTable) : List Value → Except MappingFault PairTable
  | [] => .ok t
  | pair :: rest =>
    match t.addPair pair with
    | .error fault => .error fault
    | .ok next => next.addPairs rest

end PairTable

namespace Table

/-- The table that a value stands for. -/
def ofValue (v : Value) : Except MappingFault Table :=
  if !v.isPresent then .ok []
  else
    match v with
    | .table entries => .ok entries
    | .list items => (PairTable.addPairs [] items).map PairTable.toTable
    | .text _ => .error .notPair
    | _ => .error .noParts

end Table

end SpecifierLint
