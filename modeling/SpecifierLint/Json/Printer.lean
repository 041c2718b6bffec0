/-
Writing JSON.

Objects keep the order of their entries.  Characters outside ASCII are written as they are; quotes,
backslashes and control characters are escaped.  `compact` writes one line, `indented` one line per
item with two spaces for each level.
-/
import SpecifierLint.Value.Basic

namespace SpecifierLint.Json

/-- A character inside a string. -/
def stringChar (c : Char) : Text :=
  if c = '"' then ['\\', '"']
  else if c = '\\' then ['\\', '\\']
  else if c = '\n' then ['\\', 'n']
  else if c = '\r' then ['\\', 'r']
  else if c = '\t' then ['\\', 't']
  else if c = '\x0c' then ['\\', 'f']
  else if c = '\x08' then ['\\', 'b']
  else if c.toNat < 0x20 then "\\u" ++ Text.hex 4 c.toNat
  else [c]

/-- A text as a string. -/
def string (t : Text) : Text := '"' :: t.flatMap stringChar ++ ['"']

/-- A value without parts. -/
def atom : Value → Text
  | .null => "null"
  | .bool b => if b then "true" else "false"
  | .int n => Text.ofInt n
  | .real x => x.text "NaN" "Infinity"
  | .text t => string t
  | .list _ => "[]"
  | .table _ => "\x7b\x7d"

mutual

/-- The value on one line. -/
def compact : Value → Text
  | .list items => "[" ++ Text.join ", " (compactItems items) ++ "]"
  | .table entries => "\x7b" ++ Text.join ", " (compactEntries entries) ++ "\x7d"
  | v => atom v

/-- The items of an array. -/
def compactItems : List Value → List Text
  | [] => []
  | v :: rest => compact v :: compactItems rest

/-- The members of an object. -/
def compactEntries : List (Text × Value) → List Text
  | [] => []
  | (k, v) :: rest => (string k ++ ": " ++ compact v) :: compactEntries rest

end

/-- A line break and the spaces of a level. -/
def lineBreak (level : Nat) : Text := '\n' :: List.replicate (2 * level) ' '

/-- Lines between an opening and a closing bracket, or only the brackets if there are none. -/
def block (level : Nat) (opening closing : Char) (lines : List Text) : Text :=
  if lines.isEmpty then [opening, closing]
  else
    opening :: lineBreak (level + 1) ++ Text.join (',' :: lineBreak (level + 1)) lines
      ++ lineBreak level ++ [closing]

mutual

/-- The value with one line per item, inside `level` brackets. -/
def indented (level : Nat) : Value → Text
  | .list items => block level '[' ']' (indentedItems (level + 1) items)
  | .table entries => block level '\x7b' '\x7d' (indentedEntries (level + 1) entries)
  | v => atom v

/-- The items of an array. -/
def indentedItems (level : Nat) : List Value → List Text
  | [] => []
  | v :: rest => indented level v :: indentedItems level rest

/-- The members of an object. -/
def indentedEntries (level : Nat) : List (Text × Value) → List Text
  | [] => []
  | (k, v) :: rest => (string k ++ ": " ++ indented level v) :: indentedEntries level rest

end

end SpecifierLint.Json
