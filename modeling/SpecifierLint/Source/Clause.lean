/-
Import clauses.

Between the keyword of an import or export and its specifier stands a clause: names, a comma, a
star, a braced list, and the word `from` right before the specifier.  The clause is read as a list
of items, where a name is a whole run of name characters.  `from` may be the end of a longer run, as
in `xfrom "m"`; what stands before it in the run is then a name of the clause.

`isClause` gives the accepted clauses: an optional `type` after a blank, then at most a default
name with an optional comma, then at most one of a star with an optional `as` name, a braced list,
or one more name.
-/
import SpecifierLint.Source.Lexeme

namespace SpecifierLint.Source

/-- A part of an import clause. -/
inductive ClauseItem where
  | name (word : Text)
  | comma
  | star
  | braces (body : Text)
  deriving DecidableEq, Repr

namespace ClauseItem

/-- A star, a star with its name, a braced list, or a name; or nothing at all. -/
def isBinding : List ClauseItem → Bool
  | [] => true
  | [.star] => true
  | [.star, .name word, .name _] => word = ("as" : Text)
  | [.braces _] => true
  | [.name _] => true
  | _ => false

/-- A default name with an optional comma and an optional binding, or only the binding. -/
def isBody : List ClauseItem → Bool
  | .name _ :: .comma :: rest => isBinding rest
  | .name word :: rest => isBinding rest || isBinding (.name word :: rest)
  | items => isBinding items

/-- A body, with the word `type` before it if a blank follows the keyword. -/
def isClause (blankFirst : Bool) (items : List ClauseItem) : Bool :=
  isBody items ||
    match items with
    | .name word :: rest => blankFirst && word = ("type" : Text) && isBody rest
    | _ => false

end ClauseItem

/-- Reads clause items up to the first character that belongs to none, and counts the characters
before it; fails at a brace that is never closed.  `skip` counts the characters that belong to an item
already read. -/
def readItems (skip : Nat) : Text → Option (List ClauseItem × Nat)
  | [] => some ([], 0)
  | c :: rest =>
    if skip ≠ 0 then (readItems (skip - 1) rest).map fun (items, n) => (items, n + 1)
    else if Text.isBlank c then (readItems 0 rest).map fun (items, n) => (items, n + 1)
    else if isNameChar c then
      let run := rest.takeWhile isNameChar
      (readItems run.length rest).map fun (items, n) => (.name (c :: run) :: items, n + 1)
    else if c = ',' then (readItems 0 rest).map fun (items, n) => (.comma :: items, n + 1)
    else if c = '*' then (readItems 0 rest).map fun (items, n) => (.star :: items, n + 1)
    else if c = '\x7b' then
      let body := rest.takeWhile (· != '\x7d')
      if body.length = rest.length then none
      else (readItems (body.length + 1) rest).map fun (items, n) => (.braces body :: items, n + 1)
    else some ([], 0)

/-- The stem of a run that ends in `from`. -/
def beforeFrom? (word : Text) : Option Text :=
  let stem := word.take (word.length - 4)
  if word = stem ++ "from" then some stem else none

/-- The items of a clause before its `from`, if its last item is a run that ends in it. -/
def beforeLastFrom? (items : List ClauseItem) : Option (List ClauseItem) :=
  match items.getLast? with
  | some (.name word) =>
    (beforeFrom? word).map fun stem =>
      items.dropLast ++ (if stem.isEmpty then [] else [.name stem])
  | _ => none

/-- The length of a clause that ends in `from`, with the blanks around it. -/
def clauseLength? (t : Text) : Option Nat :=
  match readItems 0 t with
  | some (items, length) =>
    match beforeLastFrom? items with
    | some clause =>
      if ClauseItem.isClause (t.head?.any Text.isBlank) clause then some length else none
    | none => none
  | none => none

end SpecifierLint.Source
