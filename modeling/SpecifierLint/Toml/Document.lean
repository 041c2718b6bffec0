/-
TOML documents.

A document is read statement by statement into a table.  Three lists of keys keep track of what may
still be changed: `opened` holds the tables that a header or a finished section has declared,
`frozen` the inline tables and arrays, which are closed for good, and `pending` the tables that
dotted keys have made in the current section and that no later header may open.  The first fault ends
the reading, and what comes after it is not looked at.
-/
import SpecifierLint.Toml.Scalar

namespace SpecifierLint.Toml

/-- A dotted key. -/
abbrev Key := List Text

/-! ### Keys -/

/-- A character of a key without quotes. -/
def isBareKeyChar (c : Char) : Bool := c.isAlphanum || c = '-' || c = '_'

/-- Reads one part of a key. -/
def readKeyPart (t : Text) : Option (Text × Text) :=
  if t.head?.any isBareKeyChar then some (t.takeWhile isBareKeyChar, t.dropWhile isBareKeyChar)
  else readLineString t

/-- Reads a dotted key and the spaces after it; `fuel` bounds the number of parts. -/
def readKey (fuel : Nat) (t : Text) : Option (Key × Text) :=
  match fuel with
  | 0 => none
  | fuel + 1 => do
    let (part, afterPart) ← readKeyPart t
    match skipSpaces afterPart with
    | '.' :: rest =>
      let (parts, r) ← readKey fuel (skipSpaces rest)
      some (part :: parts, r)
    | rest => some ([part], rest)

/-! ### Tables within tables -/

/-- Changes the table that a key leads to, making tables on the way.  With `throughLists` a list on
the way stands for its last item. -/
def changeAt (throughLists : Bool) (change : Table → Option Table) : Key → Table → Option Table
  | [], table => change table
  | part :: rest, table =>
    match table.get? part with
    | none => (changeAt throughLists change rest []).map fun inner => table.set part (.table inner)
    | some (.table inner) =>
      (changeAt throughLists change rest inner).map fun inner => table.set part (.table inner)
    | some (.list items) =>
      match throughLists, items.getLast? with
      | true, some (.table inner) =>
        (changeAt throughLists change rest inner).map fun inner =>
          table.set part (.list (items.dropLast ++ [.table inner]))
      | _, _ => none
    | some _ => none

/-- Adds a new key to a table. -/
def addNew (key : Text) (value : Value) (table : Table) : Option Table :=
  if table.has key then none else some (table.set key value)

/-- Adds an empty table to the list under a key. -/
def addItem (key : Text) (table : Table) : Option Table :=
  match table.get? key with
  | none => some (table.set key (.list [.table []]))
  | some (.list items) => some (table.set key (.list (items ++ [.table []])))
  | some _ => none

/-- The value has parts. -/
def isContainer : Value → Bool
  | .table _ => true
  | .list _ => true
  | _ => false

/-- A key or one that it starts with is in the list. -/
def coveredBy (keys : List Key) (key : Key) : Bool := keys.any (·.isPrefixOf key)

/-! ### Values -/

/-- The text after a comment, up to the end of its line; nothing if the comment is invalid. -/
def skipComment : Text → Option Text
  | '#' :: rest =>
    if (rest.takeWhile (· ≠ '\n')).any isForbidden then none else some (rest.dropWhile (· ≠ '\n'))
  | t => some t

/-- The text after white space, line breaks and comments; `fuel` bounds the number of comments. -/
def skipFiller (fuel : Nat) (t : Text) : Option Text :=
  match fuel with
  | 0 => none
  | fuel + 1 =>
    match t.dropWhile isSpaceOrBreak with
    | '#' :: rest => (skipComment ('#' :: rest)).bind (skipFiller fuel)
    | rest => some rest

/-- What an array uses up for the values in it. -/
def arrayNesting : Nat := 2

/-- What an inline table uses up for the values in it. -/
def tableNesting : Nat := 3

/-- The room that is left inside a value which uses up some of it. -/
def enter (cost room : Nat) : Except Fault Nat :=
  if room < cost then .error .tooDeep else .ok (room - cost)

mutual

/-- Reads the value at the front of a text, where `room` is left for nesting; `fuel` bounds the
number of steps. -/
def readValue (fuel room : Nat) (t : Text) : Except Fault (Value × Text) :=
  match fuel with
  | 0 => .error .invalid
  | fuel + 1 =>
    match t with
    | '[' :: rest => do
      let room ← enter arrayNesting room
      match ← orInvalid (skipFiller fuel rest) with
      | ']' :: r => .ok (.list [], r)
      | r =>
        let (items, r) ← readItems fuel room r
        .ok (.list items, r)
    | '\x7b' :: rest => do
      let room ← enter tableNesting room
      match skipSpaces rest with
      | '\x7d' :: r => .ok (.table [], r)
      | r => readPairs fuel room [] [] r
    | c :: _ =>
      if c = '"' || c = '\'' then (orInvalid (readString t)).map fun (s, r) => (.text s, r)
      else
        match Text.dropStart? "true" t, Text.dropStart? "false" t with
        | some r, _ => .ok (.bool true, r)
        | _, some r => .ok (.bool false, r)
        | none, none => readPlain t
    | [] => .error .invalid

/-- Reads the items of an array up to its closing bracket; a comma may stand after the last. -/
def readItems (fuel room : Nat) (t : Text) : Except Fault (List Value × Text) :=
  match fuel with
  | 0 => .error .invalid
  | fuel + 1 => do
    let (item, afterItem) ← readValue fuel room t
    match ← orInvalid (skipFiller fuel afterItem) with
    | ']' :: r => .ok ([item], r)
    | ',' :: r =>
      match ← orInvalid (skipFiller fuel r) with
      | ']' :: r => .ok ([item], r)
      | r =>
        let (items, r) ← readItems fuel room r
        .ok (item :: items, r)
    | _ => .error .invalid

/-- Reads the pairs of an inline table up to its closing brace. -/
def readPairs (fuel room : Nat) (frozen : List Key) (found : Table) (t : Text) :
    Except Fault (Value × Text) :=
  match fuel with
  | 0 => .error .invalid
  | fuel + 1 => do
    let (key, value, afterValue) ← readPair fuel room t
    if coveredBy frozen key then .error .invalid
    else
      let next ← orInvalid (changeAt false (addNew (key.getLastD []) value) key.dropLast found)
      match skipSpaces afterValue with
      | '\x7d' :: r => .ok (.table next, r)
      | ',' :: r =>
        readPairs fuel room (if isContainer value then key :: frozen else frozen) next (skipSpaces r)
      | _ => .error .invalid

/-- Reads a key, an equals sign and a value. -/
def readPair (fuel room : Nat) (t : Text) : Except Fault (Key × Value × Text) :=
  match fuel with
  | 0 => .error .invalid
  | fuel + 1 => do
    let (key, afterKey) ← orInvalid (readKey fuel t)
    let ('=' :: afterEquals) := afterKey | .error .invalid
    let (value, rest) ← readValue fuel room (skipSpaces afterEquals)
    .ok (key, value, rest)

end

/-! ### Statements -/

/-- What has been read of a document. -/
structure Progress where
  data : Table := []
  header : Key := []
  opened : List Key := []
  frozen : List Key := []
  pending : List Key := []

namespace Progress

/-- Adds a pair to the current section. -/
def addPair (p : Progress) (key : Key) (value : Value) : Option Progress := do
  let within := (List.range (key.length - 1)).map fun n => p.header ++ key.take (n + 1)
  let parent := p.header ++ key.dropLast
  if within.any p.opened.contains || (!parent.isEmpty && coveredBy p.frozen parent) then none
  else
    let data ← changeAt true (addNew (key.getLastD []) value) parent p.data
    some { p with
      data := data
      pending := within ++ p.pending
      frozen := if isContainer value then (p.header ++ key) :: p.frozen else p.frozen }

/-- Closes the current section. -/
def finishSection (p : Progress) : Progress := { p with opened := p.pending ++ p.opened, pending := [] }

/-- Opens the table that a header names. -/
def openTable (p : Progress) (key : Key) : Option Progress := do
  if p.opened.contains key || coveredBy p.frozen key then none
  else
    let data ← changeAt true some key p.data
    some { p with data := data, header := key, opened := key :: p.opened }

/-- Adds a table to the list that a header names; what was known of its items is forgotten. -/
def openItem (p : Progress) (key : Key) : Option Progress := do
  if coveredBy p.frozen key then none
  else
    let data ← changeAt true (addItem (key.getLastD [])) key.dropLast p.data
    some { p with
      data := data
      header := key
      opened := key :: p.opened.filter (!key.isPrefixOf ·)
      frozen := p.frozen.filter (!key.isPrefixOf ·) }

end Progress

/-- Reads a header and opens its section. -/
def readHeader (fuel : Nat) (p : Progress) : Text → Option (Progress × Text)
  | '[' :: '[' :: rest => do
    let (key, afterKey) ← readKey fuel (skipSpaces rest)
    let next ← p.finishSection.openItem key
    let after ← Text.dropStart? "]]" afterKey
    some (next, after)
  | '[' :: rest => do
    let (key, afterKey) ← readKey fuel (skipSpaces rest)
    let next ← p.finishSection.openTable key
    let after ← Text.dropStart? "]" afterKey
    some (next, after)
  | _ => none

/-- Reads the statement of a line: a header, a pair, or only a comment. -/
def readStatement (fuel room : Nat) (p : Progress) (t : Text) : Except Fault (Progress × Text) :=
  match t with
  | '[' :: _ => orInvalid (readHeader fuel p t)
  | '#' :: _ => .ok (p, t)
  | c :: _ =>
    if isBareKeyChar c || c = '"' || c = '\'' then do
      let (key, value, rest) ← readPair fuel room t
      let next ← orInvalid (p.addPair key value)
      .ok (next, rest)
    else .error .invalid
  | [] => .error .invalid

/-- Reads the rest of a document; `fuel` bounds the number of steps. -/
def readLines (fuel room : Nat) (p : Progress) (t : Text) : Except Fault Table :=
  match fuel with
  | 0 => .error .invalid
  | fuel + 1 =>
    match skipSpaces t with
    | [] => .ok p.data
    | '\n' :: rest => readLines fuel room p rest
    | line => do
      let (next, afterStatement) ← readStatement fuel room p line
      match ← orInvalid (skipComment (skipSpaces afterStatement)) with
      | [] => .ok next.data
      | '\n' :: rest => readLines fuel room next rest
      | _ => .error .invalid

/-- The text with each carriage return before a line feed left out. -/
def dropReturns : Text → Text
  | [] => []
  | c :: rest =>
    if c = '\r' && rest.head? = some '\n' then dropReturns rest else c :: dropReturns rest

/-- The table that a document holds, where `room` is left for nesting. -/
def read (room : Nat) (document : Text) : Except Fault Table :=
  readLines (2 * document.length + 4) room {} (dropReturns document)

end SpecifierLint.Toml
