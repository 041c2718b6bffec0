/-
Symbols by name.

A console shows a name between two colons as the symbol of that name.  Capital letters in a name do
not matter, and an ending asks for the text or the emoji form of the symbol.  A name that stands for
nothing is left as it is, colons included, and its closing colon opens no other name.  Names turn up
unasked, since the line of a location stands between two colons and `100` is a name.
-/
import SpecifierLint.Console.SymbolNames
import SpecifierLint.Text.Blank
import SpecifierLint.Text.TitleCase

namespace SpecifierLint.Console

/-! ### The table of names -/

/-- Takes words in pairs. -/
def pairUp : List Text → List (Text × Text)
  | name :: symbol :: rest => (name, symbol) :: pairUp rest
  | _ => []

/-- The names and symbols of lines. -/
def namedPairs (lines : List String) : List (Text × Text) :=
  lines.flatMap fun line => pairUp (Text.split ' ' line.toList)

/-- Symbols that have one form only, by their names. -/
def plainSymbols : List (Text × Text) := namedPairs plainSymbolLines

/-- Symbols that come in several skin tones, by their names. -/
def peopleSymbols : List (Text × Text) := namedPairs peopleSymbolLines

/-- The letter of a flag. -/
def flagLetter (c : Char) : Char := Char.ofNat (0x1f1e6 + (c.toNat - 'a'.toNat))

/-- Flags by the names of their countries. -/
def flagSymbols : List (Text × Text) :=
  (namedPairs flagLines).map fun (name, letters) => (name, letters.map flagLetter)

/-- The names of the skin tones, with their marks. -/
def skinTones : List (Text × Char) :=
  [("_light_skin_tone", '🏻'), ("_medium-light_skin_tone", '🏼'),
   ("_medium_skin_tone", '🏽'), ("_medium-dark_skin_tone", '🏾'),
   ("_dark_skin_tone", '🏿')]

/-- The text before an ending, if it has that ending. -/
def dropEnding? (ending t : Text) : Option Text :=
  (Text.dropStart? ending.reverse t.reverse).map List.reverse

/-- The symbol in a skin tone: the mark stands behind its first character, in the place of a
selector. -/
def toned (mark : Char) : Text → Text
  | [] => []
  | [c] => [c, mark]
  | c :: d :: rest => if d.toNat = 0xfe0f then c :: mark :: rest else c :: mark :: d :: rest

/-- The symbol of a name that ends in a skin tone. -/
def tonedSymbol? (name : Text) : Option Text :=
  skinTones.findSome? fun (ending, mark) =>
    ((dropEnding? ending name).bind (peopleSymbols.lookup ·)).map (toned mark)

/-- The flag of a name that says so. -/
def namedFlag? (name : Text) : Option Text :=
  (Text.dropStart? ("flag_for_" : Text) name).bind (flagSymbols.lookup ·)

/-- The symbol of a name in small letters. -/
def symbol? (name : Text) : Option Text :=
  (plainSymbols.lookup name).or <| (peopleSymbols.lookup name).or <| (flagSymbols.lookup name).or <|
    (tonedSymbol? name).or (namedFlag? name)

/-! ### Names in a text -/

/-- The endings that ask for a form of a symbol, with the selectors that give it. -/
def formEndings : List (Text × Char) := [("-text", '\ufe0e'), ("-emoji", '\ufe0f')]

/-- A name without the ending that asks for a form, and the selector of that form. -/
def splitForm (name : Text) : Text × Text :=
  (formEndings.findSome? fun (ending, selector) =>
    (dropEnding? ending name).map fun base => (base, [selector])).getD (name, [])

/-- The text that a name between colons is shown as. -/
def shownName (name : Text) : Text :=
  let (base, selector) := splitForm name
  match symbol? (Text.lowerCase base) with
  | some symbol => symbol ++ selector
  | none => ":" ++ name ++ ":"

/-- Shows names as symbols.  `skip` counts characters that are dealt with already. -/
def showNamesFrom (skip : Nat) : Text → Text
  | [] => []
  | c :: rest =>
    if skip ≠ 0 then showNamesFrom (skip - 1) rest
    else if c = ':' then
      let name := rest.takeWhile fun x => x ≠ ':' && !Text.isBlank x
      if rest[name.length]? = some ':' then
        shownName name ++ showNamesFrom (name.length + 1) rest
      else c :: showNamesFrom 0 rest
    else c :: showNamesFrom 0 rest

/-- The text with its names shown as symbols. -/
def showNames (t : Text) : Text := showNamesFrom 0 t

example : splitForm "heart-text" = (("heart" : Text), ['\ufe0e']) := by decide +kernel

example : showNames "/p/a.js 1:100 a: b:" = ("/p/a.js 1:100 a: b:" : Text) := by decide +kernel

end SpecifierLint.Console
