/-
Names of characters.

A name is one of the tree of names, in large or small letters, one of a numbered series, or the name
of an ideograph or of a Hangul syllable.  Ideographs are named by their code points, and syllables by
the sounds that they are made of; these two kinds of names have large letters only.
-/
import SpecifierLint.Text.NameTree.AToB
import SpecifierLint.Text.NameTree.CToD
import SpecifierLint.Text.NameTree.EToJ
import SpecifierLint.Text.NameTree.KToL
import SpecifierLint.Text.NameTree.MToR
import SpecifierLint.Text.NameTree.SToZ
import SpecifierLint.Text.Basic

namespace SpecifierLint.Text

/-! ### The tree of names -/

/-- The names by the first and the last letter that their first words start with. -/
def nameTrees : List (Char × Char × List String) :=
  [('A', 'B', namesFromAToB), ('C', 'D', namesFromCToD), ('E', 'J', namesFromEToJ),
   ('K', 'L', namesFromKToL), ('M', 'R', namesFromMToR), ('S', 'Z', namesFromSToZ)]

/-- Words lead to a name in the rest of a tree.  `word` is the word under way, reversed, and `skip`
counts the open brackets behind words that do not fit. -/
def leadsToName (skip : Nat) (path : List Text) (word : Text) : Text → Bool
  | [] => path = [word.reverse]
  | c :: rest =>
    if skip ≠ 0 then
      leadsToName (if c = '(' then skip + 1 else if c = ')' then skip - 1 else skip) path [] rest
    else if c = ' ' then path = [word.reverse] || leadsToName 0 path [] rest
    else if c = '!' then path = [word.reverse] || leadsToName 0 path word rest
    else if c = ')' then path = [word.reverse]
    else if c = '(' then
      if path.head? = some word.reverse then leadsToName 0 (path.drop 1) [] rest
      else leadsToName 1 path [] rest
    else leadsToName 0 path (c :: word) rest

/-- The text of a tree. -/
def treeText (lines : List String) : Text := lines.flatMap fun line => line.toList ++ [' ']

/-- The words are a name in the tree of names. -/
def isTreeName (words : List Text) : Bool :=
  let first := (words.head?.bind List.head?).getD ' '
  words.all (!·.isEmpty) && nameTrees.any fun (low, high, lines) =>
    low ≤ first && first ≤ high && leadsToName 0 words [] (treeText lines)

/-! ### Numbered series -/

/-- Names that end in a number. -/
structure NumberedNames where
  front : Text
  base : Nat
  /-- The least number of digits. -/
  width : Nat
  low : Nat
  high : Nat

/-- The numbered series. -/
def numberedNames : List NumberedNames :=
  [⟨"CJK COMPATIBILITY IDEOGRAPH-", 16, 4, 0xf900, 0xfa6d⟩,
   ⟨"CJK COMPATIBILITY IDEOGRAPH-", 16, 4, 0xfa70, 0xfad9⟩,
   ⟨"CJK COMPATIBILITY IDEOGRAPH-", 16, 4, 0x2f800, 0x2fa1d⟩,
   ⟨"KHITAN SMALL SCRIPT CHARACTER-", 16, 4, 0x18b00, 0x18cd5⟩,
   ⟨"NUSHU CHARACTER-", 16, 4, 0x1b170, 0x1b2fb⟩,
   ⟨"TANGUT COMPONENT-", 10, 3, 1, 768⟩, ⟨"VARIATION SELECTOR-", 10, 1, 1, 256⟩,
   ⟨"VS", 10, 1, 1, 256⟩]

/-- The value of a digit, whose letters are large, in a base up to sixteen. -/
def largeDigit? (base : Nat) (c : Char) : Option Nat :=
  let value :=
    if '0' ≤ c && c ≤ '9' then c.toNat - '0'.toNat
    else if 'A' ≤ c && c ≤ 'F' then c.toNat - 'A'.toNat + 10
    else base
  if value < base then some value else none

/-- The number that digits give. -/
def largeNumber? (base : Nat) (digits : Text) : Option Nat :=
  if digits.isEmpty then none
  else (digits.mapM (largeDigit? base)).map fun values => values.foldl (fun n d => n * base + d) 0

/-- The text is a name of the series: its number has no more digits than it needs. -/
def NumberedNames.covers (s : NumberedNames) (t : Text) : Bool :=
  match dropStart? s.front t with
  | none => false
  | some digits =>
    digits.length ≤ 5 && s.width ≤ digits.length
      && (digits.length = s.width || digits.head? ≠ some '0')
      && (largeNumber? s.base digits).any fun n => s.low ≤ n && n ≤ s.high

/-! ### Ideographs and syllables -/

/-- The ranges of the unified ideographs. -/
def ideographRanges : List (Nat × Nat) :=
  [(0x3400, 0x4dbf), (0x4e00, 0x9fff), (0x20000, 0x2a6df), (0x2a700, 0x2b738), (0x2b740, 0x2b81d),
   (0x2b820, 0x2cea1), (0x2ceb0, 0x2ebe0), (0x30000, 0x3134a)]

/-- The code point of an ideograph, in four or five digits. -/
def isIdeographNumber (digits : Text) : Bool :=
  (digits.length = 4 || digits.length = 5)
    && (largeNumber? 16 digits).any (inRanges ideographRanges)

/-- The consonants that a syllable starts with. -/
def leadSounds : List Text :=
  ["G", "GG", "N", "D", "DD", "R", "M", "B", "BB", "S", "SS", "", "J", "JJ", "C", "K", "T", "P", "H"]

/-- The vowels of syllables. -/
def vowelSounds : List Text :=
  ["A", "AE", "YA", "YAE", "EO", "E", "YEO", "YE", "O", "WA", "WAE", "OE", "YO", "U", "WEO", "WE",
   "WI", "YU", "EU", "YI", "I"]

/-- The consonants that a syllable ends with. -/
def tailSounds : List Text :=
  ["", "G", "GG", "GS", "N", "NJ", "NH", "D", "L", "LG", "LM", "LB", "LS", "LT", "LP", "LH", "M", "B",
   "BS", "S", "SS", "NG", "J", "C", "K", "T", "P", "H"]

/-- The text after the longest of the sounds at its front. -/
def afterSound? (sounds : List Text) (t : Text) : Option Text :=
  let fitting := sounds.filter (·.isPrefixOf t)
  let longest := (fitting.map List.length).foldl max 0
  if fitting.isEmpty then none else some (t.drop longest)

/-- The sounds of a syllable. -/
def isSyllable (t : Text) : Bool :=
  ((afterSound? leadSounds t).bind fun r =>
    (afterSound? vowelSounds r).bind (afterSound? tailSounds)) = some []

/-- The text is the name of a character. -/
def isCharacterName (t : Text) : Bool :=
  match dropStart? "HANGUL SYLLABLE " t, dropStart? "CJK UNIFIED IDEOGRAPH-" t with
  | some sounds, _ => isSyllable sounds
  | none, some digits => isIdeographNumber digits
  | none, none =>
    let large := t.map Char.toUpper
    numberedNames.any (·.covers large) || isTreeName (split ' ' large)

example : isSyllable "GGWAELG" = true ∧ isSyllable "NGA" = false := by decide +kernel

end SpecifierLint.Text
