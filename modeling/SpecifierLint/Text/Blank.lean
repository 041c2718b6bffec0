/-
Blank characters.

The characters that separate words: the controls from tab to carriage return, the four information
separators, next line, and the spaces and line separators of Unicode.  A zero-width space and a byte
order mark are not blank.
-/
import SpecifierLint.Text.Basic

namespace SpecifierLint.Text

/-- The ranges of blank characters, both ends included. -/
def blankRanges : List (Nat × Nat) :=
  [(0x9, 0xd), (0x1c, 0x20), (0x85, 0x85), (0xa0, 0xa0), (0x1680, 0x1680), (0x2000, 0x200a),
   (0x2028, 0x2029), (0x202f, 0x202f), (0x205f, 0x205f), (0x3000, 0x3000)]

/-- White space in the sense of the scanner and of word wrapping. -/
def isBlank (c : Char) : Bool := inRanges blankRanges c.toNat

/-- A text without the blanks at its end. -/
def trimBlanksRight (t : Text) : Text := (t.reverse.dropWhile isBlank).reverse

/-- A text without the blanks at both ends. -/
def trimBlanks (t : Text) : Text := trimBlanksRight (t.dropWhile isBlank)

/-- The words of a text between blanks. -/
def blankWords (t : Text) : List Text :=
  (split ' ' (t.map fun c => if isBlank c then ' ' else c)).filter (!·.isEmpty)

example : isBlank '\u2028' ∧ isBlank '\x0b' ∧ ¬ isBlank '\u200b' ∧ ¬ isBlank '\ufeff' := by decide

end SpecifierLint.Text
