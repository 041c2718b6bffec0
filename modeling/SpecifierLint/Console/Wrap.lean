/-
Wrapping text to the width of a console.

A line is cut into words, each with the blanks after it.  A word goes on the current line if it fits
there without its blanks, and otherwise starts a new one.  A word that is wider than the console is
folded into pieces, or put on a line of its own and shortened.  Blanks that hang over the edge at the
end of a line are dropped.
-/
import SpecifierLint.Console.Styled
import SpecifierLint.Text.Blank

namespace SpecifierLint.Console

/-! ### Words -/

/-- Cuts a line into words.  `current` is the word so far, reversed, `started` says that it has a
character that is not blank, and `ended` that a blank came after that. -/
def wordsFrom (current : Text) (started ended : Bool) : Text → List Text
  | [] => if started then [current.reverse] else []
  | c :: rest =>
    if Text.isBlank c then wordsFrom (c :: current) started started rest
    else if ended then current.reverse :: wordsFrom [c] true false rest
    else wordsFrom (c :: current) true false rest

/-- The words of a line, with the blanks after them; the first one has those before it too. -/
def words (line : Text) : List Text := wordsFrom [] false false line

/-! ### Breaks -/

/-- What happens to a word that is wider than the console. -/
inductive Overflow where
  /-- The word is folded into pieces. -/
  | fold
  /-- The word is shortened, and an ellipsis ends it. -/
  | ellipsis
  deriving DecidableEq, Repr

/-- A line under way: the offset of the next word, the cells that are taken on the current line, and
the offsets of the breaks so far, the last one first. -/
structure Breaking where
  offset : Nat := 0
  used : Nat := 0
  breaks : List Nat := []

namespace Breaking

/-- Breaks the line at an offset, unless nothing stands before it. -/
def breakAt (b : Breaking) (offset : Nat) : Breaking :=
  if offset = 0 then b else { b with breaks := offset :: b.breaks }

/-- Sets the pieces of a folded word, each on a line of its own. -/
def addPieces (b : Breaking) : List Text → Breaking
  | [] => b
  | piece :: rest =>
    addPieces { b.breakAt b.offset with offset := b.offset + piece.length, used := cells piece } rest

/-- Sets one word. -/
def add (overflow : Overflow) (width : Nat) (b : Breaking) (word : Text) : Breaking :=
  let needed := cells (Text.trimBlanksRight word)
  let next := b.offset + word.length
  if b.used + needed ≤ width then { b with offset := next, used := b.used + cells word }
  else if width < needed && overflow = .fold then b.addPieces (chop width word)
  else { b.breakAt b.offset with offset := next, used := cells word }

end Breaking

/-- The offsets at which a line is broken. -/
def breaks (overflow : Overflow) (width : Nat) (line : Text) : List Nat :=
  ((words line).foldl (Breaking.add overflow width) {}).breaks.reverse

/-! ### Lines -/

/-- The number of blanks that hang over the edge at the end of a text. -/
def hanging (width : Nat) (t : Text) : Nat :=
  min (t.reverse.takeWhile Text.isBlank).length (t.length - width)

/-- The text without the blanks that hang over the edge at its end. -/
def dropHanging (width : Nat) (s : Styled) : Styled :=
  if hanging width s.text = 0 then s else s.crop (s.text.length - hanging width s.text)

/-- The text shortened to a width. -/
def shorten (overflow : Overflow) (width : Nat) (t : Text) : Text :=
  if cells t ≤ width then t
  else
    match overflow with
    | .fold => fit width t
    | .ellipsis => fit (width - 1) t ++ ['…']

/-- The lines of one line of text. -/
def wrapLine (overflow : Overflow) (width : Nat) (line : Styled) : List Styled :=
  let expanded := line.expandTabs
  (expanded.cutAt (breaks overflow width expanded.text)).map fun piece =>
    let kept := dropHanging width piece
    kept.withText (shorten overflow width kept.text)

/-- The lines of a text. -/
def wrapLines (overflow : Overflow) (width : Nat) (s : Styled) : List Styled :=
  s.lines.flatMap (wrapLine overflow width)

/-- The lines that a text takes on a console; a console of no width shows nothing. -/
def linesOn (width : Nat) (s : Styled) : List Styled :=
  if width = 0 then [] else wrapLines .fold width s

/-- The lines that a text takes on a console, without the spaces at their ends. -/
def wrap (width : Nat) (s : Styled) : List Text :=
  (linesOn width s).map fun line => Text.trimRight (line.within width)

example : wrap 6 ("ab cd\u00a0 efghijkl" : Text) = [("ab cd\u00a0" : Text), "efghij", "kl"] := by
  decide +kernel

end SpecifierLint.Console
