/-
Text with styles.

Styles are not shown in plain text, but they leave two traces.  A style that cannot be looked up is a
fault, unless it is dropped before a console asks for it.  And a line is measured in segments, which
end where a style begins or ends: a joiner at the end of a segment draws nothing into the glyph before
it.  Main statement:

* **`segments_flatten`** — the segments of a text, put together, are the text.
-/
import SpecifierLint.Console.Cells

namespace SpecifierLint.Console

/-- The stretch of a text that has a style. -/
structure Span where
  start : Nat
  stop : Nat
  /-- The style cannot be looked up. -/
  broken : Bool := false
  deriving DecidableEq, Repr

/-- A text and the stretches of its styles. -/
structure Styled where
  text : Text
  spans : List Span := []
  deriving DecidableEq, Repr

namespace Styled

instance : Coe Text Styled := ⟨fun t => { text := t }⟩

/-- A style of the text cannot be looked up. -/
def isBroken (s : Styled) : Bool := s.spans.any Span.broken

/-! ### Cutting -/

/-- The stretches within the part of a text from one offset up to another, seen from that part;
those without a character in it are dropped. -/
def spansWithin (spans : List Span) (start stop : Nat) : List Span :=
  spans.filterMap fun x =>
    let first := max x.start start
    let last := min x.stop stop
    if first < last then some { x with start := first - start, stop := last - start } else none

/-- The stretches that begin before an offset, cut there. -/
def spansBefore (spans : List Span) (stop : Nat) : List Span :=
  spans.filterMap fun x => if x.start < stop then some { x with stop := min x.stop stop } else none

/-- The pieces of a text between offsets, where `start` characters stand before the text. -/
def piecesFrom (spans : List Span) (start : Nat) : List Nat → Text → List Styled
  | [], t => [⟨t, spansWithin spans start (start + t.length)⟩]
  | offset :: rest, t =>
    ⟨t.take (offset - start), spansWithin spans start offset⟩
      :: piecesFrom spans offset rest (t.drop (offset - start))

/-- The pieces of a text between offsets; without offsets it stays as it is. -/
def cutAt (offsets : List Nat) (s : Styled) : List Styled :=
  if offsets.isEmpty then [s] else piecesFrom s.spans 0 offsets s.text

/-- The first characters of a text. -/
def crop (length : Nat) (s : Styled) : Styled := ⟨s.text.take length, spansBefore s.spans length⟩

/-- The same stretches on another text; if that is shorter, they are cut. -/
def withText (s : Styled) (t : Text) : Styled :=
  ⟨t, if t.length < s.text.length then spansBefore s.spans t.length else s.spans⟩

/-- The stretches of lines, with the characters before each line that the offsets count. -/
def linesFrom (spans : List Span) (start : Nat) : List Text → List Styled
  | [] => []
  | line :: rest =>
    ⟨line, spansWithin spans start (start + line.length)⟩
      :: linesFrom spans (start + line.length + 1) rest

/-- The lines of a text; a single line stays as it is. -/
def lines (s : Styled) : List Styled :=
  if s.text.contains '\n' then linesFrom s.spans 0 (Text.split '\n' s.text) else [s]

/-! ### Tabs -/

/-- The distance of the tab stops. -/
def tabSize : Nat := 8

/-- Stretches that reach the end of a text of some length, extended by some characters. -/
def extendSpans (length more : Nat) (spans : List Span) : List Span :=
  spans.map fun x => if length ≤ x.stop then { x with stop := x.stop + more } else x

/-- Puts a text with its stretches in front of another one. -/
def append (a b : Styled) : Styled :=
  ⟨a.text ++ b.text, a.spans ++ b.spans.map fun x =>
    { x with start := x.start + a.text.length, stop := x.stop + a.text.length }⟩

/-- Puts spaces between the pieces of a line that tabs separate, up to the next tab stop.  `start`
characters and `column` cells stand before the pieces. -/
def joinAtStops (spans : List Span) (start column : Nat) : List Text → Styled
  | [] => ⟨[], []⟩
  | [piece] => ⟨piece, spansWithin spans start (start + piece.length)⟩
  | piece :: rest =>
    let next := start + piece.length + 1
    let reached := column + cells (piece ++ [' '])
    let fill := (tabSize - reached % tabSize) % tabSize
    let part : Styled :=
      ⟨piece ++ [' '] ++ spaces fill,
       extendSpans (piece.length + 1) fill (spansWithin spans start next)⟩
    part.append (joinAtStops spans next (reached + fill) rest)

/-- The line with its tabs filled up by spaces. -/
def expandTabs (s : Styled) : Styled :=
  if s.text.contains '\t' then joinAtStops s.spans 0 0 (Text.split '\t' s.text) else s

/-! ### Segments -/

/-- A style begins or ends at an offset. -/
def hasSeam (s : Styled) (offset : Nat) : Bool :=
  s.spans.any fun x => x.start = offset || x.stop = offset

/-- The segments of the rest of a text, which starts at an offset. -/
def segmentsFrom (s : Styled) (offset : Nat) : Text → List Text
  | [] => [[]]
  | c :: rest =>
    match segmentsFrom s (offset + 1) rest with
    | [] => [[c]]
    | segment :: segments =>
      if s.hasSeam (offset + 1) then [c] :: segment :: segments else (c :: segment) :: segments

/-- The segments of a text. -/
def segments (s : Styled) : List Text :=
  if s.spans.isEmpty then [s.text] else s.segmentsFrom 0 s.text

theorem segmentsFrom_flatten (s : Styled) (offset : Nat) (t : Text) :
    (s.segmentsFrom offset t).flatten = t := by
  induction t generalizing offset with
  | nil => rfl
  | cons c rest ih =>
    have h := ih (offset + 1)
    unfold segmentsFrom
    split
    · next hs => simp [hs] at h; simp [← h]
    · next segment segments hs =>
      rw [hs] at h
      split <;> simp_all

/-- The segments of a text, put together, are the text. -/
theorem segments_flatten (s : Styled) : s.segments.flatten = s.text := by
  unfold segments
  split
  · simp
  · exact s.segmentsFrom_flatten 0 s.text

/-- The cells that the segments of a text take, each measured on its own. -/
def segmentCells (s : Styled) : Nat := (s.segments.map cells).foldr (· + ·) 0

/-- The segments that fit into a width, of which `used` cells are taken; the first one that reaches
the edge is cut or filled up there. -/
def cropSegments (width used : Nat) : List Text → Text
  | [] => []
  | segment :: rest =>
    if used + cells segment < width then segment ++ cropSegments width (used + cells segment) rest
    else fit (width - used) segment

/-- The text cut to a width. -/
def within (width : Nat) (s : Styled) : Text :=
  if width < s.segmentCells then cropSegments width 0 s.segments else s.text

/-- The text cut or filled up to a width. -/
def filled (width : Nat) (s : Styled) : Text := s.within width ++ spaces (width - s.segmentCells)

end Styled

end SpecifierLint.Console
