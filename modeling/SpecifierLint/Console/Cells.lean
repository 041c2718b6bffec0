/-
Widths on a console.

A character takes one cell; ideographs and most emoji take two, controls and marks none.  A joiner
draws the character after it into the one before it, and a variation selector turns the narrow symbol
before it into an emoji of two cells.  A glyph is a character with all that is drawn into it; a text
is cut between glyphs only.
-/
import SpecifierLint.Console.CellRanges
import SpecifierLint.Text.Basic

namespace SpecifierLint.Console

/-- The cells that a character takes on its own. -/
def charCells (c : Char) : Nat :=
  if 0x20 ≤ c.toNat && c.toNat < 0x7f then 1
  else if Text.inRanges emptyRanges c.toNat then 0
  else if Text.inRanges wideRanges c.toNat then 2
  else 1

/-- The joiner draws the character after it into the one before it. -/
def isJoiner (c : Char) : Bool := c.toNat = 0x200d

/-- The selector asks for the emoji form of the symbol before it. -/
def isEmojiSelector (c : Char) : Bool := c.toNat = 0xfe0f

/-- The symbol is narrow and has a wide emoji form. -/
def hasEmojiForm (c : Char) : Bool := Text.inRanges emojiFormRanges c.toNat

/-- The cells of the rest of a text.  `joined` says that the next character is drawn into the one
before it, and `last` is the symbol that a selector would apply to. -/
def cellsFrom (joined : Bool) (last : Option Char) : Text → Nat
  | [] => 0
  | c :: rest =>
    if joined then cellsFrom false last rest
    else if isJoiner c then cellsFrom true last rest
    else if isEmojiSelector c then
      (if last.any hasEmojiForm then 1 else 0) + cellsFrom false none rest
    else if charCells c = 0 then cellsFrom false last rest
    else charCells c + cellsFrom false (some c) rest

/-- The cells that a text takes. -/
def cells (t : Text) : Nat := cellsFrom false none t

example : cells "⚠️ Manual" = 9 ∧ cells "✅ é 日本" = 9 ∧ cells "1️⃣" = 2 := by decide +kernel

/-! ### Glyphs -/

/-- A character with all that is drawn into it. -/
structure Glyph where
  text : Text
  cells : Nat

/-- The glyphs of the front of a text, the last one first. -/
structure GlyphScan where
  glyphs : List Glyph := []
  joined : Bool := false
  last : Option Char := none

namespace GlyphScan

/-- Adds a character to the last glyph, which grows by some cells. -/
def draw (s : GlyphScan) (c : Char) (more : Nat) : GlyphScan :=
  match s.glyphs with
  | [] => { s with glyphs := [⟨[c], more⟩] }
  | g :: earlier => { s with glyphs := ⟨g.text ++ [c], g.cells + more⟩ :: earlier }

/-- Reads one character. -/
def read (s : GlyphScan) (c : Char) : GlyphScan :=
  if s.joined then { s.draw c 0 with joined := false }
  else if isJoiner c then { s.draw c 0 with joined := !s.glyphs.isEmpty }
  else if isEmojiSelector c then
    if s.last.any hasEmojiForm then { s.draw c 1 with last := none } else s.draw c 0
  else if charCells c = 0 then s.draw c 0
  else { s with glyphs := ⟨[c], charCells c⟩ :: s.glyphs, last := some c }

end GlyphScan

/-- The glyphs of a text. -/
def glyphs (t : Text) : List Glyph := (t.foldl GlyphScan.read {}).glyphs.reverse

/-! ### Cutting and filling -/

/-- Spaces. -/
def spaces (n : Nat) : Text := List.replicate n ' '

/-- Sets glyphs into pieces of at most `width` cells; `used` cells of `current` are taken. -/
def chopGlyphs (width used : Nat) (current : Text) : List Glyph → List Text
  | [] => if used = 0 then [] else [current]
  | g :: rest =>
    if width < used + g.cells then current :: chopGlyphs width g.cells g.text rest
    else chopGlyphs width (used + g.cells) (current ++ g.text) rest

/-- Cuts a text into pieces of at most `width` cells. -/
def chop (width : Nat) (t : Text) : List Text := chopGlyphs width 0 [] (glyphs t)

/-- The glyphs that fit into a width; a glyph that would be cut leaves a space. -/
def takeCells (width : Nat) : List Glyph → Text
  | [] => []
  | g :: rest =>
    if width = 0 then []
    else if width < g.cells then [' ']
    else g.text ++ takeCells (width - g.cells) rest

/-- A text with spaces after it up to a width. -/
def padRight (width : Nat) (t : Text) : Text := t ++ spaces (width - cells t)

/-- A text cut or filled up to a width. -/
def fit (width : Nat) (t : Text) : Text :=
  if cells t ≤ width then padRight width t else takeCells width (glyphs t)

example : fit 4 "日本語" = ("日本" : Text) ∧ fit 3 "日本語" = ("日 " : Text) := by decide +kernel

example : chop 3 "日本x" = [("日" : Text), "本x"] := by decide +kernel

end SpecifierLint.Console
