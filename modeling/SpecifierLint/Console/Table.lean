/-
Tables and panels in box drawing.

A table has a title, a row of heads and rows of cells.  A column is as wide as its widest cell with a
space on both sides.  A table that is wider than the console gives up width in its widest columns
first, and its cells are wrapped.  An expanded table is stretched to the console: the room that is
left over is given to the columns in proportion to their widths, from the left, each share rounded
up.
-/
import SpecifierLint.Console.Wrap

namespace SpecifierLint.Console

/-- A table of texts. -/
structure Table where
  title : Text
  heads : List Text
  rows : List (List Styled)

/-- A text in the middle of a width. -/
def centred (width : Nat) (t : Text) : Text := spaces ((width - cells t) / 2) ++ t

namespace Table

/-! ### Widths -/

/-- A character that ends a line when a cell is measured. -/
def endsLine (c : Char) : Bool :=
  c = '\n' || (0xb ≤ c.toNat && c.toNat ≤ 0xd) || (0x1c ≤ c.toNat && c.toNat ≤ 0x1e)
    || c.toNat = 0x85 || c.toNat = 0x2028 || c.toNat = 0x2029

/-- The width of the widest line of a cell. -/
def cellWidth (cell : Text) : Nat :=
  ((Text.split '\n' (cell.map fun c => if endsLine c then '\n' else c)).map cells).foldl max 0

/-- The room that a cell asks for, at most `room`: its width and a space on both sides. -/
def paddedWidth (room : Nat) (cell : Text) : Nat :=
  if room < 3 then room else min room (min room (cellWidth cell) + 2)

/-- The width of a column, at most `room`. -/
def columnWidth (room : Nat) (column : List Text) : Nat :=
  (column.map (paddedWidth room)).foldl max 0

/-- The columns, heads included. -/
def columns (t : Table) : List (List Text) :=
  (List.range t.heads.length).map fun i =>
    t.heads.getD i [] :: t.rows.map fun row => (row.map Styled.text).getD i []

/-- The sum of widths. -/
def sumOf (widths : List Nat) : Nat := widths.foldr (· + ·) 0

/-- The cells that the lines between and around columns take. -/
def ruleCells (t : Table) : Nat := t.heads.length + 1

/-- The quotient rounded to the nearest number, a half to the even one. -/
def roundDiv (num den : Nat) : Nat :=
  let down := num / den
  if 2 * (num % den) < den then down
  else if den < 2 * (num % den) then down + 1
  else down + down % 2

/-- Takes `excess` cells away from the columns of width `widest`, of which `count` are still to come,
in equal parts of at most `limit`. -/
def narrow (widest limit : Nat) (count excess : Nat) : List Nat → List Nat
  | [] => []
  | w :: rest =>
    if w = widest && count ≠ 0 then
      let part := min limit (roundDiv excess count)
      (w - part) :: narrow widest limit (count - 1) (excess - part) rest
    else w :: narrow widest limit count excess rest

/-- One round of giving up width: the widest columns shrink, at most to the next width below. -/
def shrink (room : Nat) (widths : List Nat) : List Nat :=
  let widest := widths.foldl max 0
  let second := (widths.filter (· ≠ widest)).foldl max 0
  let excess := sumOf widths - room
  narrow widest (min excess (widest - second)) (widths.filter (· = widest)).length excess widths

/-- Rounds of giving up width, until the columns fit; each round gives up a cell at least. -/
def collapse (room : Nat) : Nat → List Nat → List Nat
  | 0, widths => widths
  | rounds + 1, widths =>
    if sumOf widths ≤ room then widths else collapse room rounds (shrink room widths)

/-- Gives out the room that is left over, in proportion to the widths that are still to come. -/
def stretch (total extra : Nat) : List Nat → List Nat
  | [] => []
  | w :: rest =>
    let share := (w * extra + total - 1) / total
    (w + share) :: stretch (total - w) (extra - share) rest

/-- The widths of the columns on a console. -/
def widths (t : Table) (expand : Bool) (console : Nat) : List Nat :=
  let room := console - t.ruleCells
  let wanted := t.columns.map fun column => max 1 (columnWidth room column)
  let total := sumOf wanted
  if room < total then
    let given := collapse room (total - room) wanted
    (t.columns.zip given).map fun (column, w) => columnWidth w column
  else if expand then stretch total (room - total) wanted
  else wanted

/-! ### Lines -/

/-- The lines of a cell in a column of the given width, without the spaces around them. -/
def wrapped (width : Nat) (cell : Styled) : List Styled :=
  if width < 3 then []
  else
    (wrapLines .ellipsis (width - 2) cell).map fun line =>
      { line with text := padRight (width - 2) line.text }

/-- The lines of a cell in a column of the given width. -/
def cellLines (width : Nat) (cell : Styled) : List Text :=
  (wrapped width cell).map fun line => [' '] ++ line.filled (width - 2) ++ [' ']

/-- A line across the table. -/
def rule (left middle right line : Char) (widths : List Nat) : Text :=
  [left] ++ Text.join [middle] (widths.map (List.replicate · line)) ++ [right]

/-- The lines of a row of cells.  The row is as high as its highest cell; a head stands at the bottom
of its cell, and every other text at the top. -/
def rowLines (bar : Char) (isHead : Bool) (widths : List Nat) (row : List Styled) : List Text :=
  let blocks := (widths.zip row).map fun (w, cell) => (w, cellLines w cell)
  let height := (blocks.map fun (_, lines) => lines.length).foldl max 1
  let full := blocks.map fun (w, lines) =>
    let filler := List.replicate (height - lines.length) (spaces w)
    if isHead then filler ++ lines else lines ++ filler
  (List.range height).map fun i =>
    [bar] ++ Text.join [bar] (full.map fun lines => lines.getD i []) ++ [bar]

/-- The lines of the title over a table of the given width. -/
def titleLines (width : Nat) (title : Text) : List Text :=
  (wrapLines .fold width title).map fun line => centred width (Text.trimBlanksRight line.text)

/-- A cell that is shown on a console has a style that cannot be looked up. -/
def isBroken (t : Table) (expand : Bool) (console : Nat) : Bool :=
  t.rows.any fun row => ((t.widths expand console).zip row).any fun (w, cell) =>
    (wrapped w cell).any Styled.isBroken

/-- The lines of a table on a console. -/
def render (t : Table) (expand : Bool) (console : Nat) : List Text :=
  let widths := t.widths expand console
  let lines := titleLines (sumOf widths + t.ruleCells) t.title
    ++ [rule '┏' '┳' '┓' '━' widths] ++ rowLines '┃' true widths (t.heads.map fun h => { text := h })
    ++ [rule '┡' '╇' '┩' '━' widths] ++ t.rows.flatMap (rowLines '│' false widths)
    ++ [rule '└' '┴' '┘' '─' widths]
  if console = 0 then [] else lines.map fun line => Text.trimRight (shorten .fold console line)

end Table

/-- A message in a frame as wide as the console, with a title in the upper edge. -/
def panel (width : Nat) (title message : Text) : List Text :=
  let inner := width - 4
  let edge := List.replicate (width - 5 - cells title) '─'
  [("╭─ " : Text) ++ title ++ " " ++ edge ++ "╮"]
    ++ (wrap inner (message : Styled)).map (fun line => ("│ " : Text) ++ padRight inner line ++ " │")
    ++ [("╰" : Text) ++ List.replicate (width - 2) '─' ++ "╯"]

end SpecifierLint.Console
