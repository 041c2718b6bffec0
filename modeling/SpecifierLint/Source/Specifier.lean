/-
Specifiers and their places.

A specifier is a string literal of a source text.  Its offsets span the literal with its quotes;
line and column are counted from one and point at the opening quote.  Offsets that are given from
outside may be below zero; these count from the end of the source.  Main statements:

* **`Specifier.ofOffsets?_ofNat`** — inside the source, given offsets span the literal between them;
* **`Specifier.atPosition_eq`** — a literal that is met while walking through the source has the place
  that is counted from the front of the source.
-/
import SpecifierLint.Source.Token

namespace SpecifierLint.Source

/-- The text before an offset. -/
def before (source : Text) (offset : Int) : Text := source.take (Text.place source.length offset)

/-- The line of an offset, counted from one: the line breaks before it, plus one. -/
def lineAt (source : Text) (offset : Int) : Nat := (before source offset).count '\n' + 1

/-- The number of characters up to the last line break before an offset. -/
def lineStart (source : Text) (offset : Int) : Nat :=
  (before source offset).length - ((before source offset).reverse.takeWhile withinLine).length

/-- The column of an offset, counted from one: its distance from the last line break. -/
def columnAt (source : Text) (offset : Int) : Int := offset - lineStart source offset + 1

/-! ### Positions -/

/-- Where one is in a text: how many characters come before, and the line and the column. -/
structure Position where
  offset : Nat := 0
  line : Nat := 1
  column : Nat := 1
  deriving DecidableEq, Repr

namespace Position

/-- The position behind a character. -/
def next (p : Position) (c : Char) : Position :=
  if withinLine c then ⟨p.offset + 1, p.line, p.column + 1⟩ else ⟨p.offset + 1, p.line + 1, 1⟩

/-- The position behind a text. -/
def after (p : Position) (t : Text) : Position := t.foldl next p

theorem after_append (p : Position) (t u : Text) : p.after (t ++ u) = (p.after t).after u := by
  simp [after]

theorem after_eq (t : Text) :
    ({} : Position).after t
      = ⟨t.length, t.count '\n' + 1, (t.reverse.takeWhile withinLine).length + 1⟩ := by
  obtain ⟨r, rfl⟩ : ∃ r : Text, t = r.reverse := ⟨t.reverse, by simp⟩
  rw [after, List.foldl_reverse]
  induction r with
  | nil => rfl
  | cons c r ih =>
    rw [List.foldr_cons, ih]
    by_cases hc : c = '\n'
    · simp [next, withinLine, hc]
    · simp [next, withinLine, hc, List.takeWhile_cons]

end Position

/-! ### Literals -/

/-- A specifier literal in a source text. -/
structure Specifier where
  value : Text
  start : Int
  stop : Int
  line : Nat := 1
  column : Int := 1
  quote : Char := '"'
  deriving DecidableEq, Repr

namespace Specifier

/-- The literal that spans the given offsets of a source text and starts with the given quote. -/
def spanning (source : Text) (start stop : Int) (quote : Char) : Specifier where
  value := Text.slice source (start + 1) (stop - 1)
  start := start
  stop := stop
  line := lineAt source start
  column := columnAt source start
  quote := quote

/-- The literal that spans offsets inside a source text. -/
def ofSource (source : Text) (start stop : Nat) : Specifier :=
  spanning source start stop ((source.drop start).headD '"')

/-- The literal of a given length at a position, where `t` is the source from there on. -/
def atPosition (p : Position) (length : Nat) (t : Text) : Specifier where
  value := (t.drop 1).take (length - 2)
  start := p.offset
  stop := p.offset + length
  line := p.line
  column := p.column
  quote := t.headD '"'

/-- A literal that is met while walking through the source has the place that is counted from the
front of the source. -/
theorem atPosition_eq (before t : Text) {length : Nat} (h : 2 ≤ length) :
    atPosition (({} : Position).after before) length t
      = ofSource (before ++ t) before.length (before.length + length) := by
  have hsize : before.length ≤ (before ++ t).length := by simp
  have hvalue : Text.slice (before ++ t) (before.length + 1) ((before.length + length : Nat) - 1)
      = (t.drop 1).take (length - 2) := by
    have hstart : ¬ (before.length + 1 : Int) < 0 := by omega
    have hstop : ¬ ((before.length + length : Nat) - 1 : Int) < 0 := by omega
    have hcount : ((before.length + length : Nat) - 1 : Int).toNat = before.length + (length - 1) := by
      omega
    simp only [Text.slice, Text.place, hstart, hstop, if_false, hcount]
    -- behind the opening quote, if there is one
    cases t with
    | nil => simp
    | cons c rest =>
      have hroom : min (before.length + 1 : Int).toNat (before ++ c :: rest).length
          = before.length + 1 := by
        simp only [List.length_append, List.length_cons]
        omega
      rw [hroom, ← List.take_eq_take_min, List.drop_take, ← List.drop_drop, List.drop_left]
      congr 1
      omega
  have hbefore : Source.before (before ++ t) before.length = before := by
    rw [Source.before, Text.place_ofNat hsize, List.take_left]
  have hrun : (before.reverse.takeWhile withinLine).length ≤ before.length := by
    simpa using (List.takeWhile_sublist withinLine (l := before.reverse)).length_le
  simp only [ofSource, spanning, atPosition, lineAt, columnAt, lineStart, hvalue, hbefore,
    Position.after_eq, List.drop_left]
  congr 1
  omega

/-- The literal that spans given offsets, if there is a character at its start. -/
def ofOffsets? (source : Text) (start stop : Int) : Option Specifier :=
  (Text.charAt? source start).map (spanning source start stop)

/-- Inside the source, given offsets span the literal between them. -/
theorem ofOffsets?_ofNat {source : Text} {start : Nat} (stop : Nat) (h : start < source.length) :
    ofOffsets? source start stop = some (ofSource source start stop) := by
  simp [ofOffsets?, ofSource, Text.charAt?, h, List.headD_eq_head?_getD, List.head?_drop]

end Specifier

end SpecifierLint.Source
