/-
Lines and columns.

The place of an offset is found by counting: the line breaks before it give the line, and what stands
between the last of them and the offset gives the column.  The other way round, the whole lines above, each
with its break, and the columns in front of a place lead back to the offset, so no two offsets share a
place and places come in the order of offsets.  Main statements:

* **`Text.length_split`** — a text has one more piece than separators;
* **`leadsTo_of_le`** — line and column of an offset lead back to it;
* **`LeadsTo.unique`** — a place leads to one offset only;
* **`place_lt`** — a later offset is on a later line, or further on in the same line.
-/
import SpecifierLint.Proofs.Path.Components
import SpecifierLint.Proofs.Source.Spans

namespace SpecifierLint

/-! ### Pieces of a text -/

namespace Text

/-- A text has one more piece than separators. -/
theorem length_split (sep : Char) (t : Text) : (split sep t).length = t.count sep + 1 := by
  induction t with
  | nil => rfl
  | cons c rest ih =>
    by_cases hc : c = sep
    · rw [split, if_pos hc, List.length_cons, ih, hc, List.count_cons_self]
    · rw [split, if_neg hc, List.count_cons_of_ne hc, ← ih]
      cases hrest : split sep rest with
      | nil => exact absurd hrest (split_ne_nil sep rest)
      | cons piece pieces => rfl

/-- The length of texts that each have one more character behind them. -/
def lengthOf : List Text → Nat
  | [] => 0
  | piece :: rest => (piece.length + 1) + lengthOf rest

theorem lengthOf_split (sep : Char) (t : Text) : lengthOf (split sep t) = t.length + 1 := by
  induction t with
  | nil => rfl
  | cons c rest ih =>
    rw [split]
    by_cases hc : c = sep
    · rw [if_pos hc, lengthOf, ih, List.length_nil, List.length_cons]
      omega
    · rw [if_neg hc]
      cases hrest : split sep rest with
      | nil => exact absurd hrest (split_ne_nil sep rest)
      | cons piece pieces =>
        rw [hrest, lengthOf] at ih
        show lengthOf ((c :: piece) :: pieces) = _
        rw [lengthOf, List.length_cons, List.length_cons]
        omega

theorem exists_split_append {sep : Char} {a : Text} (h : sep ∉ a) (b : Text) :
    ∃ first rest, split sep (a ++ b) = (a ++ first) :: rest := by
  induction a with
  | nil =>
    obtain ⟨first, rest, hb⟩ := List.exists_cons_of_ne_nil (split_ne_nil sep b)
    exact ⟨first, rest, hb⟩
  | cons c a ih =>
    rw [List.mem_cons, not_or] at h
    obtain ⟨first, rest, hsplit⟩ := ih h.2
    refine ⟨first, rest, ?_⟩
    rw [List.cons_append, split, if_neg (Ne.symm h.1), hsplit]
    rfl

end Text

namespace Source

/-- The lines of a source, without their breaks. -/
def linesOf (source : Text) : List Text := Text.split '\n' source

/-- The whole lines above a place, each with its break, and the columns in front of it come to the offset,
and the place is on a line of the source or right behind it. -/
structure LeadsTo (source : Text) (line : Nat) (column : Int) (offset : Nat) : Prop where
  line_pos : 1 ≤ line
  column_pos : 1 ≤ column
  within : ∃ text, (linesOf source)[line - 1]? = some text ∧ column ≤ text.length + 1
  counted : (offset : Int) = Text.lengthOf ((linesOf source).take (line - 1)) + (column - 1)

/-! ### Counting back -/

theorem exists_last_break (t : Text) :
    ∃ front, (front = [] ∨ ∃ above, front = above ++ ['\n'])
      ∧ '\n' ∉ (t.reverse.takeWhile withinLine).reverse
      ∧ t = front ++ (t.reverse.takeWhile withinLine).reverse := by
  refine ⟨(t.reverse.dropWhile withinLine).reverse, ?_, ?_, ?_⟩
  · cases hmore : t.reverse.dropWhile withinLine with
    | nil => exact .inl rfl
    | cons c above =>
      have hne : t.reverse.dropWhile withinLine ≠ [] := by simp [hmore]
      have hstop := List.head_dropWhile_not withinLine hne
      simp only [hmore, List.head_cons] at hstop
      have hbreak : c = '\n' := by simpa [withinLine] using hstop
      exact .inr ⟨above.reverse, by rw [List.reverse_cons, hbreak]⟩
  · intro hmem
    have hall := List.all_eq_true.1 (List.all_takeWhile (p := withinLine) (l := t.reverse)) _
      (List.mem_reverse.1 hmem)
    exact absurd hall (by decide)
  · rw [← List.reverse_append, List.takeWhile_append_dropWhile, List.reverse_reverse]

/-- The lines of a text that goes on behind an offset: those above the line of the offset, as many as there
are breaks before it, and that line. -/
theorem exists_lines (before after : Text) :
    ∃ above line below, linesOf (before ++ after) = above ++ line :: below
      ∧ above.length = before.count '\n'
      ∧ before.length = Text.lengthOf above + (before.reverse.takeWhile withinLine).length
      ∧ (before.reverse.takeWhile withinLine).length ≤ line.length := by
  obtain ⟨front, hfront, hlast, hbefore⟩ := exists_last_break before
  generalize before.reverse.takeWhile withinLine = tail at hlast hbefore ⊢
  subst hbefore
  have hcount : tail.reverse.count '\n' = 0 := List.count_eq_zero.2 hlast
  obtain ⟨first, below, hsplit⟩ := Text.exists_split_append hlast after
  rcases hfront with rfl | ⟨lines, rfl⟩
  · -- the offset is on the first line
    refine ⟨[], tail.reverse ++ first, below, hsplit, ?_, ?_, ?_⟩
    · simpa using hcount.symm
    · simp [Text.lengthOf]
    · simp
  · -- the last break ends the lines above, and the line of the offset begins behind it
    refine ⟨Text.split '\n' lines, tail.reverse ++ first, below, ?_, ?_, ?_, ?_⟩
    · rw [← hsplit, ← Text.split_append_cons, linesOf]
      simp
    · rw [Text.length_split, List.count_append, List.count_append, hcount]
      simp
    · rw [Text.lengthOf_split]
      simp only [List.length_append, List.length_singleton, List.length_reverse]
    · simp

/-- Line and column of an offset lead back to it. -/
theorem leadsTo_of_le {source : Text} {offset : Nat} (h : offset ≤ source.length) :
    LeadsTo source (lineAt source offset) (columnAt source offset) offset := by
  have hbefore : before source offset = source.take offset := by
    rw [before, Text.place_ofNat h]
  have hlength : (source.take offset).length = offset := List.length_take_of_le h
  obtain ⟨above, line, below, hlines, habove, hcounted, hline⟩ :=
    exists_lines (source.take offset) (source.drop offset)
  rw [List.take_append_drop] at hlines
  rw [hlength] at hcounted
  have hplace : lineAt source offset - 1 = above.length := by
    rw [lineAt, hbefore, habove, Nat.add_sub_cancel]
  have hcolumn : columnAt source offset
      = ((source.take offset).reverse.takeWhile withinLine).length + 1 := by
    rw [columnAt, lineStart, hbefore, hlength]
    omega
  refine ⟨by rw [lineAt]; omega, by omega, ⟨line, ?_, by omega⟩, ?_⟩
  · rw [hplace, hlines]
    simp
  · rw [hplace, hlines, List.take_left]
    omega

/-- A place leads to one offset only. -/
theorem LeadsTo.unique {source : Text} {line : Nat} {column : Int} {a b : Nat}
    (ha : LeadsTo source line column a) (hb : LeadsTo source line column b) : a = b := by
  have hsame := ha.counted.trans hb.counted.symm
  omega

theorem lineAt_mono {source : Text} {a b : Nat} (hab : a ≤ b) (hb : b ≤ source.length) :
    lineAt source a ≤ lineAt source b := by
  rw [lineAt, lineAt, before, before, Text.place_ofNat (by omega), Text.place_ofNat hb]
  have hfront : source.take a <+: source.take b := List.take_prefix_take_left hab
  have hcount := hfront.sublist.count_le '\n'
  omega

/-- A later offset is on a later line, or further on in the same line. -/
theorem place_lt {source : Text} {a b : Nat} (hab : a < b) (hb : b ≤ source.length) :
    lineAt source a < lineAt source b
      ∨ lineAt source a = lineAt source b ∧ columnAt source a < columnAt source b := by
  have hmono := lineAt_mono (Nat.le_of_lt hab) hb
  rcases Nat.lt_or_eq_of_le hmono with hlt | heq
  · exact .inl hlt
  · -- on one line the same lines are above both offsets
    have ha : a ≤ source.length := by omega
    have hfirst := (leadsTo_of_le ha).counted
    have hsecond := (leadsTo_of_le hb).counted
    rw [heq] at hfirst
    exact .inr ⟨heq, by omega⟩

/-! ### Places of specifiers -/

/-- Inside a source, given offsets span a literal. -/
theorem exists_ofOffsets? {source : Text} {start : Nat} (stop : Int) (h : start < source.length) :
    ∃ x, Specifier.ofOffsets? source start stop = some x := by
  rw [Specifier.ofOffsets?, Text.charAt?, if_pos (by omega), Int.toNat_natCast,
    List.getElem?_eq_getElem h]
  exact ⟨_, rfl⟩

theorem place_of_ofOffsets? {source : Text} {start : Nat} {stop : Int} {x : Specifier}
    (h : Specifier.ofOffsets? source start stop = some x) :
    start < source.length ∧ x.line = lineAt source start ∧ x.column = columnAt source start := by
  obtain ⟨c, hchar, rfl⟩ := Option.map_eq_some_iff.1 h
  rw [Text.charAt?, if_pos (by omega), Int.toNat_natCast] at hchar
  exact ⟨(List.getElem?_eq_some_iff.1 hchar).1, rfl, rfl⟩

/-- The place of a literal comes before that of another one. -/
def Specifier.PlacedBefore (x y : Specifier) : Prop :=
  x.line < y.line ∨ x.line = y.line ∧ x.column < y.column

theorem specifiers_placed (source : Text) :
    (specifiers source).Pairwise fun x y => x.2.PlacedBefore y.2 := by
  rw [specifiers_eq, List.pairwise_map]
  -- a scan goes on behind what it has read, so a later literal starts at a later offset
  refine (stop_le_start_of_scanFrom none 0 0 source).imp_of_mem fun {x y} hx hy hxy => ?_
  have hquotes := (within_of_scanFrom hx).2.2
  have hstop := stop_le_of_scanFrom hy
  have hlast := (within_of_scanFrom hy).2.2
  have hinside : y.start ≤ source.length := by omega
  have hbefore : x.start < y.start := by omega
  exact place_lt hbefore hinside

end Source

end SpecifierLint
