/-
Spans of specifier literals.

The literals that a scan reports lie in the source, each between two quotes, and no two of them
overlap.  Main statements:

* **`spans_of_mem_specifiers`** — a reported literal stands in the source at its offsets;
* **`stop_le_start_of_specifiers`** — each literal ends before those after it start;
* **`Specifier.Spans.exists_gap`** — the source in front of a literal, its value, and what is behind.
-/
import SpecifierLint.Source.Scan

namespace SpecifierLint.Source

/-- The literal stands in the source at its offsets: its quote, its value, and a character that closes
it. -/
def Specifier.Spans (source : Text) (x : Specifier) : Prop :=
  ∃ before closing after, source = before ++ x.quote :: (x.value ++ closing :: after)
    ∧ x.start = before.length ∧ x.stop = before.length + x.value.length + 2

/-- From an offset before a literal on, a source is a gap up to the quote, the value of the literal, and
what is behind it. -/
theorem Specifier.Spans.exists_gap {source : Text} {x : Specifier} (h : x.Spans source) {offset : Nat}
    (hoffset : (offset : Int) ≤ x.start) :
    ∃ gap, x.start + 1 = offset + gap.length
      ∧ source.drop offset
        = gap ++ x.value ++ source.drop (offset + gap.length + x.value.length) := by
  obtain ⟨before, closing, after, hsource, hstart, _⟩ := h
  have hfront : (before ++ [x.quote]).length = before.length + 1 := by simp
  have hgap : ((before ++ [x.quote]).drop offset).length + offset = before.length + 1 := by
    rw [List.length_drop, hfront]
    omega
  have hvalue : source = (before ++ [x.quote]) ++ (x.value ++ closing :: after) := by
    rw [hsource, List.append_cons]
  have hbehind : source.drop
      (offset + ((before ++ [x.quote]).drop offset).length + x.value.length) = closing :: after := by
    rw [hvalue, ← List.append_assoc, List.drop_left']
    rw [List.length_append, hfront]
    omega
  refine ⟨(before ++ [x.quote]).drop offset, by omega, ?_⟩
  rw [hbehind, hvalue, List.drop_append_of_le_length (by omega), List.append_assoc]

/-! ### Spans in a scan -/

theorem stop_le_of_scanFrom {previous : Option Char} {offset skip : Nat} {t : Text} {o : Occurrence}
    (h : o ∈ scanFrom previous offset skip t) : o.stop ≤ offset + t.length := by
  induction t generalizing previous offset skip with
  | nil => simp [scanFrom] at h
  | cons c rest ih =>
    simp only [scanFrom] at h
    rw [List.length_cons]
    split at h
    · have hstop := ih h
      omega
    · split at h
      · have hstop := ih h
        omega
      · next token htoken =>
        rcases List.mem_append.1 h with h | h
        · have hfront := (readToken_front htoken).length_le
          have hstop := (within_of_readToken htoken (Option.mem_toList.1 h)).2
          rw [List.length_cons] at hfront
          omega
        · have hstop := ih h
          omega

theorem stop_le_start_of_scanFrom (previous : Option Char) (offset skip : Nat) (t : Text) :
    (scanFrom previous offset skip t).Pairwise fun a b => a.stop ≤ b.start := by
  induction t generalizing previous offset skip with
  | nil => simp [scanFrom]
  | cons c rest ih =>
    simp only [scanFrom]
    split
    · exact ih ..
    · split
      · exact ih ..
      · next token htoken =>
        refine List.pairwise_append.2 ⟨?_, ih .., fun a ha b hb => ?_⟩
        · cases token.occurrence? offset <;> simp
        · -- the rest of the token is skipped, and the literal lies inside the token
          obtain ⟨hplace, hstop⟩ := within_of_readToken htoken (Option.mem_toList.1 ha)
          obtain ⟨hstart, _, _⟩ := within_of_scanFrom hb
          have hquotes : a.start + 2 ≤ a.stop := hplace.2.2
          have hfirst : offset ≤ a.start := hplace.1
          omega

/-! ### Literals of a source -/

theorem ofSource_spans {source : Text} {start stop : Nat} (hquotes : start + 2 ≤ stop)
    (hstop : stop ≤ source.length) : (Specifier.ofSource source start stop).Spans source := by
  have hopening : start < source.length := by omega
  have hclosing : stop - 1 < source.length := by omega
  have hvalue : (Specifier.ofSource source start stop).value
      = (source.take (stop - 1)).drop (start + 1) := by
    have hfirst : ((start : Int) + 1) = ((start + 1 : Nat) : Int) := by omega
    have hlast : ((stop : Int) - 1) = ((stop - 1 : Nat) : Int) := by omega
    simp only [Specifier.ofSource, Specifier.spanning, Text.slice, hfirst, hlast]
    rw [Text.place_ofNat (by omega), Text.place_ofNat (by omega)]
  have hquote : (Specifier.ofSource source start stop).quote = source[start] := by
    simp [Specifier.ofSource, Specifier.spanning, List.headD_eq_head?_getD, List.head?_drop, hopening]
  refine ⟨source.take start, source[stop - 1], source.drop stop, ?_, ?_, ?_⟩
  · rw [hvalue, hquote]
    have hrest : source.drop (stop - 1) = source[stop - 1] :: source.drop stop := by
      rw [List.drop_eq_getElem_cons hclosing]
      congr 2
      omega
    -- the source from the opening quote on: the value, the closing quote and the rest
    have hbody : (source.take (stop - 1)).drop (start + 1) ++ source.drop (stop - 1)
        = source.drop (start + 1) := by
      conv => rhs; rw [← List.take_append_drop (stop - 1) source]
      rw [List.drop_append_of_le_length]
      rw [List.length_take]
      omega
    rw [← hrest, hbody, ← List.drop_eq_getElem_cons hopening, List.take_append_drop]
  · simp only [Specifier.ofSource, Specifier.spanning, List.length_take]
    omega
  · rw [hvalue]
    simp only [Specifier.ofSource, Specifier.spanning, List.length_take, List.length_drop]
    omega

/-- A reported literal stands in the source at its offsets. -/
theorem spans_of_mem_specifiers {source : Text} {kind : ImportKind} {x : Specifier}
    (h : (kind, x) ∈ specifiers source) : x.Spans source := by
  rw [specifiers_eq] at h
  obtain ⟨o, ho, heq⟩ := List.mem_map.1 h
  obtain ⟨rfl, rfl⟩ := Prod.mk.inj heq
  have hquotes : o.start + 2 ≤ o.stop := (within_of_scanFrom ho).2.2
  have hstop : o.stop ≤ source.length := by
    simpa using stop_le_of_scanFrom ho
  exact ofSource_spans hquotes hstop

/-- Each literal of a source ends before those after it start. -/
theorem stop_le_start_of_specifiers (source : Text) :
    (specifiers source).Pairwise fun a b => a.2.stop ≤ b.2.start := by
  rw [specifiers_eq]
  refine (stop_le_start_of_scanFrom none 0 0 source).map _ fun a b hab => ?_
  show (a.stop : Int) ≤ b.start
  omega

end SpecifierLint.Source
