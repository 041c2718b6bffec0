/-
Scanning source text for import specifiers.

The scan walks through the text once.  Where a token starts, the whole token is passed over and, if
it is an import form, its literal is reported; elsewhere the scan moves on by one character.  The
places of the literals are then counted in one more walk.  Main statements:

* **`start_le_of_scanFrom`** — the literals are reported in the order of the text;
* **`specifiers_eq`** — each has the place that is counted from the front of the source.
-/
import SpecifierLint.Source.Specifier

namespace SpecifierLint.Source

/-- The form and the span of a literal. -/
structure Occurrence where
  kind : ImportKind
  start : Nat
  stop : Nat
  deriving DecidableEq, Repr

/-- The literal of an import form that starts at an offset. -/
def Token.occurrence? (offset : Nat) : Token → Option Occurrence
  | .passed _ => none
  | .form kind before literal _ =>
    some ⟨kind, offset + before.length, offset + before.length + literal.length⟩

/-- Scans the text at an offset, given the character before it.  `skip` counts the characters that
belong to a token already read. -/
def scanFrom (previous : Option Char) (offset skip : Nat) : Text → List Occurrence
  | [] => []
  | c :: rest =>
    if skip ≠ 0 then scanFrom (some c) (offset + 1) (skip - 1) rest
    else
      match readToken previous (c :: rest) with
      | none => scanFrom (some c) (offset + 1) 0 rest
      | some token =>
        (token.occurrence? offset).toList
          ++ scanFrom (some c) (offset + 1) (token.lexeme.length - 1) rest

/-- The literals of all import forms, in the order of the text. -/
def occurrences (source : Text) : List Occurrence := scanFrom none 0 0 source

/-- The literals of the occurrences, where `t` is the source from a position on. -/
def specifiersFrom (p : Position) (t : Text) : List Occurrence → List (ImportKind × Specifier)
  | [] => []
  | o :: rest =>
    let place := p.after (t.take (o.start - p.offset))
    let here := t.drop (o.start - p.offset)
    (o.kind, Specifier.atPosition place (o.stop - o.start) here) :: specifiersFrom place here rest

/-- The specifiers of a source text with their forms. -/
def specifiers (source : Text) : List (ImportKind × Specifier) :=
  specifiersFrom {} source (occurrences source)

/-! ### Places -/

/-- The occurrence lies in the text from `offset` up to `size`, and its literal has both quotes. -/
def Occurrence.Within (offset size : Nat) (o : Occurrence) : Prop :=
  offset ≤ o.start ∧ o.start ≤ size ∧ o.start + 2 ≤ o.stop

theorem within_of_readToken {previous : Option Char} {offset : Nat} {t : Text} {token : Token}
    {o : Occurrence} (h : readToken previous t = some token) (ho : token.occurrence? offset = some o) :
    o.Within offset (offset + t.length) ∧ o.stop ≤ offset + token.lexeme.length := by
  cases token with
  | passed _ => simp [Token.occurrence?] at ho
  | form kind before literal after =>
    have hfront := (readToken_front h).length_le
    have hquotes := two_le_length_literal h
    simp only [Token.occurrence?, Option.some.injEq] at ho
    simp only [Token.lexeme, List.length_append] at hfront ⊢
    subst ho
    simp only [Occurrence.Within]
    omega

theorem within_of_scanFrom {previous : Option Char} {offset skip : Nat} {t : Text} {o : Occurrence}
    (h : o ∈ scanFrom previous offset skip t) : o.Within (offset + skip) (offset + t.length) := by
  induction t generalizing previous offset skip with
  | nil => simp [scanFrom] at h
  | cons c rest ih =>
    simp only [scanFrom] at h
    split at h
    · have := ih h
      simp only [Occurrence.Within, List.length_cons] at this ⊢
      omega
    · next hskip =>
      split at h
      · have := ih h
        simp only [Occurrence.Within, List.length_cons] at this ⊢
        omega
      · next token htoken =>
        rcases List.mem_append.1 h with h | h
        · obtain ⟨hw, _⟩ := within_of_readToken htoken (Option.mem_toList.1 h)
          simp only [Occurrence.Within] at hw ⊢
          omega
        · have := ih h
          simp only [Occurrence.Within, List.length_cons] at this ⊢
          omega

/-- The literals are reported in the order of the text. -/
theorem start_le_of_scanFrom (previous : Option Char) (offset skip : Nat) (t : Text) :
    (scanFrom previous offset skip t).Pairwise fun a b => a.start ≤ b.start := by
  induction t generalizing previous offset skip with
  | nil => simp [scanFrom]
  | cons c rest ih =>
    simp only [scanFrom]
    split
    · exact ih ..
    · split
      · exact ih ..
      · next token htoken =>
        refine List.pairwise_append.2 ⟨?_, ih .., fun a ha b hb => ?_⟩
        · cases token.occurrence? offset <;> simp
        · obtain ⟨hw, hstop⟩ := within_of_readToken htoken (Option.mem_toList.1 ha)
          have := within_of_scanFrom hb
          simp only [Occurrence.Within] at hw this
          omega

theorem specifiersFrom_eq {before t : Text} {found : List Occurrence}
    (hplaces : ∀ o ∈ found, o.Within before.length (before ++ t).length)
    (horder : found.Pairwise fun a b => a.start ≤ b.start) :
    specifiersFrom (({} : Position).after before) t found
      = found.map fun o => (o.kind, Specifier.ofSource (before ++ t) o.start o.stop) := by
  -- along the finds, each counted on from the one before it
  induction found generalizing before t with
  | nil => rfl
  | cons o rest ih =>
    obtain ⟨hlow, hhigh, hquotes⟩ := hplaces o (by simp)
    obtain ⟨hfirst, hrest⟩ := List.pairwise_cons.1 horder
    have hoffset : (({} : Position).after before).offset = before.length := by
      rw [Position.after_eq]
    have hsplit : before ++ t.take (o.start - before.length) ++ t.drop (o.start - before.length)
        = before ++ t := by simp
    have hlength : (before ++ t.take (o.start - before.length)).length = o.start := by
      simp only [List.length_append, List.length_take] at hhigh ⊢
      omega
    simp only [specifiersFrom, List.map_cons, hoffset, ← Position.after_append]
    rw [ih ?_ hrest, hsplit, Specifier.atPosition_eq _ _ (by omega), hsplit, hlength]
    · congr 3
      omega
    · intro x hx
      obtain ⟨_, hx₂, hx₃⟩ := hplaces x (by simp [hx])
      rw [hsplit, hlength]
      exact ⟨hfirst x hx, hx₂, hx₃⟩

/-- Each specifier has the place that is counted from the front of the source. -/
theorem specifiers_eq (source : Text) :
    specifiers source
      = (occurrences source).map fun o => (o.kind, Specifier.ofSource source o.start o.stop) := by
  have hplaces (o : Occurrence) (ho : o ∈ occurrences source) :
      o.Within ([] : Text).length (([] : Text) ++ source).length := by
    simpa using within_of_scanFrom ho
  exact specifiersFrom_eq hplaces (start_le_of_scanFrom ..)

end SpecifierLint.Source
