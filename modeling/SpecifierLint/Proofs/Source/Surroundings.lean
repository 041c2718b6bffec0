/-
What stands around a reported literal.

Whatever the text of a source is, closed or not, every specifier that a scan reports is a whole string
literal of it and stands in an import form: from the keyword on, where a name or a member access cannot go
on, up to the `from`, or up to the parenthesis of a call that goes on behind the literal.  Main statements:

* **`ClauseText.exists_from`** — a clause ends in its `from`, blanks aside;
* **`specifiers_sound`** — the reported literals stand one behind the other, each in its form.
-/
import SpecifierLint.Proofs.Source.Spans
import SpecifierLint.Proofs.Source.Steps

namespace SpecifierLint.Source

/-! ### Clauses and their `from` -/

theorem exists_of_spells_name {word w : Text} (h : Spells [.name word] w) :
    ∃ gap behind : Blanks, w = gap.1 ++ (word ++ behind.1) := by
  obtain ⟨gap, u, v, rfl, hword, hrest⟩ := spells_cons h
  obtain ⟨behind, rfl⟩ := spells_nil hrest
  cases hword
  exact ⟨gap, behind, rfl⟩

/-- A clause ends in its `from`, blanks aside. -/
theorem ClauseText.exists_from {w : Text} (h : ClauseText w) :
    ∃ (clause : Text) (gap : Blanks), w = clause ++ ("from" ++ gap.1) := by
  obtain ⟨items, clause, hspells, hfrom, _⟩ := h
  obtain ⟨front, word, stem, rfl, rfl, _⟩ := exists_of_beforeLastFrom? hfrom
  obtain ⟨u, v, rfl, _, hlast⟩ := exists_spells_append hspells
  obtain ⟨gap, behind, rfl⟩ := exists_of_spells_name hlast
  exact ⟨u ++ (gap.1 ++ stem), behind, by simp⟩

/-! ### Around a literal -/

/-- The text before the literal of a call from its keyword on, and the text behind the literal. -/
def IsCall (keyword before after : Text) : Prop :=
  ∃ (gap inner behind : Blanks) (close : Char), (close = ',' ∨ close = ')')
    ∧ before = keyword ++ (gap.1 ++ '(' :: inner.1) ∧ after = behind.1 ++ [close]

/-- The text before a literal from a keyword on, which ends in a `from` and blanks. -/
def EndsInFrom (keyword before : Text) : Prop :=
  ∃ (clause : Text) (gap : Blanks), before = keyword ++ (clause ++ ("from" ++ gap.1))

/-- What stands around the literal of an import form, from its keyword on. -/
def Surrounds (before after : Text) : ImportKind → Prop
  | .staticImport => EndsInFrom "import" before ∨ ∃ gap : Blanks, before = "import" ++ gap.1
  | .exportFrom => EndsInFrom "export" before
  | .dynamicImport => IsCall "import" before after
  | .requireCall => IsCall "require" before after

theorem FormText.surrounds {kind : ImportKind} {before after : Text} (h : FormText kind before after) :
    Surrounds before after kind := by
  cases h with
  | imported clause =>
    obtain ⟨front, gap, rfl⟩ := clause.exists_from
    exact .inl ⟨front, gap, rfl⟩
  | exported clause =>
    obtain ⟨front, gap, rfl⟩ := clause.exists_from
    exact ⟨front, gap, rfl⟩
  | bare gap => exact .inr ⟨gap, rfl⟩
  | dynamic gap inner behind closes => exact ⟨gap, inner, behind, _, closes, rfl, rfl⟩
  | required gap inner behind closes => exact ⟨gap, inner, behind, _, closes, rfl, rfl⟩

/-- The literal of a specifier, with its quotes. -/
def Specifier.literal (x : Specifier) : Text := x.quote :: (x.value ++ [x.quote])

/-- A specifier stands in a source as the literal of an import form: `before` is the form up to the
literal, from its keyword on, and `after` the rest of the form. -/
structure StandsIn (source : Text) (kind : ImportKind) (x : Specifier) (lead before after rest : Text) :
    Prop where
  split : source = lead ++ (before ++ (x.literal ++ (after ++ rest)))
  start : x.start = (lead ++ before).length
  stop : x.stop = (lead ++ before ++ x.literal).length
  quotes : x.quote = '\'' ∨ x.quote = '"'
  /-- Read as single characters and backslashes with the character they take along, the value has no
  quote of its kind and no line break. -/
  quoted : QuotedBody (· != '\n') x.quote x.value
  /-- The keyword is behind no name character and no member access. -/
  apart : ∀ c, lead.getLast? = some c → isWordChar c = false ∧ c ≠ '$' ∧ c ≠ '.'
  /-- The match that begins at the keyword is this form. -/
  matched : readToken lead.getLast? (before ++ (x.literal ++ (after ++ rest)))
    = some (.form kind before x.literal after)
  surrounds : Surrounds before after kind

theorem apart_of_atKeyword {previous : Option Char} (h : atKeyword previous = true) {c : Char}
    (hc : previous = some c) : isWordChar c = false ∧ c ≠ '$' ∧ c ≠ '.' := by
  subst hc
  simp only [atKeyword, Option.any_some, isNameChar, Bool.not_eq_true', Bool.or_eq_false_iff,
    decide_eq_false_iff_not] at h
  exact ⟨h.1.1, h.1.2, h.2⟩

/-- A reported specifier stands in the source as the literal of an import form. -/
theorem exists_standsIn_of_mem_specifiers {source : Text} {kind : ImportKind} {x : Specifier}
    (h : (kind, x) ∈ specifiers source) :
    ∃ lead before after rest, StandsIn source kind x lead before after rest := by
  obtain ⟨lead, _, before, l, after, rest, hsplit, heq, hkeyword, hform⟩ :=
    exists_form_of_mem_specifiers h
  obtain ⟨rfl, rfl⟩ := Prod.mk.inj heq
  rw [lastOf, Option.or_none] at hkeyword
  refine ⟨lead, before, after, rest, hsplit, rfl, ?_, ?_, l.quoted,
    fun c hc => apart_of_atKeyword hkeyword hc, ?_, hform.surrounds⟩
  · simp [StringLiteral.behind, Specifier.literal]
    omega
  · have hquote := l.quotes
    simp only [isQuote, Bool.or_eq_true, decide_eq_true_eq] at hquote
    exact hquote.symm
  · refine readToken_eq_some_iff.2 ⟨rest, .form hkeyword hform l rest, ?_⟩
    simp [Token.lexeme, Specifier.literal, StringLiteral.behind]

/-- The specifiers of a source stand one behind the other; each is a whole string literal, with its two
quotes and nothing that ends it before, and stands in the import form of its kind, whose keyword is behind
no name character and no member access. -/
theorem specifiers_sound (source : Text) :
    (specifiers source).Pairwise (fun a b => a.2.start < b.2.start ∧ a.2.stop ≤ b.2.start)
      ∧ ∀ kind x, (kind, x) ∈ specifiers source →
        x.start + 2 ≤ x.stop ∧ x.stop ≤ source.length
          ∧ ∃ lead before after rest, StandsIn source kind x lead before after rest := by
  have hplaces : ∀ kind x, (kind, x) ∈ specifiers source →
      x.start + 2 ≤ x.stop ∧ x.stop ≤ source.length := by
    intro kind x hx
    obtain ⟨lead, before, after, rest, hstands⟩ := exists_standsIn_of_mem_specifiers hx
    rw [hstands.start, hstands.stop, hstands.split]
    simp only [Specifier.literal, List.length_append, List.length_cons]
    omega
  refine ⟨?_, fun kind x hx => ?_⟩
  · refine (stop_le_start_of_specifiers source).imp_of_mem fun {a b} ha _ hab => ⟨?_, hab⟩
    have hquotes := (hplaces a.1 a.2 ha).1
    omega
  · obtain ⟨hquotes, hend⟩ := hplaces kind x hx
    exact ⟨hquotes, hend, exists_standsIn_of_mem_specifiers hx⟩

/-- A comment, a template, a list and a string that are never closed, and two import forms between
them. -/
def unclosedSource : Text := "/* `import {x}from './a'; f(require ( \"c\\\"\" , ['"

/-- The specifier of the call, with an escaped quote in its value. -/
def escapedSpecifier : Specifier where
  value := "c\\\""
  start := 38
  stop := 43
  column := 39

/-- The literal of the call is reported whole, and the comma behind it belongs to its form. -/
theorem specifiers_sound_unclosed :
    (.requireCall, escapedSpecifier) ∈ specifiers unclosedSource
      ∧ ∃ lead before after rest,
        StandsIn unclosedSource .requireCall escapedSpecifier lead before after rest := by
  have hfound : (.requireCall, escapedSpecifier) ∈ specifiers unclosedSource := by decide +kernel
  exact ⟨hfound, ((specifiers_sound unclosedSource).2 _ _ hfound).2.2⟩

end SpecifierLint.Source
