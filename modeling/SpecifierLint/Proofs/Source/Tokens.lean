/-
Which texts are tokens.

A token is read at a position exactly if the text there starts with one: the alternatives exclude each
other, so the order in which they are tried decides nothing.  What stands behind a token matters only for
a line comment, which goes on to the end of its line, and for the flags of a regular expression.  Main
statements:

* **`readForm_eq_some_iff`** — an import form is read exactly if one stands there;
* **`readToken_eq_some_iff`** — so is a token.
-/
import SpecifierLint.Source.Token
import SpecifierLint.Proofs.Source.Clauses

namespace SpecifierLint.Source

/-! ### Import forms -/

/-- What stands before and behind the literal of an import form. -/
inductive FormText : ImportKind → Text → Text → Prop
  | imported {w : Text} (clause : ClauseText w) : FormText .staticImport ("import" ++ w) []
  | exported {w : Text} (clause : ClauseText w) : FormText .exportFrom ("export" ++ w) []
  | bare (gap : Blanks) : FormText .staticImport ("import" ++ gap.1) []
  | dynamic (gap inner behind : Blanks) {close : Char} (closes : close = ',' ∨ close = ')') :
      FormText .dynamicImport ("import" ++ (gap.1 ++ '(' :: inner.1)) (behind.1 ++ [close])
  | required (gap inner behind : Blanks) {close : Char} (closes : close = ',' ∨ close = ')') :
      FormText .requireCall ("require" ++ (gap.1 ++ '(' :: inner.1)) (behind.1 ++ [close])

theorem stopsAt_literal {p : Char → Bool} (hp : ∀ q, isQuote q = true → p q = false)
    (l : StringLiteral) (rest : Text) : StopsAt p (l.text ++ rest) := by
  rw [StringLiteral.text, List.cons_append, stopsAt_cons]
  exact hp _ l.quotes

theorem isClauseChar_of_isQuote {q : Char} (h : isQuote q = true) : isClauseChar q = false := by
  simp only [isQuote, Bool.or_eq_true, decide_eq_true_eq] at h
  rcases h with rfl | rfl
  · decide +kernel
  · decide +kernel

theorem isBlank_of_isQuote {q : Char} (h : isQuote q = true) : Text.isBlank q = false := by
  simp only [isQuote, Bool.or_eq_true, decide_eq_true_eq] at h
  rcases h with rfl | rfl
  · decide
  · decide

theorem readFromForm_eq_some_iff {keyword t : Text} {kind : ImportKind} {token : Token} :
    readFromForm keyword kind t = some token ↔
      ∃ w l rest, ClauseText w ∧ token = .form kind (keyword ++ w) (StringLiteral.text l) []
        ∧ t = keyword ++ w ++ (l.text ++ rest) := by
  simp only [readFromForm, Option.bind_eq_bind, Option.bind_eq_some_iff, Text.dropStart?_eq_some_iff,
    clauseLength?_eq_some_iff, Option.some.injEq]
  constructor
  · rintro ⟨afterKeyword, rfl, n, ⟨w, behind, rfl, rfl, hclause, _⟩, ⟨literal, rest⟩, hliteral, rfl⟩
    rw [List.drop_left] at hliteral
    obtain ⟨l, rfl, rfl⟩ := readString_eq_some_iff.1 hliteral
    exact ⟨w, l, rest, hclause, by rw [List.take_left], by rw [List.append_assoc]⟩
  · rintro ⟨w, l, rest, hclause, rfl, rfl⟩
    refine ⟨w ++ (l.text ++ rest), by rw [List.append_assoc], w.length,
      ⟨w, _, rfl, rfl, hclause, stopsAt_literal (fun _ => isClauseChar_of_isQuote) l rest⟩,
      (l.text, rest), ?_, by rw [List.take_left]⟩
    rw [List.drop_left]
    exact readString_eq_some_iff.2 ⟨l, rfl, rfl⟩

theorem readBareForm_eq_some_iff {t : Text} {token : Token} :
    readBareForm t = some token ↔
      ∃ (gap : Blanks) (l : StringLiteral) (rest : Text),
        token = .form .staticImport ("import" ++ gap.1) l.text []
          ∧ t = "import" ++ gap.1 ++ (l.text ++ rest) := by
  simp only [readBareForm, Option.bind_eq_bind, Option.bind_eq_some_iff, Text.dropStart?_eq_some_iff,
    Option.some.injEq]
  constructor
  · rintro ⟨afterKeyword, rfl, ⟨literal, rest⟩, hliteral, rfl⟩
    obtain ⟨l, rfl, hskip⟩ := readString_eq_some_iff.1 hliteral
    obtain ⟨gap, hgap, _, hfront⟩ := exists_blanks afterKeyword
    refine ⟨gap, l, rest, by rw [hfront], ?_⟩
    rw [List.append_assoc, ← hskip, ← hgap]
  · rintro ⟨gap, l, rest, rfl, rfl⟩
    have hstop := stopsAt_literal (fun _ => isBlank_of_isQuote) l rest
    refine ⟨gap.1 ++ (l.text ++ rest), by rw [List.append_assoc], (l.text, rest), ?_, ?_⟩
    · rw [skipBlanks_append gap hstop]
      exact readString_eq_some_iff.2 ⟨l, rfl, rfl⟩
    · rw [takeWhile_blanks gap hstop]

theorem readCallForm_eq_some_iff {keyword t : Text} {kind : ImportKind} {token : Token} :
    readCallForm keyword kind t = some token ↔
      ∃ (gap inner behind : Blanks) (close : Char) (l : StringLiteral) (rest : Text),
        (close = ',' ∨ close = ')')
          ∧ token = .form kind (keyword ++ (gap.1 ++ '(' :: inner.1)) l.text (behind.1 ++ [close])
          ∧ t = keyword ++ (gap.1 ++ '(' :: inner.1) ++ (l.text ++ (behind.1 ++ close :: rest)) := by
  have hopen : (("(" : String) : Text) = ['('] := by decide
  simp only [readCallForm, Option.bind_eq_bind, Option.bind_eq_some_iff, Text.dropStart?_eq_some_iff,
    hopen]
  constructor
  · rintro ⟨afterKeyword, rfl, afterParen, hparen, ⟨literal, afterLiteral⟩, hliteral, h⟩
    obtain ⟨l, rfl, hskip⟩ := readString_eq_some_iff.1 hliteral
    obtain ⟨gap, hgap, _, hfront⟩ := exists_blanks afterKeyword
    obtain ⟨inner, hinner, _, hinside⟩ := exists_blanks afterParen
    obtain ⟨behind, hbehind, _, hafter⟩ := exists_blanks afterLiteral
    dsimp only at h
    split at h
    · next close rest hclose =>
      split at h
      · next hcloses =>
        cases h
        refine ⟨gap, inner, behind, close, l, rest, by simpa using hcloses, ?_, ?_⟩
        · rw [hfront, hinside, hafter]
          simp
        · rw [hclose] at hbehind
          rw [hparen] at hgap
          rw [hskip] at hinner
          rw [← hbehind, List.append_assoc, List.append_assoc, List.cons_append, ← hinner]
          exact congrArg _ hgap
      · simp at h
    · simp at h
  · -- each run of blanks is read to its end, for what follows it is no blank
    rintro ⟨gap, inner, behind, close, l, rest, hcloses, rfl, rfl⟩
    have hparen : StopsAt Text.isBlank ('(' :: (inner.1 ++ (l.text ++ (behind.1 ++ close :: rest)))) :=
      stopsAt_cons.2 (by decide)
    have hliteral := stopsAt_literal (fun _ => isBlank_of_isQuote) l (behind.1 ++ close :: rest)
    have hclose : StopsAt Text.isBlank (close :: rest) := by
      rcases hcloses with rfl | rfl
      · exact stopsAt_cons.2 (by decide)
      · exact stopsAt_cons.2 (by decide)
    refine ⟨gap.1 ++ '(' :: (inner.1 ++ (l.text ++ (behind.1 ++ close :: rest))), by simp,
      inner.1 ++ (l.text ++ (behind.1 ++ close :: rest)), ?_,
      (l.text, behind.1 ++ close :: rest), ?_, ?_⟩
    · rw [skipBlanks_append gap hparen]
      rfl
    · rw [skipBlanks_append inner hliteral]
      exact readString_eq_some_iff.2 ⟨l, rfl, rfl⟩
    · simp [skipBlanks_append behind hclose, takeWhile_blanks gap hparen,
        takeWhile_blanks inner hliteral, takeWhile_blanks behind hclose, hcloses]

theorem readFromForm_eq_none_of_dropStart? {keyword t : Text} {kind : ImportKind}
    (h : Text.dropStart? keyword t = none) : readFromForm keyword kind t = none := by
  rw [readFromForm, h]
  rfl

theorem readBareForm_eq_none_of_dropStart? {t : Text} (h : Text.dropStart? "import" t = none) :
    readBareForm t = none := by
  rw [readBareForm, h]
  rfl

theorem readCallForm_eq_none_of_dropStart? {keyword t : Text} {kind : ImportKind}
    (h : Text.dropStart? keyword t = none) : readCallForm keyword kind t = none := by
  rw [readCallForm, h]
  rfl

/-- Without an item behind the keyword there is no clause. -/
theorem readFromForm_eq_none_of_stopsAt {keyword rest : Text} {kind : ImportKind} (gap : Blanks)
    (h : StopsAt isClauseChar rest) : readFromForm keyword kind (keyword ++ (gap.1 ++ rest)) = none := by
  have hgap : Spells [] gap.1 := by
    rw [← List.append_nil gap.1]
    exact Spells.nil.blanks gap
  rw [readFromForm, Text.dropStart?_eq_some_iff.2 rfl, Option.bind_eq_bind, Option.bind_some,
    clauseLength?, readItems_append hgap h]
  rfl

theorem readBareForm_eq_none_of_paren (gap : Blanks) (rest : Text) :
    readBareForm ("import" ++ (gap.1 ++ '(' :: rest)) = none := by
  rw [readBareForm, Text.dropStart?_eq_some_iff.2 rfl, Option.bind_eq_bind, Option.bind_some,
    skipBlanks_append gap (stopsAt_cons.2 (by decide))]
  rfl

theorem exists_formText_of_readForm {t : Text} {token : Token} (h : readForm t = some token) :
    ∃ kind before after l rest, FormText kind before after
      ∧ token = .form kind before (StringLiteral.text l) after
      ∧ t = before ++ (l.text ++ (after ++ rest)) := by
  simp only [readForm, Option.orElse_eq_orElse, Option.orElse_eq_or, Option.or_eq_some_iff] at h
  rcases h with h | ⟨_, h | ⟨_, h | ⟨_, h | ⟨_, h⟩⟩⟩⟩
  · obtain ⟨w, l, rest, hclause, rfl, rfl⟩ := readFromForm_eq_some_iff.1 h
    exact ⟨_, _, _, l, rest, .imported hclause, rfl, rfl⟩
  · obtain ⟨w, l, rest, hclause, rfl, rfl⟩ := readFromForm_eq_some_iff.1 h
    exact ⟨_, _, _, l, rest, .exported hclause, rfl, rfl⟩
  · obtain ⟨gap, l, rest, rfl, rfl⟩ := readBareForm_eq_some_iff.1 h
    exact ⟨_, _, _, l, rest, .bare gap, rfl, rfl⟩
  · obtain ⟨gap, inner, behind, close, l, rest, hcloses, rfl, rfl⟩ := readCallForm_eq_some_iff.1 h
    exact ⟨_, _, _, l, rest, .dynamic gap inner behind hcloses, rfl, by simp⟩
  · obtain ⟨gap, inner, behind, close, l, rest, hcloses, rfl, rfl⟩ := readCallForm_eq_some_iff.1 h
    exact ⟨_, _, _, l, rest, .required gap inner behind hcloses, rfl, by simp⟩

theorem FormText.readForm_eq {kind : ImportKind} {before after : Text} (h : FormText kind before after)
    (l : StringLiteral) (rest : Text) :
    readForm (before ++ (l.text ++ (after ++ rest))) = some (.form kind before l.text after) := by
  simp only [readForm, Option.orElse_eq_orElse, Option.orElse_eq_or]
  -- the alternatives before the right one fail at the keyword, or right behind it
  cases h with
  | imported clause =>
    rw [List.nil_append, readFromForm_eq_some_iff.2 ⟨_, l, rest, clause, rfl, rfl⟩, Option.some_or]
  | exported clause =>
    rw [List.nil_append, readFromForm_eq_none_of_dropStart? rfl, Option.none_or,
      readFromForm_eq_some_iff.2 ⟨_, l, rest, clause, rfl, rfl⟩, Option.some_or]
  | bare gap =>
    have hstop := stopsAt_literal (fun _ => isClauseChar_of_isQuote) l rest
    have hbare := readBareForm_eq_some_iff.2 ⟨gap, l, rest, rfl, rfl⟩
    rw [List.append_assoc] at hbare
    rw [List.nil_append, List.append_assoc, readFromForm_eq_none_of_stopsAt gap hstop, Option.none_or,
      readFromForm_eq_none_of_dropStart? rfl, Option.none_or, hbare, Option.some_or]
  | @dynamic gap inner behind close closes =>
    have hstop : StopsAt isClauseChar ('(' :: (inner.1 ++ (l.text ++ (behind.1 ++ close :: rest)))) :=
      stopsAt_cons.2 (by decide +kernel)
    have hcall := (readCallForm_eq_some_iff : readCallForm "import" .dynamicImport _ = some _ ↔ _).2
      ⟨gap, inner, behind, close, l, rest, closes, rfl, rfl⟩
    simp only [List.append_assoc, List.cons_append, List.nil_append] at hcall ⊢
    rw [readFromForm_eq_none_of_stopsAt gap hstop, Option.none_or,
      readFromForm_eq_none_of_dropStart? rfl, Option.none_or, readBareForm_eq_none_of_paren,
      Option.none_or, hcall, Option.some_or]
  | @required gap inner behind close closes =>
    have hcall := (readCallForm_eq_some_iff : readCallForm "require" .requireCall _ = some _ ↔ _).2
      ⟨gap, inner, behind, close, l, rest, closes, rfl, rfl⟩
    simp only [List.append_assoc, List.cons_append, List.nil_append] at hcall ⊢
    rw [readFromForm_eq_none_of_dropStart? rfl, Option.none_or,
      readFromForm_eq_none_of_dropStart? rfl, Option.none_or,
      readBareForm_eq_none_of_dropStart? rfl, Option.none_or,
      readCallForm_eq_none_of_dropStart? rfl, Option.none_or, hcall]

/-- An import form is read exactly if one stands there. -/
theorem readForm_eq_some_iff {t : Text} {token : Token} :
    readForm t = some token ↔
      ∃ kind before after l rest, FormText kind before after
        ∧ token = .form kind before (StringLiteral.text l) after
        ∧ t = before ++ (l.text ++ (after ++ rest)) := by
  refine ⟨exists_formText_of_readForm, ?_⟩
  rintro ⟨kind, before, after, l, rest, hform, rfl, rfl⟩
  exact hform.readForm_eq l rest

/-- The words that import forms start with. -/
def keywords : List Text := ["import", "export", "require"]

theorem FormText.exists_keyword {kind : ImportKind} {before after : Text}
    (h : FormText kind before after) : ∃ keyword ∈ keywords, keyword <+: before := by
  cases h with
  | imported _ => exact ⟨"import", by simp [keywords], List.prefix_append _ _⟩
  | exported _ => exact ⟨"export", by simp [keywords], List.prefix_append _ _⟩
  | bare _ => exact ⟨"import", by simp [keywords], List.prefix_append _ _⟩
  | dynamic _ _ _ _ => exact ⟨"import", by simp [keywords], List.prefix_append _ _⟩
  | required _ _ _ _ => exact ⟨"require", by simp [keywords], List.prefix_append _ _⟩

theorem FormText.exists_cons {kind : ImportKind} {before after : Text}
    (h : FormText kind before after) :
    ∃ c rest, before = c :: rest ∧ (c = 'i' ∨ c = 'e' ∨ c = 'r') := by
  obtain ⟨keyword, hkeyword, rest, rfl⟩ := h.exists_keyword
  simp only [keywords, List.mem_cons, List.not_mem_nil, or_false] at hkeyword
  rcases hkeyword with rfl | rfl | rfl
  · exact ⟨'i', _, rfl, by simp⟩
  · exact ⟨'e', _, rfl, by simp⟩
  · exact ⟨'r', _, rfl, by simp⟩

/-! ### Tokens -/

/-- A token, behind a character and before a text. -/
inductive TokenText (previous : Option Char) : Token → Text → Prop
  | comment {lexeme rest : Text} (h : Comment lexeme rest) : TokenText previous (.passed lexeme) rest
  | regex (expression : previous.any startsExpression = true) (gap : Blanks) {literal rest : Text}
      (h : RegexLiteral literal rest) : TokenText previous (.passed (gap.1 ++ literal)) rest
  | form (keyword : atKeyword previous = true) {kind : ImportKind} {before after : Text}
      (h : FormText kind before after) (l : StringLiteral) (rest : Text) :
      TokenText previous (.form kind before l.text after) rest
  | string (l : StringLiteral) (rest : Text) : TokenText previous (.passed l.text) rest
  | template {body : Text} (h : TemplateBody body) (rest : Text) :
      TokenText previous (.passed ('\x60' :: (body ++ ['\x60']))) rest

theorem readComment_eq_none {c : Char} (h : c ≠ '/') (t : Text) : readComment (c :: t) = none := by
  rw [Option.eq_none_iff_forall_ne_some]
  rintro ⟨lexeme, rest⟩ hread
  obtain ⟨hcomment, heq⟩ := readComment_eq_some_iff.1 hread
  cases hcomment with
  | line _ _ => exact h (List.cons.inj heq).1
  | block _ _ => exact h (List.cons.inj heq).1

theorem readRegexLiteral_eq_none {c : Char} (h : c ≠ '/') (t : Text) :
    readRegexLiteral (c :: t) = none := by
  rw [Option.eq_none_iff_forall_ne_some]
  rintro ⟨lexeme, rest⟩ hread
  obtain ⟨hregex, heq⟩ := readRegexLiteral_eq_some_iff.1 hread
  cases hregex with
  | intro _ _ _ _ _ => exact h (List.cons.inj heq).1

theorem readRegex_eq_none {previous : Option Char} {t : Text}
    (h : readRegexLiteral (skipBlanks t) = none) : readRegex previous t = none := by
  rw [readRegex, h]
  split
  · rfl
  · rfl

theorem readRegexLiteral_skipBlanks {c : Char} {t : Text} (h : c ≠ '/')
    (hblank : Text.isBlank c = false) : readRegexLiteral (skipBlanks (c :: t)) = none := by
  rw [skipBlanks, List.dropWhile_cons, if_neg (by simp [hblank])]
  exact readRegexLiteral_eq_none h t

theorem readComment_eq_none_of_regexLiteral {literal rest : Text} (h : RegexLiteral literal rest) :
    readComment (literal ++ rest) = none := by
  obtain @⟨body, flags, rest, hne, hfirst, _, _, _⟩ := h
  obtain ⟨c, body, rfl⟩ := List.exists_cons_of_ne_nil hne
  rw [stopsAt_cons, Bool.or_eq_false_iff, decide_eq_false_iff_not, decide_eq_false_iff_not] at hfirst
  rw [Option.eq_none_iff_forall_ne_some]
  rintro ⟨lexeme, rest'⟩ hread
  obtain ⟨hcomment, heq⟩ := readComment_eq_some_iff.1 hread
  cases hcomment with
  | line _ _ => exact hfirst.1 (List.cons.inj (List.cons.inj heq).2).1
  | block _ _ => exact hfirst.2 (List.cons.inj (List.cons.inj heq).2).1

theorem ne_of_isQuote {q c : Char} (h : isQuote q = true) (hc : isQuote c = false) : q ≠ c := by
  rintro rfl
  rw [h] at hc
  exact absurd hc (by simp)

/-- Behind blanks and another character no regular expression starts. -/
theorem readRegexLiteral_skipBlanks_eq_none {u rest : Text} (hu : '/' ∉ u)
    (hrest : readRegexLiteral (skipBlanks rest) = none) :
    readRegexLiteral (skipBlanks (u ++ rest)) = none := by
  induction u with
  | nil => exact hrest
  | cons c u ih =>
    rw [List.mem_cons, not_or] at hu
    by_cases hblank : Text.isBlank c = true
    · rw [skipBlanks, List.cons_append, List.dropWhile_cons, if_pos hblank]
      exact ih hu.2
    · rw [skipBlanks, List.cons_append, List.dropWhile_cons, if_neg hblank]
      exact readRegexLiteral_eq_none (Ne.symm hu.1) _

theorem readForm_eq_none {c : Char} (h : ¬ (c = 'i' ∨ c = 'e' ∨ c = 'r')) (t : Text) :
    readForm (c :: t) = none := by
  rw [Option.eq_none_iff_forall_ne_some]
  intro token hread
  obtain ⟨kind, before, after, l, rest, hform, _, heq⟩ := readForm_eq_some_iff.1 hread
  obtain ⟨d, more, rfl, hd⟩ := hform.exists_cons
  rw [(List.cons.inj heq).1] at h
  exact h hd

/-- A regular expression starts no comment, with blanks before its slash or without them. -/
theorem readComment_eq_none_of_blanks {literal rest : Text} (gap : Blanks)
    (h : RegexLiteral literal rest) : readComment (gap.1 ++ literal ++ rest) = none := by
  obtain ⟨gap, hblanks⟩ := gap
  cases gap with
  | nil => exact readComment_eq_none_of_regexLiteral h
  | cons c gap =>
    refine readComment_eq_none ?_ _
    rintro rfl
    exact absurd (hblanks '/' (by simp)) (by decide)

theorem exists_tokenText_of_readToken {previous : Option Char} {t : Text} {token : Token}
    (h : readToken previous t = some token) :
    ∃ rest, TokenText previous token rest ∧ t = token.lexeme ++ rest := by
  simp only [readToken, Option.orElse_eq_orElse, Option.orElse_eq_or, Option.or_eq_some_iff] at h
  rcases h with h | ⟨_, h | ⟨_, h | ⟨_, h | ⟨_, h⟩⟩⟩⟩
  · obtain ⟨⟨lexeme, rest⟩, hread, rfl⟩ := Option.map_eq_some_iff.1 h
    obtain ⟨hcomment, ht⟩ := readComment_eq_some_iff.1 hread
    exact ⟨rest, .comment hcomment, ht⟩
  · obtain ⟨⟨lexeme, rest⟩, hread, rfl⟩ := Option.map_eq_some_iff.1 h
    obtain ⟨hprevious, gap, literal, rfl, hregex, ht⟩ := readRegex_eq_some_iff.1 hread
    exact ⟨rest, .regex hprevious gap hregex, ht⟩
  · split at h
    · next hkeyword =>
      obtain ⟨kind, before, after, l, rest, hform, rfl, rfl⟩ := readForm_eq_some_iff.1 h
      exact ⟨rest, .form hkeyword hform l rest, by simp [Token.lexeme]⟩
    · simp at h
  · obtain ⟨⟨lexeme, rest⟩, hread, rfl⟩ := Option.map_eq_some_iff.1 h
    obtain ⟨l, rfl, ht⟩ := readString_eq_some_iff.1 hread
    exact ⟨rest, .string l rest, ht⟩
  · obtain ⟨⟨lexeme, rest⟩, hread, rfl⟩ := Option.map_eq_some_iff.1 h
    obtain ⟨body, hbody, rfl, ht⟩ := readTemplate_eq_some_iff.1 hread
    exact ⟨rest, .template hbody rest, ht⟩

theorem TokenText.readToken_eq {previous : Option Char} {token : Token} {rest : Text}
    (h : TokenText previous token rest) : readToken previous (token.lexeme ++ rest) = some token := by
  simp only [readToken, Option.orElse_eq_orElse, Option.orElse_eq_or]
  -- the first character of a token rules the alternatives before it out
  cases h with
  | comment h =>
    rw [Token.lexeme, readComment_eq_some_iff.2 ⟨h, rfl⟩]
    rfl
  | @regex expression gap literal rest h =>
    rw [Token.lexeme, readComment_eq_none_of_blanks gap h,
      readRegex_eq_some_iff.2 ⟨expression, gap, literal, rfl, h, rfl⟩]
    rfl
  | @form keyword kind before after h l rest =>
    have hread := readForm_eq_some_iff.2 ⟨kind, before, after, l, rest, h, rfl, rfl⟩
    obtain ⟨c, more, rfl, hc⟩ := h.exists_cons
    have hslash : c ≠ '/' := by rcases hc with rfl | rfl | rfl <;> decide
    have hblank : Text.isBlank c = false := by rcases hc with rfl | rfl | rfl <;> decide
    simp only [Token.lexeme, List.append_assoc, List.cons_append] at hread ⊢
    rw [readComment_eq_none hslash, readRegex_eq_none (readRegexLiteral_skipBlanks hslash hblank),
      if_pos keyword, hread]
    rfl
  | string l rest =>
    have hread : readString (l.text ++ rest) = some (l.text, rest) :=
      readString_eq_some_iff.2 ⟨l, rfl, rfl⟩
    have hslash : l.quote ≠ '/' := ne_of_isQuote l.quotes (by decide)
    have hform : ¬ (l.quote = 'i' ∨ l.quote = 'e' ∨ l.quote = 'r') := by
      rintro (h | h | h)
      · exact ne_of_isQuote l.quotes (by decide) h
      · exact ne_of_isQuote l.quotes (by decide) h
      · exact ne_of_isQuote l.quotes (by decide) h
    rw [Token.lexeme, hread, StringLiteral.text, List.cons_append, readComment_eq_none hslash,
      readRegex_eq_none (readRegexLiteral_skipBlanks hslash (isBlank_of_isQuote l.quotes)),
      readForm_eq_none hform]
    simp
  | @template body h rest =>
    have hread : readTemplate ('\x60' :: (body ++ ['\x60']) ++ rest) = some (_, rest) :=
      readTemplate_eq_some_iff.2 ⟨body, h, rfl, rfl⟩
    rw [Token.lexeme, hread, List.cons_append, readComment_eq_none (by decide),
      readRegex_eq_none (readRegexLiteral_skipBlanks (by decide) (by decide)), readForm_eq_none (by decide)]
    simp [readString, isQuote]

/-- A token is read exactly if one stands there. -/
theorem readToken_eq_some_iff {previous : Option Char} {t : Text} {token : Token} :
    readToken previous t = some token ↔
      ∃ rest, TokenText previous token rest ∧ t = token.lexeme ++ rest := by
  refine ⟨exists_tokenText_of_readToken, ?_⟩
  rintro ⟨rest, htoken, rfl⟩
  exact htoken.readToken_eq

/-- No token starts at a character that starts no lexeme, unless a regular expression or an import form
starts there, and no import form does behind a name or a point. -/
theorem readToken_eq_none_of_atKeyword {previous : Option Char} {c : Char} {t : Text}
    (hc : c ∉ ['/', '"', '\'', '\x60']) (hregex : readRegexLiteral (skipBlanks (c :: t)) = none)
    (hform : atKeyword previous = true → readForm (c :: t) = none) :
    readToken previous (c :: t) = none := by
  simp only [List.mem_cons, List.not_mem_nil, or_false, not_or] at hc
  obtain ⟨hslash, hdouble, hsingle, hbacktick⟩ := hc
  have hstring : readString (c :: t) = none := by
    rw [readString, if_neg (by simp [isQuote, hdouble, hsingle])]
  have htemplate : readTemplate (c :: t) = none := by
    unfold readTemplate
    split
    · next heq => exact absurd (List.cons.inj heq).1 hbacktick
    · rfl
  have hkeyword : (if atKeyword previous then readForm (c :: t) else none) = none := by
    split
    · next hstarts => exact hform hstarts
    · rfl
  rw [readToken, readComment_eq_none hslash, readRegex_eq_none hregex, hkeyword, hstring, htemplate]
  rfl

/-- No token starts at a character that starts no lexeme, unless a regular expression or an import form
starts there. -/
theorem readToken_eq_none {previous : Option Char} {c : Char} {t : Text}
    (hc : c ∉ ['/', '"', '\'', '\x60']) (hregex : readRegexLiteral (skipBlanks (c :: t)) = none)
    (hform : readForm (c :: t) = none) : readToken previous (c :: t) = none :=
  readToken_eq_none_of_atKeyword hc hregex fun _ => hform

end SpecifierLint.Source
