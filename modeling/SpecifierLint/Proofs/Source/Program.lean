/-
Programs that the scan reads exactly.

A program is a row of items on lines of their own: comments, literals, plain code, and import forms.  The
scan reports one specifier for each import form, in order, with its kind and its place, and takes nothing
in a comment, a literal or plain code for an import.  Main statement:

* **`specifiers_program`** — the scan of a program reports the specifiers of its import forms.
-/
import SpecifierLint.Proofs.Source.Steps

namespace SpecifierLint.Source

/-! ### Import forms of the grammar -/

/-- What stands between the keyword of an import and its `from`. -/
inductive Clause : List ClauseItem → Prop
  | default (name : Text) : Clause [.name name]
  | named (list : Text) : Clause [.braces list]
  | star : Clause [.star]
  | starAs (name : Text) : Clause [.star, .name "as", .name name]
  | defaultNamed (name list : Text) : Clause [.name name, .comma, .braces list]
  | defaultStarAs (name other : Text) : Clause [.name name, .comma, .star, .name "as", .name other]

/-- An import form, as the text before its literal and the text behind it. -/
inductive ImportForm : ImportKind → Text → Text → Prop
  | imported {items : List ClauseItem} {w : Text} (clause : Clause items)
      (spelled : Spells (items ++ [.name "from"]) w) : ImportForm .staticImport ("import" ++ w) []
  | importedType {items : List ClauseItem} {c : Char} {w : Text} (clause : Clause items)
      (isBlank : Text.isBlank c = true) (spelled : Spells (.name "type" :: items ++ [.name "from"]) w) :
      ImportForm .staticImport ("import" ++ c :: w) []
  | exported {items : List ClauseItem} {w : Text} (clause : Clause items)
      (spelled : Spells (items ++ [.name "from"]) w) : ImportForm .exportFrom ("export" ++ w) []
  | exportedType {items : List ClauseItem} {c : Char} {w : Text} (clause : Clause items)
      (isBlank : Text.isBlank c = true) (spelled : Spells (.name "type" :: items ++ [.name "from"]) w) :
      ImportForm .exportFrom ("export" ++ c :: w) []
  | bare (gap : Blanks) : ImportForm .staticImport ("import" ++ gap.1) []
  | dynamic (gap inner behind : Blanks) :
      ImportForm .dynamicImport ("import" ++ (gap.1 ++ '(' :: inner.1)) (behind.1 ++ [')'])
  | required (gap inner behind : Blanks) :
      ImportForm .requireCall ("require" ++ (gap.1 ++ '(' :: inner.1)) (behind.1 ++ [')'])

theorem Clause.isBody {items : List ClauseItem} (h : Clause items) :
    ClauseItem.isBody items = true := by
  cases h <;> rfl

theorem Clause.clauseText {items : List ClauseItem} {w : Text} (h : Clause items)
    (spelled : Spells (items ++ [.name "from"]) w) : ClauseText w := by
  refine ⟨_, items, spelled, beforeLastFrom?_append items, ?_⟩
  simp only [ClauseItem.isClause, h.isBody, Bool.true_or]

theorem Clause.clauseText_type {items : List ClauseItem} {c : Char} {w : Text} (h : Clause items)
    (isBlank : Text.isBlank c = true) (spelled : Spells (.name "type" :: items ++ [.name "from"]) w) :
    ClauseText (c :: w) := by
  refine ⟨_, _, .blank isBlank spelled, beforeLastFrom?_append (.name "type" :: items), ?_⟩
  rw [ClauseItem.isClause, List.head?_cons, Option.any_some, isBlank, h.isBody]
  simp

theorem ImportForm.formText {kind : ImportKind} {before after : Text}
    (h : ImportForm kind before after) : FormText kind before after := by
  cases h with
  | imported clause spelled => exact .imported (clause.clauseText spelled)
  | importedType clause isBlank spelled => exact .imported (clause.clauseText_type isBlank spelled)
  | exported clause spelled => exact .exported (clause.clauseText spelled)
  | exportedType clause isBlank spelled => exact .exported (clause.clauseText_type isBlank spelled)
  | bare gap => exact .bare gap
  | dynamic gap inner behind => exact .dynamic gap inner behind (.inr rfl)
  | required gap inner behind => exact .required gap inner behind (.inr rfl)

/-! ### Programs -/

/-- Code without a quote, a backtick, a slash or a word that starts an import form. -/
structure PlainCode (t : Text) : Prop where
  usual : ∀ c ∈ t, c ∉ ['/', '"', '\'', '\x60']
  noKeyword : ∀ keyword ∈ keywords, ¬ keyword <:+: t

/-- An item of a program. -/
inductive Item where
  | blockComment (body : Text) (inside : BlockBody body)
  | string (literal : StringLiteral)
  | template (body : Text) (inside : TemplateBody body)
  | regex (gap : Blanks) (body flags : Text) (nonempty : body ≠ [])
      (noComment : StopsAt (fun c => c = '/' || c = '*') body) (inside : RegexBody false body)
      (letters : ∀ c ∈ flags, c.isAlpha = true)
  | code (t : Text) (plain : PlainCode t)
  | form (kind : ImportKind) (before : Text) (literal : StringLiteral) (after : Text)
      (isForm : ImportForm kind before after)

/-- The text of an item. -/
def Item.text : Item → Text
  | .blockComment body _ => '/' :: '*' :: (body ++ ['*', '/'])
  | .string literal => literal.text
  | .template body _ => '\x60' :: (body ++ ['\x60'])
  | .regex gap body flags _ _ _ _ => '=' :: (gap.1 ++ '/' :: (body ++ '/' :: flags))
  | .code t _ => t
  | .form _ before literal after _ => before ++ (literal.text ++ after)

/-- A line of a program: a line comment, or an item with or without a semicolon.  An item may hold line
breaks of its own. -/
inductive Line where
  | comment (body : Text) (inside : ∀ c ∈ body, withinLine c = true)
  | holds (item : Item) (semicolon : Bool)

/-- What stands behind the item of a line. -/
def ending (semicolon : Bool) : Text := if semicolon then ";\n" else "\n"

/-- The text of a line. -/
def Line.text : Line → Text
  | .comment body _ => '/' :: '/' :: (body ++ ['\n'])
  | .holds item semicolon => item.text ++ ending semicolon

/-- The text of a program. -/
def programText (lines : List Line) : Text := lines.flatMap Line.text

/-- The specifier of a line that stands behind a text. -/
def Line.specifier? (front : Text) : Line → Option (ImportKind × Specifier)
  | .holds (.form kind before literal _ _) _ => some (kind, literal.behind (front ++ before))
  | _ => none

/-- The specifiers of lines that stand behind a text. -/
def programSpecifiers (front : Text) : List Line → List (ImportKind × Specifier)
  | [] => []
  | line :: lines => (line.specifier? front).toList ++ programSpecifiers (front ++ line.text) lines

/-! ### Plain code -/

theorem PlainCode.tail {c : Char} {t : Text} (h : PlainCode (c :: t)) : PlainCode t where
  usual x hx := h.usual x (List.mem_cons_of_mem _ hx)
  noKeyword keyword hkeyword hin := h.noKeyword keyword hkeyword (hin.trans (List.suffix_cons c t).isInfix)

theorem not_mem_keyword {keyword : Text} (h : keyword ∈ keywords) :
    '\n' ∉ keyword ∧ ';' ∉ keyword := by
  simp only [keywords, List.mem_cons, List.not_mem_nil, or_false] at h
  rcases h with rfl | rfl | rfl <;> decide

/-- A text that a character ends holds a word without that character before its end or not at all. -/
theorem infix_of_infix_append {word t : Text} {c : Char} (hc : c ∉ word) (h : word <:+: t ++ [c]) :
    word <:+: t := by
  obtain ⟨front, behind, heq⟩ := h
  rcases List.eq_nil_or_concat behind with rfl | ⟨behind, d, rfl⟩
  · -- the word would end with the character
    rw [List.append_nil] at heq
    rcases List.eq_nil_or_concat word with rfl | ⟨word, d, rfl⟩
    · exact List.nil_infix
    · rw [List.concat_eq_append, ← List.append_assoc] at heq
      have hd := (List.append_inj' heq rfl).2
      rw [List.cons.injEq] at hd
      rw [hd.1] at hc
      simp at hc
  · rw [List.concat_eq_append, ← List.append_assoc] at heq
    exact ⟨front, behind, (List.append_inj' heq rfl).1⟩

theorem PlainCode.snoc {t : Text} {c : Char} (h : PlainCode t) (hc : c = '\n' ∨ c = ';') :
    PlainCode (t ++ [c]) where
  usual x hx := by
    rcases List.mem_append.1 hx with hx | hx
    · exact h.usual x hx
    · rw [List.mem_singleton.1 hx]
      rcases hc with rfl | rfl <;> decide
  noKeyword keyword hkeyword hin := by
    refine h.noKeyword keyword hkeyword (infix_of_infix_append ?_ hin)
    rcases hc with rfl | rfl
    · exact (not_mem_keyword hkeyword).1
    · exact (not_mem_keyword hkeyword).2

theorem PlainCode.append_ending {t : Text} (h : PlainCode t) (semicolon : Bool) :
    ∃ u, t ++ ending semicolon = u ++ ['\n'] ∧ PlainCode (u ++ ['\n']) := by
  cases semicolon with
  | true =>
    refine ⟨t ++ [';'], ?_, (h.snoc (.inr rfl)).snoc (.inl rfl)⟩
    rw [List.append_assoc]
    rfl
  | false => exact ⟨t, rfl, h.snoc (.inl rfl)⟩

theorem plainCode_nil : PlainCode [] where
  usual x hx := absurd hx (by simp)
  noKeyword keyword hkeyword hin := by
    rw [List.infix_nil] at hin
    subst hin
    exact absurd hkeyword (by decide)

/-- In plain code no import form starts: its keyword would have to be there, and cannot go on over the
end of the line. -/
theorem readForm_plain {t : Text} (h : PlainCode (t ++ ['\n'])) (rest : Text) :
    readForm (t ++ '\n' :: rest) = none := by
  rw [Option.eq_none_iff_forall_ne_some]
  intro token hread
  obtain ⟨kind, before, after, l, behind, hform, _, heq⟩ := readForm_eq_some_iff.1 hread
  obtain ⟨keyword, hkeyword, hbefore⟩ := hform.exists_keyword
  have hfront : keyword <+: (t ++ ['\n']) ++ rest := by
    rw [List.append_assoc, List.singleton_append, heq]
    exact hbefore.trans (List.prefix_append _ _)
  -- either the keyword ends within the line, or it goes on behind the line break
  rcases List.prefix_or_prefix_of_prefix hfront (List.prefix_append _ _) with hin | hover
  · exact h.noKeyword keyword hkeyword hin.isInfix
  · exact (not_mem_keyword hkeyword).1 (hover.subset (by simp))

/-- Plain code is scanned character by character, if no regular expression starts behind it. -/
theorem scanned_plain {t : Text} {steps : List Step} (h : PlainCode (t ++ ['\n']))
    (hregex : readRegexLiteral (skipBlanks (textOf steps)) = none) (more : Scanned (some '\n') steps)
    (previous : Option Char) : Scanned previous ((t ++ ['\n']).map .char ++ steps) := by
  have hbehind (u : Text) : textOf (u.map .char ++ steps) = u ++ textOf steps := by
    rw [textOf_append, textOf_map_char]
  have hslash {u : Text} (hu : PlainCode u) : '/' ∉ u := fun hin => hu.usual '/' hin (by simp)
  -- every rest of plain code is plain code again, so each character is a step of its own
  induction t generalizing previous with
  | nil =>
    refine .cons ?_ more
    refine readToken_eq_none (by decide) ?_ (readForm_plain h _)
    exact readRegexLiteral_skipBlanks_eq_none (hslash h) hregex
  | cons c t ih =>
    refine .cons ?_ (ih h.tail _)
    show readToken previous (c :: textOf ((t ++ ['\n']).map .char ++ steps)) = none
    rw [hbehind]
    refine readToken_eq_none (h.usual c (by simp)) ?_ ?_
    · exact readRegexLiteral_skipBlanks_eq_none (hslash h) hregex
    · rw [List.append_assoc]
      exact readForm_plain h _

/-! ### The steps of a program -/

/-- The steps over an item. -/
def Item.steps : Item → List Step
  | .regex gap body flags _ _ _ _ => [.char '=', .passed (gap.1 ++ '/' :: (body ++ '/' :: flags))]
  | .code t _ => t.map .char
  | .form kind before literal after _ => [.form kind before literal after]
  | item => [.passed item.text]

/-- The steps over a line. -/
def Line.steps : Line → List Step
  | .comment body _ => [.passed ('/' :: '/' :: body), .char '\n']
  | .holds item semicolon => item.steps ++ (ending semicolon).map .char

/-- The steps over a program. -/
def programSteps (lines : List Line) : List Step := lines.flatMap Line.steps

theorem Item.textOf_steps (item : Item) : textOf item.steps = item.text := by
  cases item with
  | code t _ => exact textOf_map_char t
  | _ => simp [Item.steps, Item.text, Step.text]

theorem Line.textOf_steps (line : Line) : textOf line.steps = line.text := by
  cases line with
  | comment body _ => simp [Line.steps, Line.text, Step.text]
  | holds item semicolon =>
    rw [Line.steps, Line.text, textOf_append, item.textOf_steps, textOf_map_char]

theorem textOf_programSteps (lines : List Line) : textOf (programSteps lines) = programText lines := by
  induction lines with
  | nil => rfl
  | cons line lines ih =>
    rw [programSteps, programText, List.flatMap_cons, List.flatMap_cons, textOf_append,
      line.textOf_steps]
    exact congrArg _ ih

theorem found_append (front : Text) (steps others : List Step) :
    found front (steps ++ others) = found front steps ++ found (front ++ textOf steps) others := by
  induction steps generalizing front with
  | nil => simp [found]
  | cons s steps ih =>
    rw [List.cons_append, found, found, ih, textOf_cons, List.append_assoc, List.append_assoc]

theorem found_map_char (front t : Text) : found front (t.map .char) = [] := by
  induction t generalizing front with
  | nil => rfl
  | cons c t ih =>
    rw [List.map_cons, found, ih]
    rfl

theorem Line.found_steps (line : Line) (front : Text) :
    found front line.steps = (line.specifier? front).toList := by
  cases line with
  | comment body _ => rfl
  | holds item semicolon =>
    rw [Line.steps, found_append, found_map_char, List.append_nil]
    cases item with
    | code t _ => exact found_map_char front t
    | _ => rfl

theorem found_programSteps (front : Text) (lines : List Line) :
    found front (programSteps lines) = programSpecifiers front lines := by
  induction lines generalizing front with
  | nil => rfl
  | cons line lines ih =>
    rw [programSteps, List.flatMap_cons, found_append, line.found_steps, line.textOf_steps,
      programSpecifiers]
    exact congrArg _ (ih _)

/-- A program, whatever its first line, does not start with a regular expression. -/
theorem readRegexLiteral_programText (lines : List Line) :
    readRegexLiteral (skipBlanks (programText lines)) = none := by
  induction lines with
  | nil => rfl
  | cons line lines ih =>
    rw [programText, List.flatMap_cons]
    cases line with
    | comment body _ => rfl
    | holds item semicolon =>
      rw [Line.text]
      cases item with
      | blockComment body _ => rfl
      | string literal =>
        exact readRegexLiteral_skipBlanks (ne_of_isQuote literal.quotes (by decide))
          (isBlank_of_isQuote literal.quotes)
      | template body _ => rfl
      | regex gap body flags _ _ _ _ => exact readRegexLiteral_skipBlanks (by decide) (by decide)
      | code t plain =>
        obtain ⟨u, hu, hplain⟩ := plain.append_ending semicolon
        rw [Item.text, hu]
        exact readRegexLiteral_skipBlanks_eq_none (fun hin => hplain.usual '/' hin (by simp)) ih
      | form kind before literal after isForm =>
        obtain ⟨c, more, rfl, hc⟩ := isForm.formText.exists_cons
        refine readRegexLiteral_skipBlanks ?_ ?_
        · rcases hc with rfl | rfl | rfl <;> decide
        · rcases hc with rfl | rfl | rfl <;> decide

theorem scanned_ending (semicolon : Bool) {steps : List Step}
    (hregex : readRegexLiteral (skipBlanks (textOf steps)) = none) (more : Scanned (some '\n') steps)
    (previous : Option Char) : Scanned previous ((ending semicolon).map .char ++ steps) := by
  obtain ⟨u, hu, hplain⟩ := plainCode_nil.append_ending semicolon
  rw [List.nil_append] at hu
  rw [hu]
  exact scanned_plain hplain hregex more previous

theorem textOf_ending (semicolon : Bool) (steps : List Step) :
    ∃ c t, (c = ';' ∨ c = '\n') ∧ textOf ((ending semicolon).map .char ++ steps) = c :: t := by
  rw [textOf_append, textOf_map_char]
  cases semicolon with
  | true => exact ⟨';', _, .inl rfl, rfl⟩
  | false => exact ⟨'\n', _, .inr rfl, rfl⟩

/-- A line is scanned in its steps, behind the end of another one and before more lines. -/
theorem Line.scanned_steps (line : Line) {previous : Option Char} {steps : List Step}
    (hprevious : atKeyword previous = true)
    (hregex : readRegexLiteral (skipBlanks (textOf steps)) = none)
    (more : Scanned (some '\n') steps) : Scanned previous (line.steps ++ steps) := by
  cases line with
  | comment body inside =>
    have hends : StopsAt withinLine (textOf (.char '\n' :: steps)) := stopsAt_cons.2 (by decide)
    exact .cons (TokenText.comment (.line inside hends)) (scanned_ending false hregex more _)
  | holds item semicolon =>
    have hending := scanned_ending semicolon hregex more
    rw [Line.steps, List.append_assoc]
    cases item with
    | blockComment body inside => exact .cons (TokenText.comment (.block inside _)) (hending _)
    | string literal => exact .cons (TokenText.string literal _) (hending _)
    | template body inside => exact .cons (TokenText.template inside _) (hending _)
    | regex gap body flags nonempty noComment inside letters =>
      -- the punctuator is a step of its own, and what is behind it the step over the literal
      have hends : StopsAt Char.isAlpha (textOf ((ending semicolon).map .char ++ steps)) := by
        obtain ⟨c, t, hc, ht⟩ := textOf_ending semicolon steps
        rw [ht, stopsAt_cons]
        rcases hc with rfl | rfl <;> decide
      have hliteral := RegexLiteral.intro nonempty noComment inside letters hends
      have hexpression : (some '=').any startsExpression = true := by decide
      refine .cons ?_ (.cons (TokenText.regex hexpression gap hliteral) (hending _))
      exact readToken_eq_none (by decide) (readRegexLiteral_skipBlanks (by decide) (by decide))
        (readForm_eq_none (by decide) _)
    | code t plain =>
      obtain ⟨u, hu, hplain⟩ := plain.append_ending semicolon
      rw [Item.steps, ← List.append_assoc, ← List.map_append, hu]
      exact scanned_plain hplain hregex more previous
    | form kind before literal after isForm => exact .cons ⟨hprevious, isForm.formText⟩ (hending _)

theorem scanned_programSteps {previous : Option Char} (hprevious : atKeyword previous = true)
    (lines : List Line) : Scanned previous (programSteps lines) := by
  induction lines generalizing previous with
  | nil => exact .nil previous
  | cons line lines ih =>
    rw [programSteps, List.flatMap_cons]
    -- the line break that every line ends with lets a keyword start behind it
    refine line.scanned_steps hprevious ?_ (ih (by decide +kernel))
    have hregex := readRegexLiteral_programText lines
    rw [← textOf_programSteps] at hregex
    exact hregex

/-- The scan of a program reports the specifiers of its import forms, one for each and in order. -/
theorem specifiers_program (lines : List Line) :
    specifiers (programText lines) = programSpecifiers [] lines := by
  rw [← textOf_programSteps, specifiers_textOf (scanned_programSteps rfl lines), found_programSteps]

end SpecifierLint.Source
