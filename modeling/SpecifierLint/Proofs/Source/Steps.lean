/-
The steps of a scan.

A source text is a row of steps: tokens that are passed over, import forms, and single characters at which
no token starts.  The scan goes through these steps, and the literals of the import forms are what it
reports.  Main statements:

* **`exists_scanned`** — every text is a row of steps;
* **`specifiers_textOf`** — the scan reports the literals of the import forms among the steps, and
  nothing else;
* **`exists_form_of_mem_specifiers`** — a reported specifier is that of the literal of an import form.
-/
import SpecifierLint.Source.Scan
import SpecifierLint.Proofs.Source.Tokens

namespace SpecifierLint.Source

/-! ### Steps -/

/-- A step of a scan. -/
inductive Step where
  | char (c : Char)
  | passed (lexeme : Text)
  | form (kind : ImportKind) (before : Text) (literal : StringLiteral) (after : Text)

/-- The text that a step goes over. -/
def Step.text : Step → Text
  | .char c => [c]
  | .passed lexeme => lexeme
  | .form _ before literal after => before ++ (literal.text ++ after)

/-- The text that a row of steps goes over. -/
def textOf (steps : List Step) : Text := steps.flatMap Step.text

@[simp] theorem textOf_nil : textOf [] = [] := rfl

@[simp] theorem textOf_cons (s : Step) (steps : List Step) :
    textOf (s :: steps) = s.text ++ textOf steps := rfl

theorem textOf_append (steps others : List Step) :
    textOf (steps ++ others) = textOf steps ++ textOf others :=
  List.flatMap_append

theorem textOf_map_char (t : Text) : textOf (t.map .char) = t := by
  induction t with
  | nil => rfl
  | cons c t ih => rw [List.map_cons, textOf_cons, ih]; rfl

/-- The character before what stands behind a text. -/
def lastOf (previous : Option Char) (t : Text) : Option Char := t.getLast?.or previous

theorem lastOf_cons (previous : Option Char) (c : Char) (t : Text) :
    lastOf previous (c :: t) = lastOf (some c) t := by
  cases t with
  | nil => rfl
  | cons d t =>
    rw [lastOf, lastOf, List.getLast?_cons_cons, List.getLast?_cons, Option.some_or, Option.some_or]

theorem lastOf_append (previous : Option Char) (t u : Text) :
    lastOf previous (t ++ u) = lastOf (lastOf previous t) u := by
  induction t generalizing previous with
  | nil => rfl
  | cons c t ih => rw [List.cons_append, lastOf_cons, lastOf_cons, ih]

/-- What a step asks of the character before it and of the text behind it. -/
def Step.At (previous : Option Char) (rest : Text) : Step → Prop
  | .char c => readToken previous (c :: rest) = none
  | .passed lexeme => TokenText previous (.passed lexeme) rest
  | .form kind before _ after => atKeyword previous = true ∧ FormText kind before after

/-- The scan goes through the steps, one after the other. -/
inductive Scanned : Option Char → List Step → Prop
  | nil (previous : Option Char) : Scanned previous []
  | cons {previous : Option Char} {s : Step} {steps : List Step} (here : s.At previous (textOf steps))
      (more : Scanned (lastOf previous s.text) steps) : Scanned previous (s :: steps)

theorem Comment.ne_nil {lexeme rest : Text} (h : Comment lexeme rest) : lexeme ≠ [] := by
  cases h with
  | line _ _ => exact List.cons_ne_nil _ _
  | block _ _ => exact List.cons_ne_nil _ _

theorem RegexLiteral.ne_nil {literal rest : Text} (h : RegexLiteral literal rest) : literal ≠ [] := by
  cases h
  exact List.cons_ne_nil _ _

theorem TokenText.exists_step {previous : Option Char} {token : Token} {rest : Text}
    (h : TokenText previous token rest) :
    ∃ s : Step, s.text = token.lexeme ∧ s.At previous rest ∧ s.text ≠ [] := by
  have hpassed {lexeme : Text} (htoken : TokenText previous (.passed lexeme) rest)
      (hne : lexeme ≠ []) :
      ∃ s : Step, s.text = lexeme ∧ s.At previous rest ∧ s.text ≠ [] :=
    ⟨.passed lexeme, rfl, htoken, hne⟩
  cases h with
  | comment hcomment => exact hpassed (.comment hcomment) hcomment.ne_nil
  | regex expression gap hliteral =>
    exact hpassed (.regex expression gap hliteral) (List.append_ne_nil_of_right_ne_nil _ hliteral.ne_nil)
  | @form keyword kind before after hform l _ =>
    refine ⟨.form kind before l after, by simp [Step.text, Token.lexeme], ⟨keyword, hform⟩, ?_⟩
    simp [Step.text, StringLiteral.text]
  | string l _ => exact hpassed (.string l rest) (List.cons_ne_nil _ _)
  | template hbody _ => exact hpassed (.template hbody rest) (List.cons_ne_nil _ _)

/-- Every text is a row of steps. -/
theorem exists_scanned (previous : Option Char) (t : Text) :
    ∃ steps, textOf steps = t ∧ Scanned previous steps := by
  -- by strong induction, since a token is passed over whole
  induction hlength : t.length using Nat.strongRecOn generalizing previous t with
  | ind length ih =>
    subst hlength
    cases t with
    | nil => exact ⟨[], rfl, .nil previous⟩
    | cons c rest =>
      cases hread : readToken previous (c :: rest) with
      | none =>
        obtain ⟨steps, rfl, hsteps⟩ := ih _ (by simp) (some c) rest rfl
        exact ⟨.char c :: steps, rfl, .cons hread hsteps⟩
      | some token =>
        obtain ⟨behind, htoken, hsplit⟩ := readToken_eq_some_iff.1 hread
        obtain ⟨s, hs, hat, hne⟩ := htoken.exists_step
        have hshort : behind.length < (c :: rest).length := by
          have hpos := List.length_pos_iff.2 hne
          rw [hsplit, ← hs, List.length_append]
          omega
        obtain ⟨steps, rfl, hsteps⟩ := ih _ hshort (lastOf previous s.text) behind rfl
        exact ⟨s :: steps, by rw [textOf_cons, hs, hsplit], .cons hat hsteps⟩

/-! ### What a scan reports -/

/-- The specifier of a literal that stands behind a text. -/
def StringLiteral.behind (l : StringLiteral) (front : Text) : Specifier where
  value := l.body
  start := front.length
  stop := front.length + l.body.length + 2
  line := front.count '\n' + 1
  column := (front.reverse.takeWhile withinLine).length + 1
  quote := l.quote

/-- The specifier of a step that stands behind a text. -/
def Step.specifier? (front : Text) : Step → Option (ImportKind × Specifier)
  | .form kind before literal _ => some (kind, literal.behind (front ++ before))
  | _ => none

/-- The specifiers of steps that stand behind a text. -/
def found (front : Text) : List Step → List (ImportKind × Specifier)
  | [] => []
  | s :: steps => (s.specifier? front).toList ++ found (front ++ s.text) steps

theorem ofSource_literal (front : Text) (l : StringLiteral) (rest : Text) :
    Specifier.ofSource (front ++ (l.text ++ rest)) front.length (front.length + l.text.length)
      = l.behind front := by
  have hlength : l.text.length = l.body.length + 2 := by simp [StringLiteral.text]
  rw [← Specifier.atPosition_eq front (l.text ++ rest) (by omega), Position.after_eq, hlength]
  simp only [Specifier.atPosition, StringLiteral.behind, StringLiteral.text]
  congr 1
  simp

theorem scanFrom_skip (previous : Option Char) (offset : Nat) (u t : Text) :
    scanFrom previous offset u.length (u ++ t)
      = scanFrom (lastOf previous u) (offset + u.length) 0 t := by
  induction u generalizing previous offset with
  | nil => rfl
  | cons c u ih =>
    rw [List.length_cons, List.cons_append, scanFrom, if_pos (by omega), Nat.add_sub_cancel, ih,
      lastOf_cons]
    congr 1
    omega

/-- Where a token starts, its literal is reported and the scan goes on behind it. -/
theorem scanFrom_token {previous : Option Char} {token : Token} {rest : Text}
    (h : TokenText previous token rest) (offset : Nat) :
    scanFrom previous offset 0 (token.lexeme ++ rest)
      = (token.occurrence? offset).toList
        ++ scanFrom (lastOf previous token.lexeme) (offset + token.lexeme.length) 0 rest := by
  obtain ⟨s, hs, _, hne⟩ := h.exists_step
  have hread := readToken_eq_some_iff.2 ⟨rest, h, rfl⟩
  rw [hs] at hne
  obtain ⟨c, u, hlexeme⟩ := List.exists_cons_of_ne_nil hne
  rw [hlexeme, List.cons_append] at hread ⊢
  rw [scanFrom, if_neg (by omega), hread]
  dsimp only
  rw [hlexeme, List.length_cons, Nat.add_sub_cancel, scanFrom_skip, lastOf_cons]
  congr 2
  omega

theorem scanFrom_textOf {previous : Option Char} {steps : List Step} (h : Scanned previous steps)
    (front : Text) :
    (scanFrom previous front.length 0 (textOf steps)).map
        (fun o => (o.kind, Specifier.ofSource (front ++ textOf steps) o.start o.stop))
      = found front steps := by
  -- along the steps, with the text that is scanned already in front
  induction h generalizing front with
  | nil => rfl
  | @cons previous s steps here _ ih =>
    have hmore := ih (front ++ s.text)
    rw [List.length_append, List.append_assoc] at hmore
    cases s with
    | char c =>
      rw [found, ← hmore, textOf_cons]
      simp only [Step.text, List.singleton_append]
      rw [scanFrom, if_neg (by omega), here]
      rfl
    | passed lexeme =>
      have hscan := scanFrom_token here front.length
      rw [found, ← hmore, textOf_cons]
      simp only [Step.text, Token.lexeme] at hscan ⊢
      rw [hscan]
      rfl
    | form kind before l after =>
      obtain ⟨hkeyword, hform⟩ := here
      have htoken : TokenText previous (.form kind before l.text after) (textOf steps) :=
        .form hkeyword hform l _
      have hscan := scanFrom_token htoken front.length
      have hplace := ofSource_literal (front ++ before) l (after ++ textOf steps)
      rw [List.length_append, List.append_assoc] at hplace
      rw [found, ← hmore, textOf_cons]
      simp only [Step.text, Token.lexeme, List.append_assoc] at hscan ⊢
      rw [hscan, List.map_append]
      simp only [Token.occurrence?, Option.toList_some, List.map_cons, List.map_nil, hplace]
      rfl

/-- The scan reports the literals of the import forms among the steps, and nothing else. -/
theorem specifiers_textOf {steps : List Step} (h : Scanned none steps) :
    specifiers (textOf steps) = found [] steps := by
  rw [specifiers_eq]
  exact scanFrom_textOf h []

/-- A specifier of scanned steps is that of the literal of an import form at whose place a keyword can
start. -/
theorem exists_form_of_mem_found {front : Text} {steps : List Step} {a : ImportKind × Specifier}
    (hscanned : Scanned (lastOf none front) steps) (h : a ∈ found front steps) :
    ∃ lead kind before l after rest,
      front ++ textOf steps = lead ++ (before ++ (StringLiteral.text l ++ (after ++ rest)))
        ∧ a = (kind, l.behind (lead ++ before))
        ∧ atKeyword (lastOf none lead) = true ∧ FormText kind before after := by
  induction steps generalizing front with
  | nil => exact absurd h (by simp [found])
  | cons s steps ih =>
    cases hscanned with
    | cons here more =>
      rw [← lastOf_append] at more
      rcases List.mem_append.1 h with h | h
      · cases s with
        | form kind before l after =>
          have heq : (kind, l.behind (front ++ before)) = a := Option.some.inj (Option.mem_toList.1 h)
          obtain ⟨hkeyword, hform⟩ := here
          refine ⟨front, kind, before, l, after, textOf steps, ?_, heq.symm, hkeyword, hform⟩
          simp [Step.text]
        | _ => exact absurd h (by simp [Step.specifier?])
      · obtain ⟨lead, kind, before, l, after, rest, hsplit, ha⟩ := ih more h
        exact ⟨lead, kind, before, l, after, rest, by rw [← hsplit, textOf_cons, List.append_assoc], ha⟩

/-- A reported specifier is that of the literal of an import form at whose place a keyword can start. -/
theorem exists_form_of_mem_specifiers {source : Text} {a : ImportKind × Specifier}
    (h : a ∈ specifiers source) :
    ∃ lead kind before l after rest,
      source = lead ++ (before ++ (StringLiteral.text l ++ (after ++ rest)))
        ∧ a = (kind, l.behind (lead ++ before))
        ∧ atKeyword (lastOf none lead) = true ∧ FormText kind before after := by
  obtain ⟨steps, rfl, hscanned⟩ := exists_scanned none source
  rw [specifiers_textOf hscanned] at h
  exact @exists_form_of_mem_found [] steps a hscanned h

theorem exists_literal_of_mem_specifiers {source : Text} {a : ImportKind × Specifier}
    (h : a ∈ specifiers source) :
    ∃ before l after, source = before ++ (StringLiteral.text l ++ after) ∧ a.2 = l.behind before := by
  obtain ⟨lead, _, before, l, after, rest, hsplit, rfl, _⟩ := exists_form_of_mem_specifiers h
  exact ⟨lead ++ before, l, after ++ rest, by rw [hsplit, List.append_assoc], rfl⟩

end SpecifierLint.Source
