/-
Tokens of source text.

A token is either an import form, split into the text before the specifier literal, the literal,
and the text after it, or something that is passed over whole: a comment, a regular expression, a
string or a template.  At each position the forms are tried in a fixed order, and an import keyword
counts only if no word character, dollar sign or point stands before it.  Main statements:

* **`readToken_front`** — a token is the front of the text at its position;
* **`two_le_length_literal`** — the literal of an import form has both its quotes.
-/
import SpecifierLint.Source.Clause

namespace SpecifierLint.Source

/-- The form in which a specifier was found. -/
inductive ImportKind where
  | staticImport
  | dynamicImport
  | exportFrom
  | requireCall
  deriving DecidableEq, Repr

/-- The name of a form in reports. -/
def ImportKind.label : ImportKind → Text
  | .staticImport => "import"
  | .dynamicImport => "import()"
  | .exportFrom => "export-from"
  | .requireCall => "require"

/-- Every form. -/
def ImportKind.all : List ImportKind := [.staticImport, .dynamicImport, .exportFrom, .requireCall]

/-- The form with a name. -/
def ImportKind.ofLabel? (label : Text) : Option ImportKind :=
  ImportKind.all.find? (·.label = label)

/-- A token at a position of a source text. -/
inductive Token where
  | passed (lexeme : Text)
  | form (kind : ImportKind) (before literal after : Text)
  deriving DecidableEq, Repr

/-- The text of a token. -/
def Token.lexeme : Token → Text
  | .passed lexeme => lexeme
  | .form _ before literal after => before ++ literal ++ after

/-- A keyword can start here: the character before it continues no name and is no member access. -/
def atKeyword (previous : Option Char) : Bool :=
  !previous.any fun c => isNameChar c || c = '.'

/-- Reads a keyword, a clause that ends in `from`, and a literal. -/
def readFromForm (keyword : Text) (kind : ImportKind) (t : Text) : Option Token := do
  let afterKeyword ← Text.dropStart? keyword t
  let length ← clauseLength? afterKeyword
  let (literal, _) ← readString (afterKeyword.drop length)
  some (.form kind (keyword ++ afterKeyword.take length) literal [])

/-- Reads `import` and a literal. -/
def readBareForm (t : Text) : Option Token := do
  let afterKeyword ← Text.dropStart? "import" t
  let (literal, _) ← readString (skipBlanks afterKeyword)
  some (.form .staticImport ("import" ++ afterKeyword.takeWhile Text.isBlank) literal [])

/-- Reads a keyword and an opening parenthesis, a literal, and a comma or a closing parenthesis. -/
def readCallForm (keyword : Text) (kind : ImportKind) (t : Text) : Option Token := do
  let afterKeyword ← Text.dropStart? keyword t
  let afterParen ← Text.dropStart? "(" (skipBlanks afterKeyword)
  let (literal, afterLiteral) ← readString (skipBlanks afterParen)
  let before := keyword ++ afterKeyword.takeWhile Text.isBlank ++ "("
    ++ afterParen.takeWhile Text.isBlank
  match skipBlanks afterLiteral with
  | c :: _ =>
    if c = ',' || c = ')' then
      some (.form kind before literal (afterLiteral.takeWhile Text.isBlank ++ [c]))
    else none
  | [] => none

/-- Reads an import form. -/
def readForm (t : Text) : Option Token :=
  readFromForm "import" .staticImport t
    <|> readFromForm "export" .exportFrom t
    <|> readBareForm t
    <|> readCallForm "import" .dynamicImport t
    <|> readCallForm "require" .requireCall t

/-- Reads the token at a position, given the character before it. -/
def readToken (previous : Option Char) (t : Text) : Option Token :=
  (readComment t).map (.passed ·.1)
    <|> (readRegex previous t).map (.passed ·.1)
    <|> (if atKeyword previous then readForm t else none)
    <|> (readString t).map (.passed ·.1)
    <|> (readTemplate t).map (.passed ·.1)

/-! ### Tokens are part of the text -/

/-- The token is an import form at the front of the text: its literal is the string literal that
starts behind the text before it. -/
def Token.IsFormOf (t : Text) : Token → Prop
  | .passed _ => False
  | .form _ before literal after =>
    ∃ start rest, t = before ++ start ∧ readString start = some (literal, rest) ∧ after <+: rest

theorem Token.IsFormOf.lexeme_front {t : Text} {token : Token} (h : token.IsFormOf t) :
    token.lexeme <+: t := by
  cases token with
  | passed _ => exact h.elim
  | form kind before literal after =>
    obtain ⟨start, rest, rfl, hs, hr⟩ := h
    obtain ⟨behind, rfl⟩ := hr
    exact ⟨behind, by simp [Token.lexeme, readString_eq_some hs]⟩

theorem readFromForm_isFormOf {keyword t : Text} {kind : ImportKind} {token : Token}
    (h : readFromForm keyword kind t = some token) : token.IsFormOf t := by
  simp only [readFromForm, Option.bind_eq_bind, Option.bind_eq_some_iff, Option.some.injEq] at h
  obtain ⟨afterKeyword, hk, length, _, ⟨literal, rest⟩, hs, rfl⟩ := h
  rw [Text.dropStart?_eq_some_iff.1 hk]
  exact ⟨_, rest, by simp, hs, List.nil_prefix⟩

theorem readBareForm_isFormOf {t : Text} {token : Token} (h : readBareForm t = some token) :
    token.IsFormOf t := by
  simp only [readBareForm, Option.bind_eq_bind, Option.bind_eq_some_iff, Option.some.injEq] at h
  obtain ⟨afterKeyword, hk, ⟨literal, rest⟩, hs, rfl⟩ := h
  rw [Text.dropStart?_eq_some_iff.1 hk]
  exact ⟨_, rest, by simp [skipBlanks], hs, List.nil_prefix⟩

theorem readCallForm_isFormOf {keyword t : Text} {kind : ImportKind} {token : Token}
    (h : readCallForm keyword kind t = some token) : token.IsFormOf t := by
  simp only [readCallForm, Option.bind_eq_bind, Option.bind_eq_some_iff] at h
  obtain ⟨afterKeyword, hk, afterParen, hp, ⟨literal, rest⟩, hs, h⟩ := h
  have hopen := Text.dropStart?_eq_some_iff.1 hp
  split at h
  · next c behind hc =>
    split at h
    · simp only [Option.some.injEq] at h
      subst h
      have hafter : rest = rest.takeWhile Text.isBlank ++ c :: behind := by
        rw [← hc, skipBlanks, List.takeWhile_append_dropWhile]
      have hcall : afterKeyword
          = afterKeyword.takeWhile Text.isBlank ++ ("(" : Text) ++ afterParen := by
        rw [List.append_assoc, ← hopen, skipBlanks, List.takeWhile_append_dropWhile]
      refine ⟨_, rest, ?_, hs, ⟨behind, ?_⟩⟩
      · rw [Text.dropStart?_eq_some_iff.1 hk]
        conv => lhs; rw [hcall]
        simp [skipBlanks]
      · rw [List.append_assoc, List.singleton_append]
        exact hafter.symm
    · simp at h
  · simp at h

theorem readForm_isFormOf {t : Text} {token : Token} (h : readForm t = some token) :
    token.IsFormOf t := by
  simp only [readForm, Option.orElse_eq_orElse, Option.orElse_eq_or, Option.or_eq_some_iff] at h
  rcases h with h | ⟨_, h | ⟨_, h | ⟨_, h | ⟨_, h⟩⟩⟩⟩
  · exact readFromForm_isFormOf h
  · exact readFromForm_isFormOf h
  · exact readBareForm_isFormOf h
  · exact readCallForm_isFormOf h
  · exact readCallForm_isFormOf h

/-- A token is passed over, and is then the front of the text, or it is an import form. -/
theorem readToken_eq_some {previous : Option Char} {t : Text} {token : Token}
    (h : readToken previous t = some token) :
    (∃ lexeme, token = .passed lexeme ∧ lexeme <+: t) ∨ token.IsFormOf t := by
  have passed {read : Option (Text × Text)} (hread : ∀ l r, read = some (l, r) → t = l ++ r)
      (h : read.map (Token.passed ·.1) = some token) :
      ∃ lexeme, token = .passed lexeme ∧ lexeme <+: t := by
    obtain ⟨⟨lexeme, rest⟩, hl, rfl⟩ := Option.map_eq_some_iff.1 h
    exact ⟨lexeme, rfl, rest, (hread _ _ hl).symm⟩
  simp only [readToken, Option.orElse_eq_orElse, Option.orElse_eq_or, Option.or_eq_some_iff] at h
  rcases h with h | ⟨_, h | ⟨_, h | ⟨_, h | ⟨_, h⟩⟩⟩⟩
  · exact .inl (passed (fun _ _ => readComment_eq_some) h)
  · exact .inl (passed (fun _ _ => readRegex_eq_some) h)
  · split at h
    · exact .inr (readForm_isFormOf h)
    · simp at h
  · exact .inl (passed (fun _ _ => readString_eq_some) h)
  · exact .inl (passed (fun _ _ => readTemplate_eq_some) h)

/-- A token is the front of the text at its position. -/
theorem readToken_front {previous : Option Char} {t : Text} {token : Token}
    (h : readToken previous t = some token) : token.lexeme <+: t := by
  rcases readToken_eq_some h with ⟨lexeme, rfl, hl⟩ | hf
  · exact hl
  · exact hf.lexeme_front

/-- The literal of an import form has both its quotes. -/
theorem two_le_length_literal {previous : Option Char} {t before literal after : Text}
    {kind : ImportKind} (h : readToken previous t = some (.form kind before literal after)) :
    2 ≤ literal.length := by
  rcases readToken_eq_some h with ⟨_, hp, _⟩ | ⟨_, _, _, hs, _⟩
  · simp at hp
  · exact two_le_length_of_readString hs

end SpecifierLint.Source
