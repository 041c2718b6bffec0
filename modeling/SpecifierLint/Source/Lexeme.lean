/-
Lexemes of source text.

Comments, string and template literals and regular expression literals are read whole.  Each reader
takes the text at a position and gives the lexeme together with the text after it, or nothing if no
such lexeme starts there.  Main statements: `lexeme ++ rest` is always the text that was read
(**`readQuoted_eq_some`**, **`readString_eq_some`**, **`readComment_eq_some`**,
**`readRegex_eq_some`**), and a string literal has both its quotes
(**`two_le_length_of_readString`**).
-/
import SpecifierLint.Text.Alphanumeric
import SpecifierLint.Text.Blank

namespace SpecifierLint.Source

/-! ### Characters -/

/-- A character of a word: alphanumeric, or an underscore. -/
def isWordChar (c : Char) : Bool := Text.isAlphanumeric c || c = '_'

/-- A character of a name: a word character, or a dollar sign. -/
def isNameChar (c : Char) : Bool := isWordChar c || c = '$'

/-- The text after the blanks at its front. -/
def skipBlanks (t : Text) : Text := t.dropWhile Text.isBlank

/-! ### Quoted bodies -/

/-- Puts characters in front of a lexeme. -/
def prepend (front : Text) (read : Option (Text × Text)) : Option (Text × Text) :=
  read.map fun (lexeme, rest) => (front ++ lexeme, rest)

theorem prepend_eq_some_iff {front lexeme rest : Text} {read : Option (Text × Text)} :
    prepend front read = some (lexeme, rest) ↔
      ∃ tail, read = some (tail, rest) ∧ lexeme = front ++ tail := by
  cases read with
  | none => simp [prepend]
  | some found =>
    obtain ⟨tail, r⟩ := found
    simp only [prepend, Option.map_some, Option.some.injEq, Prod.mk.injEq]
    constructor
    · rintro ⟨rfl, rfl⟩
      exact ⟨tail, ⟨rfl, rfl⟩, rfl⟩
    · rintro ⟨t, ⟨rfl, rfl⟩, rfl⟩
      exact ⟨rfl, rfl⟩

/-- Reads up to and including the next unescaped `close`.  A backslash takes the character after it
along, whatever it is; every other character has to be allowed. -/
def readQuoted (allowed : Char → Bool) (close : Char) : Text → Option (Text × Text)
  | [] => none
  | c :: rest =>
    if c = close then some ([c], rest)
    else if c = '\\' then
      match rest with
      | [] => none
      | d :: after => prepend [c, d] (readQuoted allowed close after)
    else if allowed c then prepend [c] (readQuoted allowed close rest)
    else none

/-- The quotes of a string literal. -/
def isQuote (c : Char) : Bool := c = '"' || c = '\''

/-- Every character but a line break. -/
def withinLine (c : Char) : Bool := c != '\n'

/-- Reads a string literal in single or double quotes, with its quotes. -/
def readString : Text → Option (Text × Text)
  | [] => none
  | q :: rest =>
    if isQuote q then prepend [q] (readQuoted withinLine q rest) else none

/-- Reads a template literal, with its backticks. -/
def readTemplate : Text → Option (Text × Text)
  | '\x60' :: rest => prepend ['\x60'] (readQuoted (fun _ => true) '\x60' rest)
  | _ => none

/-! ### Comments -/

/-- Reads up to and including the first star that a slash follows. -/
def readToStarSlash : Text → Option (Text × Text)
  | [] => none
  | [_] => none
  | c :: d :: rest =>
    if c = '*' && d = '/' then some ([c, d], rest)
    else prepend [c] (readToStarSlash (d :: rest))

/-- Reads a line comment up to the end of its line, or a block comment. -/
def readComment : Text → Option (Text × Text)
  | '/' :: '/' :: rest => some ('/' :: '/' :: rest.takeWhile withinLine, rest.dropWhile withinLine)
  | '/' :: '*' :: rest => prepend ['/', '*'] (readToStarSlash rest)
  | _ => none

/-! ### Regular expression literals -/

/-- The punctuators after which a slash starts a regular expression. -/
def startsExpression (c : Char) : Bool := ("=(,:[!&|?\x7b;" : Text).contains c

/-- Reads the body of a regular expression up to and including the slash that closes it.  Inside a
character class, which has to end on the same line, a slash is an ordinary character. -/
def readRegexBody (inClass : Bool) : Text → Option (Text × Text)
  | [] => none
  | c :: rest =>
    if c = '\\' then
      match rest with
      | [] => none
      | d :: after => prepend [c, d] (readRegexBody inClass after)
    else if c = '\n' then none
    else if !inClass && c = '/' then some ([c], rest)
    else prepend [c] (readRegexBody (if inClass then c != ']' else c = '[') rest)

/-- Reads a regular expression literal with its flags. -/
def readRegexLiteral : Text → Option (Text × Text)
  | '/' :: c :: rest =>
    if c = '/' || c = '*' then none
    else
      (readRegexBody false (c :: rest)).map fun (t, r) =>
        ('/' :: t ++ r.takeWhile Char.isAlpha, r.dropWhile Char.isAlpha)
  | _ => none

/-- Reads a regular expression after one of its punctuators, with the blanks before it. -/
def readRegex (previous : Option Char) (t : Text) : Option (Text × Text) :=
  if previous.any startsExpression then
    prepend (t.takeWhile Text.isBlank) (readRegexLiteral (skipBlanks t))
  else none

/-! ### Nothing is lost -/

theorem readQuoted_eq_some {allowed : Char → Bool} {close : Char} {t lexeme rest : Text}
    (h : readQuoted allowed close t = some (lexeme, rest)) : t = lexeme ++ rest := by
  fun_induction readQuoted allowed close t generalizing lexeme rest with
  | case1 => simp at h
  | case2 =>
    simp only [Option.some.injEq, Prod.mk.injEq] at h
    simp [← h.1, h.2]
  | case3 => simp at h
  | case4 d after _ ih =>
    obtain ⟨tail, ht, rfl⟩ := prepend_eq_some_iff.1 h
    simp [ih ht]
  | case5 _ rest' _ _ _ ih =>
    obtain ⟨tail, ht, rfl⟩ := prepend_eq_some_iff.1 h
    simp [ih ht]
  | case6 => simp at h

theorem readString_eq_some {t lexeme rest : Text} (h : readString t = some (lexeme, rest)) :
    t = lexeme ++ rest := by
  cases t with
  | nil => simp [readString] at h
  | cons q body =>
    simp only [readString] at h
    split at h
    · obtain ⟨tail, ht, rfl⟩ := prepend_eq_some_iff.1 h
      simp [readQuoted_eq_some ht]
    · simp at h

theorem readQuoted_ne_nil {allowed : Char → Bool} {close : Char} {t lexeme rest : Text}
    (h : readQuoted allowed close t = some (lexeme, rest)) : lexeme ≠ [] := by
  fun_induction readQuoted allowed close t generalizing lexeme rest with
  | case1 => simp at h
  | case2 =>
    simp only [Option.some.injEq, Prod.mk.injEq] at h
    simp [← h.1]
  | case3 => simp at h
  | case4 =>
    obtain ⟨tail, _, rfl⟩ := prepend_eq_some_iff.1 h
    simp
  | case5 =>
    obtain ⟨tail, _, rfl⟩ := prepend_eq_some_iff.1 h
    simp
  | case6 => simp at h

/-- A string literal has both its quotes. -/
theorem two_le_length_of_readString {t lexeme rest : Text}
    (h : readString t = some (lexeme, rest)) : 2 ≤ lexeme.length := by
  cases t with
  | nil => simp [readString] at h
  | cons q body =>
    simp only [readString] at h
    split at h
    · obtain ⟨tail, ht, rfl⟩ := prepend_eq_some_iff.1 h
      have := List.length_pos_iff.2 (readQuoted_ne_nil ht)
      simp only [List.length_append, List.length_cons, List.length_nil]
      omega
    · simp at h

theorem readTemplate_eq_some {t lexeme rest : Text} (h : readTemplate t = some (lexeme, rest)) :
    t = lexeme ++ rest := by
  unfold readTemplate at h
  split at h
  · obtain ⟨tail, ht, rfl⟩ := prepend_eq_some_iff.1 h
    simp [readQuoted_eq_some ht]
  · simp at h

theorem readToStarSlash_eq_some {t lexeme rest : Text}
    (h : readToStarSlash t = some (lexeme, rest)) : t = lexeme ++ rest := by
  fun_induction readToStarSlash t generalizing lexeme rest with
  | case1 => simp at h
  | case2 => simp at h
  | case3 =>
    simp only [Option.some.injEq, Prod.mk.injEq] at h
    simp [← h.1, h.2]
  | case4 _ _ _ _ ih =>
    obtain ⟨tail, ht, rfl⟩ := prepend_eq_some_iff.1 h
    simp [ih ht]

theorem readComment_eq_some {t lexeme rest : Text} (h : readComment t = some (lexeme, rest)) :
    t = lexeme ++ rest := by
  unfold readComment at h
  split at h
  · simp only [Option.some.injEq, Prod.mk.injEq] at h
    obtain ⟨rfl, rfl⟩ := h
    simp
  · obtain ⟨tail, ht, rfl⟩ := prepend_eq_some_iff.1 h
    simp [readToStarSlash_eq_some ht]
  · simp at h

theorem readRegexBody_eq_some {inClass : Bool} {t lexeme rest : Text}
    (h : readRegexBody inClass t = some (lexeme, rest)) : t = lexeme ++ rest := by
  fun_induction readRegexBody inClass t generalizing lexeme rest with
  | case1 => simp at h
  | case2 => simp at h
  | case3 _ _ _ ih =>
    obtain ⟨tail, ht, rfl⟩ := prepend_eq_some_iff.1 h
    simp [ih ht]
  | case4 => simp at h
  | case5 =>
    simp only [Option.some.injEq, Prod.mk.injEq] at h
    simp [← h.1, h.2]
  | case6 _ _ _ _ _ _ ih =>
    obtain ⟨tail, ht, rfl⟩ := prepend_eq_some_iff.1 h
    simp [ih ht]

theorem readRegexLiteral_eq_some {t lexeme rest : Text}
    (h : readRegexLiteral t = some (lexeme, rest)) : t = lexeme ++ rest := by
  unfold readRegexLiteral at h
  split at h
  · split at h
    · simp at h
    · obtain ⟨⟨body, r⟩, hb, he⟩ := Option.map_eq_some_iff.1 h
      simp only [Prod.mk.injEq] at he
      obtain ⟨rfl, rfl⟩ := he
      simp [readRegexBody_eq_some hb]
  · simp at h

theorem readRegex_eq_some {previous : Option Char} {t lexeme rest : Text}
    (h : readRegex previous t = some (lexeme, rest)) : t = lexeme ++ rest := by
  simp only [readRegex] at h
  split at h
  · obtain ⟨tail, ht, rfl⟩ := prepend_eq_some_iff.1 h
    rw [List.append_assoc, ← readRegexLiteral_eq_some ht, skipBlanks,
      List.takeWhile_append_dropWhile]
  · simp at h

end SpecifierLint.Source
