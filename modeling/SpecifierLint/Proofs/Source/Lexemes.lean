/-
Which texts are lexemes.

The readers of lexemes accept exactly what a grammar describes.  A quoted body is a row of plain
characters and escapes; a block comment holds no star before a slash; the body of a regular
expression is a row of plain characters, escapes and character classes.  Main statements:

* **`readString_eq_some_iff`**, **`readTemplate_eq_some_iff`** — a literal is read exactly if one
  stands there;
* **`readComment_eq_some_iff`** — so is a comment;
* **`readRegex_eq_some_iff`** — so is a regular expression, behind one of its punctuators.
-/
import Mathlib.Data.List.TakeWhile
import SpecifierLint.Source.Lexeme

namespace SpecifierLint.Source

/-! ### Runs of characters -/

/-- A text does not go on with a character of a class. -/
def StopsAt (p : Char → Bool) (t : Text) : Prop := ∀ c, t.head? = some c → p c = false

theorem stopsAt_nil (p : Char → Bool) : StopsAt p [] := by
  intro c h
  simp at h

theorem stopsAt_cons {p : Char → Bool} {c : Char} {t : Text} :
    StopsAt p (c :: t) ↔ p c = false := by
  simp [StopsAt]

theorem stopsAt_dropWhile (p : Char → Bool) (t : Text) : StopsAt p (t.dropWhile p) := by
  intro c h
  have hhead := List.head?_dropWhile_not p t
  rw [h] at hhead
  exact hhead

theorem takeWhile_run {p : Char → Bool} {run rest : Text} (hrun : ∀ c ∈ run, p c = true)
    (hrest : StopsAt p rest) : (run ++ rest).takeWhile p = run := by
  have hstop : rest.takeWhile p = [] := by
    cases rest with
    | nil => rfl
    | cons c rest => simp [hrest c rfl]
  rw [List.takeWhile_append_of_pos hrun, hstop, List.append_nil]

theorem dropWhile_run {p : Char → Bool} {run rest : Text} (hrun : ∀ c ∈ run, p c = true)
    (hrest : StopsAt p rest) : (run ++ rest).dropWhile p = rest := by
  rw [List.dropWhile_append_of_pos hrun]
  cases rest with
  | nil => rfl
  | cons c rest => simp [hrest c rfl]

/-- A text of blanks. -/
abbrev Blanks := { t : Text // ∀ c ∈ t, Text.isBlank c = true }

theorem skipBlanks_append (gap : Blanks) {t : Text} (h : StopsAt Text.isBlank t) :
    skipBlanks (gap.1 ++ t) = t :=
  dropWhile_run gap.2 h

theorem takeWhile_blanks (gap : Blanks) {t : Text} (h : StopsAt Text.isBlank t) :
    (gap.1 ++ t).takeWhile Text.isBlank = gap.1 :=
  takeWhile_run gap.2 h

theorem exists_blanks (t : Text) :
    ∃ gap : Blanks, t = gap.1 ++ skipBlanks t ∧ StopsAt Text.isBlank (skipBlanks t)
      ∧ gap.1 = t.takeWhile Text.isBlank :=
  ⟨⟨t.takeWhile Text.isBlank, fun _ h => List.mem_takeWhile_imp h⟩,
    List.takeWhile_append_dropWhile.symm, stopsAt_dropWhile _ _, rfl⟩

/-! ### Quoted bodies -/

/-- What may stand between two quotes: plain characters, and backslashes with the character they
take along. -/
inductive QuotedBody (allowed : Char → Bool) (close : Char) : Text → Prop
  | nil : QuotedBody allowed close []
  | plain {c : Char} {rest : Text} (inside : c ≠ close) (unescaped : c ≠ '\\')
      (permitted : allowed c = true) (more : QuotedBody allowed close rest) :
      QuotedBody allowed close (c :: rest)
  | escape (c : Char) {rest : Text} (more : QuotedBody allowed close rest) :
      QuotedBody allowed close ('\\' :: c :: rest)

theorem QuotedBody.plain_of_mem {allowed : Char → Bool} {close : Char} {body : Text}
    (h : QuotedBody allowed close body) (hslash : '\\' ∉ body) {c : Char} (hc : c ∈ body) :
    c ≠ close ∧ allowed c = true := by
  induction h with
  | nil => simp at hc
  | plain inside _ permitted _ ih =>
    rcases List.mem_cons.1 hc with rfl | hc
    · exact ⟨inside, permitted⟩
    · exact ih (fun h => hslash (List.mem_cons_of_mem _ h)) hc
  | escape _ _ _ => simp at hslash

theorem quotedBody_of_plain {allowed : Char → Bool} {close : Char} {body : Text}
    (h : ∀ c ∈ body, c ≠ close ∧ c ≠ '\\' ∧ allowed c = true) : QuotedBody allowed close body := by
  induction body with
  | nil => exact .nil
  | cons c rest ih =>
    obtain ⟨⟨hclose, hslash, hallowed⟩, hrest⟩ := List.forall_mem_cons.1 h
    exact .plain hclose hslash hallowed (ih hrest)

theorem readQuoted_close {allowed : Char → Bool} {close : Char} (rest : Text) :
    readQuoted allowed close (close :: rest) = some ([close], rest) := by
  rw [readQuoted.eq_def]
  simp

theorem readQuoted_plain {allowed : Char → Bool} {close c : Char} (inside : c ≠ close)
    (unescaped : c ≠ '\\') (permitted : allowed c = true) (rest : Text) :
    readQuoted allowed close (c :: rest) = prepend [c] (readQuoted allowed close rest) := by
  rw [readQuoted.eq_def]
  simp [inside, unescaped, permitted]

theorem readQuoted_escape {allowed : Char → Bool} {close : Char} (hclose : close ≠ '\\') (c : Char)
    (rest : Text) :
    readQuoted allowed close ('\\' :: c :: rest) = prepend ['\\', c] (readQuoted allowed close rest) := by
  rw [readQuoted.eq_def]
  simp [hclose.symm]

theorem readQuoted_append {allowed : Char → Bool} {close : Char} (hclose : close ≠ '\\') {body : Text}
    (h : QuotedBody allowed close body) (rest : Text) :
    readQuoted allowed close (body ++ close :: rest) = some (body ++ [close], rest) := by
  induction h with
  | nil => exact readQuoted_close rest
  | plain inside unescaped permitted _ ih =>
    rw [List.cons_append, readQuoted_plain inside unescaped permitted, ih]
    rfl
  | escape c _ ih =>
    rw [List.cons_append, List.cons_append, readQuoted_escape hclose, ih]
    rfl

theorem exists_body_of_readQuoted {allowed : Char → Bool} {close : Char} {t lexeme rest : Text}
    (h : readQuoted allowed close t = some (lexeme, rest)) :
    ∃ body, QuotedBody allowed close body ∧ lexeme = body ++ [close] := by
  fun_induction readQuoted allowed close t generalizing lexeme rest with
  | case1 => simp at h
  | case2 =>
    simp only [Option.some.injEq, Prod.mk.injEq] at h
    exact ⟨[], .nil, h.1.symm⟩
  | case3 => simp at h
  | case4 d after _ ih =>
    obtain ⟨tail, ht, rfl⟩ := prepend_eq_some_iff.1 h
    obtain ⟨body, hbody, rfl⟩ := ih ht
    exact ⟨'\\' :: d :: body, .escape d hbody, rfl⟩
  | case5 c rest' hinside hunescaped hpermitted ih =>
    obtain ⟨tail, ht, rfl⟩ := prepend_eq_some_iff.1 h
    obtain ⟨body, hbody, rfl⟩ := ih ht
    exact ⟨c :: body, .plain hinside hunescaped hpermitted hbody, rfl⟩
  | case6 => simp at h

/-- A quoted body is read up to the quote that closes it. -/
theorem readQuoted_eq_some_iff {allowed : Char → Bool} {close : Char} (hclose : close ≠ '\\')
    {t lexeme rest : Text} :
    readQuoted allowed close t = some (lexeme, rest) ↔
      ∃ body, QuotedBody allowed close body ∧ lexeme = body ++ [close] ∧ t = lexeme ++ rest := by
  constructor
  · intro h
    obtain ⟨body, hbody, hlexeme⟩ := exists_body_of_readQuoted h
    exact ⟨body, hbody, hlexeme, readQuoted_eq_some h⟩
  · rintro ⟨body, hbody, rfl, rfl⟩
    rw [List.append_assoc, List.singleton_append]
    exact readQuoted_append hclose hbody rest

/-! ### String and template literals -/

/-- A string literal: its quote, and what stands between its quotes. -/
structure StringLiteral where
  quote : Char
  body : Text
  quotes : isQuote quote = true
  quoted : QuotedBody withinLine quote body

/-- The literal with its quotes. -/
def StringLiteral.text (l : StringLiteral) : Text := l.quote :: (l.body ++ [l.quote])

theorem ne_backslash_of_isQuote {q : Char} (h : isQuote q = true) : q ≠ '\\' := by
  rintro rfl
  exact absurd h (by decide)

/-- A string literal is read exactly if one stands there. -/
theorem readString_eq_some_iff {t lexeme rest : Text} :
    readString t = some (lexeme, rest) ↔
      ∃ l : StringLiteral, lexeme = l.text ∧ t = l.text ++ rest := by
  cases t with
  | nil => simp [readString, StringLiteral.text]
  | cons q tail =>
    rw [readString]
    constructor
    · intro h
      split at h
      · next hq =>
        obtain ⟨behind, hbehind, rfl⟩ := prepend_eq_some_iff.1 h
        obtain ⟨body, hbody, rfl, rfl⟩ :=
          (readQuoted_eq_some_iff (ne_backslash_of_isQuote hq)).1 hbehind
        exact ⟨⟨q, body, hq, hbody⟩, rfl, by simp [StringLiteral.text]⟩
      · simp at h
    · rintro ⟨l, rfl, ht⟩
      rw [StringLiteral.text, List.cons_append] at ht
      obtain ⟨rfl, rfl⟩ := List.cons.inj ht
      rw [if_pos l.quotes, prepend_eq_some_iff]
      refine ⟨l.body ++ [l.quote], ?_, rfl⟩
      exact (readQuoted_eq_some_iff (ne_backslash_of_isQuote l.quotes)).2 ⟨_, l.quoted, rfl, rfl⟩

/-- What stands between the backticks of a template literal. -/
def TemplateBody (body : Text) : Prop := QuotedBody (fun _ => true) '\x60' body

/-- A template literal is read exactly if one stands there. -/
theorem readTemplate_eq_some_iff {t lexeme rest : Text} :
    readTemplate t = some (lexeme, rest) ↔
      ∃ body, TemplateBody body ∧ lexeme = '\x60' :: (body ++ ['\x60']) ∧ t = lexeme ++ rest := by
  constructor
  · intro h
    unfold readTemplate at h
    split at h
    · obtain ⟨behind, hbehind, rfl⟩ := prepend_eq_some_iff.1 h
      obtain ⟨body, hbody, rfl, rfl⟩ := (readQuoted_eq_some_iff (by decide)).1 hbehind
      exact ⟨body, hbody, rfl, rfl⟩
    · simp at h
  · rintro ⟨body, hbody, rfl, rfl⟩
    rw [List.cons_append, readTemplate, prepend_eq_some_iff]
    exact ⟨_, (readQuoted_eq_some_iff (by decide)).2 ⟨body, hbody, rfl, rfl⟩, rfl⟩

/-! ### Comments -/

/-- What stands in a block comment: no star of it is followed by a slash. -/
def BlockBody (body : Text) : Prop := ¬ (['*', '/'] <:+: body)

theorem blockBody_cons {c : Char} {rest : Text} :
    BlockBody (c :: rest) ↔ ¬ (c = '*' ∧ rest.head? = some '/') ∧ BlockBody rest := by
  have hfront : ['*', '/'] <+: c :: rest ↔ c = '*' ∧ rest.head? = some '/' := by
    cases rest with
    | nil => simp [List.cons_prefix_cons]
    | cons d rest => simp [List.cons_prefix_cons, eq_comm]
  rw [BlockBody, BlockBody, List.infix_cons_iff, hfront, not_or]

theorem readToStarSlash_append {body : Text} (h : BlockBody body) (rest : Text) :
    readToStarSlash (body ++ '*' :: '/' :: rest) = some (body ++ ['*', '/'], rest) := by
  induction body with
  | nil => simp [readToStarSlash]
  | cons c body ih =>
    obtain ⟨hfirst, hbody⟩ := blockBody_cons.1 h
    -- one character further the text is that of the rest, whose first character is no slash here
    cases body with
    | nil =>
      rw [List.cons_append, List.nil_append, readToStarSlash, if_neg (by simp)]
      simp [readToStarSlash, prepend]
    | cons d body =>
      rw [List.cons_append, List.cons_append, readToStarSlash, if_neg (by simpa using hfirst),
        ← List.cons_append, ih hbody]
      rfl

theorem exists_body_of_readToStarSlash {t lexeme rest : Text}
    (h : readToStarSlash t = some (lexeme, rest)) :
    ∃ body, BlockBody body ∧ lexeme = body ++ ['*', '/'] := by
  fun_induction readToStarSlash t generalizing lexeme rest with
  | case1 => simp at h
  | case2 => simp at h
  | case3 c d _ hend =>
    simp only [Option.some.injEq, Prod.mk.injEq] at h
    simp only [Bool.and_eq_true, decide_eq_true_eq] at hend
    exact ⟨[], by simp [BlockBody], by simp [← h.1, hend.1, hend.2]⟩
  | case4 c d behind hend ih =>
    obtain ⟨tail, ht, rfl⟩ := prepend_eq_some_iff.1 h
    obtain ⟨body, hbody, rfl⟩ := ih ht
    have hread := readToStarSlash_eq_some ht
    refine ⟨c :: body, blockBody_cons.2 ⟨?_, hbody⟩, rfl⟩
    rintro ⟨rfl, hslash⟩
    refine hend ?_
    cases body with
    | nil => simp at hslash
    | cons e body =>
      rw [List.cons_append, List.cons_append] at hread
      simp only [List.head?_cons, Option.some.injEq] at hslash
      simp [(List.cons.inj hread).1, hslash]

/-- The texts of comments, each with what may stand behind it: a line comment goes on to the end of
its line. -/
inductive Comment : Text → Text → Prop
  | line {body rest : Text} (inside : ∀ c ∈ body, withinLine c = true)
      (ends : StopsAt withinLine rest) : Comment ('/' :: '/' :: body) rest
  | block {body : Text} (inside : BlockBody body) (rest : Text) :
      Comment ('/' :: '*' :: (body ++ ['*', '/'])) rest

/-- A comment is read exactly if one stands there. -/
theorem readComment_eq_some_iff {t lexeme rest : Text} :
    readComment t = some (lexeme, rest) ↔ Comment lexeme rest ∧ t = lexeme ++ rest := by
  constructor
  · intro h
    refine ⟨?_, readComment_eq_some h⟩
    unfold readComment at h
    split at h
    · simp only [Option.some.injEq, Prod.mk.injEq] at h
      obtain ⟨rfl, rfl⟩ := h
      exact .line (fun _ h => List.mem_takeWhile_imp h) (stopsAt_dropWhile _ _)
    · obtain ⟨tail, ht, rfl⟩ := prepend_eq_some_iff.1 h
      obtain ⟨body, hbody, rfl⟩ := exists_body_of_readToStarSlash ht
      exact .block hbody rest
    · simp at h
  · rintro ⟨hcomment, rfl⟩
    cases hcomment with
    | line inside ends =>
      rw [List.cons_append, List.cons_append, readComment, takeWhile_run inside ends,
        dropWhile_run inside ends]
    | block inside rest =>
      rw [List.cons_append, List.cons_append, List.append_assoc, readComment, prepend_eq_some_iff]
      exact ⟨_, readToStarSlash_append inside rest, rfl⟩

/-! ### Regular expression literals -/

/-- What stands in a regular expression, from outside a character class or from inside one:
plain characters, escapes, and character classes, in which a slash is plain as well. -/
inductive RegexBody : Bool → Text → Prop
  | nil : RegexBody false []
  | escape {inClass : Bool} (c : Char) {rest : Text} (more : RegexBody inClass rest) :
      RegexBody inClass ('\\' :: c :: rest)
  | plain {c : Char} {rest : Text} (usual : c ∉ ['\\', '\n', '/', '[']) (more : RegexBody false rest) :
      RegexBody false (c :: rest)
  | opens {rest : Text} (more : RegexBody true rest) : RegexBody false ('[' :: rest)
  | inside {c : Char} {rest : Text} (usual : c ∉ ['\\', '\n', ']']) (more : RegexBody true rest) :
      RegexBody true (c :: rest)
  | closes {rest : Text} (more : RegexBody false rest) : RegexBody true (']' :: rest)

theorem readRegexBody_escape (inClass : Bool) (c : Char) (rest : Text) :
    readRegexBody inClass ('\\' :: c :: rest) = prepend ['\\', c] (readRegexBody inClass rest) := by
  rw [readRegexBody.eq_def]
  simp

theorem readRegexBody_close (rest : Text) :
    readRegexBody false ('/' :: rest) = some (['/'], rest) := by
  rw [readRegexBody.eq_def]
  simp

/-- Every other character of a line is taken, and may open or close a class. -/
theorem readRegexBody_plain {inClass : Bool} {c : Char} (unescaped : c ≠ '\\') (within : c ≠ '\n')
    (inside : inClass = false → c ≠ '/') (rest : Text) :
    readRegexBody inClass (c :: rest)
      = prepend [c] (readRegexBody (if inClass then c != ']' else c = '[') rest) := by
  have hend : ¬ ((!inClass && decide (c = '/')) = true) := by
    cases inClass with
    | true => simp
    | false => simpa using inside rfl
  rw [readRegexBody.eq_def]
  simp only [unescaped, within, if_false]
  rw [if_neg hend]

theorem readRegexBody_append {inClass : Bool} {body : Text} (h : RegexBody inClass body) (rest : Text) :
    readRegexBody inClass (body ++ '/' :: rest) = some (body ++ ['/'], rest) := by
  induction h with
  | nil => exact readRegexBody_close rest
  | escape c _ ih =>
    rw [List.cons_append, List.cons_append, readRegexBody_escape, ih]
    rfl
  | @plain c _ usual _ ih =>
    simp only [List.mem_cons, List.not_mem_nil, or_false, not_or] at usual
    obtain ⟨hslash, hbreak, hend, hopen⟩ := usual
    rw [List.cons_append, readRegexBody_plain hslash hbreak fun _ => hend]
    simp [hopen, ih, prepend]
  | opens _ ih =>
    rw [List.cons_append, readRegexBody_plain (by decide) (by decide) fun _ => by decide]
    simp [ih, prepend]
  | @inside c _ usual _ ih =>
    simp only [List.mem_cons, List.not_mem_nil, or_false, not_or] at usual
    obtain ⟨hslash, hbreak, hclose⟩ := usual
    rw [List.cons_append, readRegexBody_plain hslash hbreak (by simp)]
    have hstays : (c != ']') = true := by simpa using hclose
    simp [hstays, ih, prepend]
  | closes _ ih =>
    rw [List.cons_append, readRegexBody_plain (by decide) (by decide) (by simp)]
    simp [ih, prepend]

theorem exists_body_of_readRegexBody {inClass : Bool} {t lexeme rest : Text}
    (h : readRegexBody inClass t = some (lexeme, rest)) :
    ∃ body, RegexBody inClass body ∧ lexeme = body ++ ['/'] := by
  -- an escape, the slash that ends the body, or a character that may open or close a class
  fun_induction readRegexBody inClass t generalizing lexeme rest with
  | case1 => simp at h
  | case2 => simp at h
  | case3 inClass d after ih =>
    obtain ⟨tail, ht, rfl⟩ := prepend_eq_some_iff.1 h
    obtain ⟨body, hbody, rfl⟩ := ih ht
    exact ⟨'\\' :: d :: body, .escape d hbody, rfl⟩
  | case4 => simp at h
  | case5 inClass c rest' _ _ hend =>
    simp only [Option.some.injEq, Prod.mk.injEq] at h
    simp only [Bool.and_eq_true, Bool.not_eq_true', decide_eq_true_eq] at hend
    obtain ⟨rfl, rfl⟩ := hend
    exact ⟨[], .nil, h.1.symm⟩
  | case6 inClass c rest' hslash hbreak hend ih =>
    obtain ⟨tail, ht, rfl⟩ := prepend_eq_some_iff.1 h
    obtain ⟨body, hbody, rfl⟩ := ih ht
    refine ⟨c :: body, ?_, rfl⟩
    cases inClass with
    | true =>
      by_cases hclose : c = ']'
      · subst hclose
        exact .closes (by simpa using hbody)
      · have hstays : (c != ']') = true := by simpa using hclose
        exact .inside (by simp [hslash, hbreak, hclose]) (by simpa [hstays] using hbody)
    | false =>
      have hopen : c ≠ '/' := by simpa using hend
      by_cases hclass : c = '['
      · subst hclass
        exact .opens (by simpa using hbody)
      · exact .plain (by simp [hslash, hbreak, hopen, hclass]) (by simpa [hclass] using hbody)

/-- The texts of regular expressions, each with what may stand behind it: no further letter of its
flags. -/
inductive RegexLiteral : Text → Text → Prop
  | intro {body flags rest : Text} (nonempty : body ≠ [])
      (noComment : StopsAt (fun c => c = '/' || c = '*') body) (inside : RegexBody false body)
      (letters : ∀ c ∈ flags, c.isAlpha = true) (ends : StopsAt Char.isAlpha rest) :
      RegexLiteral ('/' :: (body ++ '/' :: flags)) rest

theorem readRegexLiteral_eq_some_iff {t lexeme rest : Text} :
    readRegexLiteral t = some (lexeme, rest) ↔ RegexLiteral lexeme rest ∧ t = lexeme ++ rest := by
  constructor
  · intro h
    refine ⟨?_, readRegexLiteral_eq_some h⟩
    unfold readRegexLiteral at h
    split at h
    · next c tail =>
      split at h
      · simp at h
      · next hfirst =>
        obtain ⟨⟨l, r⟩, hl, heq⟩ := Option.map_eq_some_iff.1 h
        simp only [Prod.mk.injEq] at heq
        obtain ⟨rfl, rfl⟩ := heq
        obtain ⟨body, hbody, rfl⟩ := exists_body_of_readRegexBody hl
        have hread := readRegexBody_eq_some hl
        -- the first character, which is neither a slash nor a star, belongs to the body
        have hne : body ≠ [] := by
          rintro rfl
          simp only [List.nil_append, List.cons_append] at hread
          simp [(List.cons.inj hread).1] at hfirst
        have hcomment : StopsAt (fun c => c = '/' || c = '*') body := by
          obtain ⟨d, more, rfl⟩ := List.exists_cons_of_ne_nil hne
          rw [List.cons_append, List.cons_append] at hread
          rw [stopsAt_cons, ← (List.cons.inj hread).1]
          simpa using hfirst
        have hliteral := RegexLiteral.intro hne hcomment hbody
          (fun _ h => List.mem_takeWhile_imp (l := r) h) (stopsAt_dropWhile Char.isAlpha r)
        simpa using hliteral
    · simp at h
  · rintro ⟨@⟨body, flags, _, hne, hfirst, hbody, hflags, hends⟩, rfl⟩
    have hread := readRegexBody_append hbody (flags ++ rest)
    obtain ⟨c, more, rfl⟩ := List.exists_cons_of_ne_nil hne
    have hc := stopsAt_cons.1 hfirst
    simp only [List.cons_append, List.append_assoc] at hread ⊢
    simp only [Bool.or_eq_false_iff, decide_eq_false_iff_not] at hc
    rw [readRegexLiteral, if_neg (by simpa using hc), hread]
    simp [takeWhile_run hflags hends, dropWhile_run hflags hends]

/-- A regular expression is read exactly if one stands there, with blanks before it, behind one of its
punctuators. -/
theorem readRegex_eq_some_iff {previous : Option Char} {t lexeme rest : Text} :
    readRegex previous t = some (lexeme, rest) ↔
      previous.any startsExpression = true ∧ ∃ (gap : Blanks) (literal : Text),
        lexeme = gap.1 ++ literal ∧ RegexLiteral literal rest ∧ t = lexeme ++ rest := by
  rw [readRegex]
  constructor
  · intro h
    split at h
    · next hprevious =>
      refine ⟨hprevious, ?_⟩
      obtain ⟨gap, ht, _, hgap⟩ := exists_blanks t
      obtain ⟨literal, hliteral, rfl⟩ := prepend_eq_some_iff.1 h
      obtain ⟨hregex, hskip⟩ := readRegexLiteral_eq_some_iff.1 hliteral
      refine ⟨gap, literal, by rw [hgap], hregex, ?_⟩
      conv => lhs; rw [ht, hskip]
      rw [hgap, List.append_assoc]
    · simp at h
  · rintro ⟨hprevious, gap, literal, rfl, hregex, rfl⟩
    have hstop : StopsAt Text.isBlank (literal ++ rest) := by
      cases hregex
      rw [List.cons_append, stopsAt_cons]
      decide
    rw [if_pos hprevious, List.append_assoc, takeWhile_blanks gap hstop, skipBlanks_append gap hstop,
      readRegexLiteral_eq_some_iff.2 ⟨hregex, rfl⟩]
    rfl

end SpecifierLint.Source
