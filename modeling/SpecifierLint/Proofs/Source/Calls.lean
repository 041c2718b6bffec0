/-
Calls behind plain code.

A call of `require` or `import` with a literal is reported behind any plain code that does not end in a name
or a point.  Behind a name the keyword only goes on with it, and behind a point it counts as a member, also
where the point is the last one of three that spread what follows.  Main statements:

* **`scanned_chars`** — a text at none of whose characters a token starts is scanned character by character;
* **`readForm_behind_code`** — no import form starts within plain code, also if it goes on with a call;
* **`specifiers_call`** — a call is reported exactly if the code before it does not end in a name or a
  point.
-/
import SpecifierLint.Proofs.Source.Program

namespace SpecifierLint.Source

/-! ### Characters at which no token starts -/

/-- A text at none of whose characters a token starts is scanned character by character. -/
theorem scanned_chars {t : Text} {steps : List Step} {previous : Option Char}
    (husual : ∀ c ∈ t, c ∉ ['/', '"', '\'', '\x60'])
    (hregex : readRegexLiteral (skipBlanks (textOf steps)) = none)
    (hform : ∀ front back, t = front ++ back → back ≠ [] → atKeyword (lastOf previous front) = true →
      readForm (back ++ textOf steps) = none)
    (more : Scanned (lastOf previous t) steps) : Scanned previous (t.map .char ++ steps) := by
  -- an import form is looked for at a character only if the one before it can stand before a keyword
  induction t generalizing previous with
  | nil => exact more
  | cons c t ih =>
    have hslash : '/' ∉ c :: t := fun hin => husual '/' hin (by simp)
    refine .cons ?_ (ih (fun x hx => husual x (List.mem_cons_of_mem _ hx)) ?_ ?_)
    · show readToken previous (c :: textOf (t.map .char ++ steps)) = none
      rw [textOf_append, textOf_map_char]
      refine readToken_eq_none_of_atKeyword (husual c (by simp)) ?_ ?_
      · exact readRegexLiteral_skipBlanks_eq_none hslash hregex
      · exact hform [] (c :: t) rfl (by simp)
    · intro front back hsplit hne hkeyword
      refine hform (c :: front) back (by rw [hsplit]; rfl) hne ?_
      rwa [lastOf_cons]
    · rwa [lastOf_cons] at more

/-! ### Keywords in code -/

/-- The keyword of a call, and the form that the call is. -/
inductive CallKeyword : Text → ImportKind → Prop
  | required : CallKeyword "require" .requireCall
  | dynamic : CallKeyword "import" .dynamicImport

variable {keyword p : Text} {kind : ImportKind}

theorem readForm_eq_none_of_forall {t : Text} (h : ∀ word ∈ keywords, ¬ word <+: t) :
    readForm t = none := by
  rw [Option.eq_none_iff_forall_ne_some]
  intro token hread
  obtain ⟨_, before, _, _, _, hform, _, heq⟩ := readForm_eq_some_iff.1 hread
  obtain ⟨word, hword, hbefore⟩ := hform.exists_keyword
  refine h word hword ?_
  rw [heq]
  exact hbefore.trans (List.prefix_append _ _)

/-- A word that begins before the keyword of a call and ends within it is `require` behind its first two
letters. -/
theorem eq_of_overlap (h : CallKeyword keyword kind) {u v : Text} (hword : u ++ v ∈ keywords)
    (hu : u ≠ []) (hv : v ≠ []) (hbegins : v <+: keyword) : u = "requi" ∧ keyword = "require" := by
  -- every way to cut one of the words in two is gone through
  have hall : ∀ word ∈ keywords, ∀ n ∈ List.range word.length, n ≠ 0 →
      ∀ call ∈ (["require", "import"] : List Text), word.drop n <+: call →
        word.take n = "requi" ∧ call = "require" := by
    decide +kernel
  have hcall : keyword ∈ (["require", "import"] : List Text) := by
    cases h with
    | required => simp
    | dynamic => simp
  have hlength : u.length ∈ List.range (u ++ v).length := by
    have hpos := List.length_pos_iff.2 hv
    rw [List.mem_range, List.length_append]
    omega
  have hone := hall (u ++ v) hword u.length hlength (by simpa using hu) keyword hcall
  rw [List.drop_left, List.take_left] at hone
  exact hone hbegins

theorem paren_not_mem_keyword {word : Text} (h : word ∈ keywords) : '(' ∉ word := by
  have hall : ∀ word ∈ keywords, '(' ∉ word := by decide
  exact hall word h

theorem begins_of_not_mem {v before after : Text} {c : Char} (h : v <+: before ++ c :: after)
    (hc : c ∉ v) : v <+: before := by
  rcases List.prefix_or_prefix_of_prefix h (List.prefix_append before _) with hin | ⟨more, rfl⟩
  · exact hin
  · cases more with
    | nil => simp
    | cons first more =>
      have hmore : first :: more <+: c :: after := (List.prefix_append_right_inj before).1 h
      have hfirst : first = c := (List.cons_prefix_cons.1 hmore).1
      exact absurd (by simp [hfirst]) hc

/-- No import form starts within plain code, also if the code goes on with a call. -/
theorem readForm_behind_code (h : CallKeyword keyword kind) {u : Text} (hu : u ≠ [])
    (hplain : ∀ word ∈ keywords, ¬ word <:+: u) (rest : Text) :
    readForm (u ++ (keyword ++ '(' :: rest)) = none := by
  by_cases hoverlap : u = "requi" ∧ keyword = "require"
  · rw [hoverlap.1, hoverlap.2]
    rfl
  · refine readForm_eq_none_of_forall fun word hword hbegins => hoverlap ?_
    rcases List.prefix_or_prefix_of_prefix hbegins (List.prefix_append u _) with hin | ⟨v, rfl⟩
    · exact absurd hin.isInfix (hplain word hword)
    · have hv : v ≠ [] := by
        rintro rfl
        exact hplain _ hword (by simp)
      have hopen : '(' ∉ v := fun hin => paren_not_mem_keyword hword (List.mem_append_right u hin)
      have hcall : v <+: keyword ++ '(' :: rest := (List.prefix_append_right_inj u).1 hbegins
      exact eq_of_overlap h hword hu hv (begins_of_not_mem hcall hopen)

/-- No import form starts within the keyword of a call. -/
theorem readForm_within_call (h : CallKeyword keyword kind) {front back : Text}
    (hsplit : keyword ++ ['('] = front ++ back) (hfront : front ≠ []) (hback : back ≠ []) (rest : Text) :
    readForm (back ++ rest) = none := by
  have hall : ∀ call ∈ (["require(", "import("] : List Text), ∀ n ∈ List.range call.length, n ≠ 0 →
      ∀ word ∈ keywords, ¬ word <+: call.drop n := by
    decide +kernel
  have hcall : keyword ++ ['('] ∈ (["require(", "import("] : List Text) := by
    cases h with
    | required => decide
    | dynamic => decide
  have hlength : front.length ∈ List.range (keyword ++ ['(']).length := by
    have hpos := List.length_pos_iff.2 hback
    rw [hsplit, List.mem_range, List.length_append]
    omega
  have hopen : '(' ∈ back := by
    obtain ⟨begun, c, rfl⟩ := (List.eq_nil_or_concat back).resolve_left hback
    rw [List.concat_eq_append, ← List.append_assoc] at hsplit
    have hc : '(' = c := (List.cons.inj (List.append_inj' hsplit rfl).2).1
    rw [← hc, List.concat_eq_append]
    simp
  refine readForm_eq_none_of_forall fun word hword hbegins => ?_
  -- a word that goes on behind the call would contain the parenthesis
  rcases List.prefix_or_prefix_of_prefix hbegins (List.prefix_append back rest) with hin | hover
  · have hnone := hall _ hcall _ hlength (by simpa using hfront) word hword
    rw [hsplit, List.drop_left] at hnone
    exact hnone hin
  · exact paren_not_mem_keyword hword (hover.subset hopen)

/-! ### Calls -/

/-- The text of a call with a literal. -/
def callText (keyword : Text) (l : StringLiteral) : Text := keyword ++ ['('] ++ l.text ++ [')']

/-- The code ends in a character of a name, or in a point. -/
def EndsInNameOrPoint (p : Text) : Prop :=
  ∃ c, p.getLast? = some c ∧ (isWordChar c = true ∨ c = '$' ∨ c = '.')

theorem atKeyword_getLast?_iff : atKeyword p.getLast? = false ↔ EndsInNameOrPoint p := by
  rw [atKeyword, EndsInNameOrPoint, Bool.not_eq_false', Option.any_eq_true]
  simp only [isNameChar, Bool.or_eq_true, decide_eq_true_eq, or_assoc]

theorem CallKeyword.formText (h : CallKeyword keyword kind) : FormText kind (keyword ++ ['(']) [')'] := by
  have hnone : ∀ c ∈ ([] : Text), Text.isBlank c = true := by simp
  cases h with
  | required => exact .required ⟨[], hnone⟩ ⟨[], hnone⟩ ⟨[], hnone⟩ (.inr rfl)
  | dynamic => exact .dynamic ⟨[], hnone⟩ ⟨[], hnone⟩ ⟨[], hnone⟩ (.inr rfl)

theorem CallKeyword.usual (h : CallKeyword keyword kind) :
    ∀ c ∈ keyword ++ ['('], c ∉ ['/', '"', '\'', '\x60'] := by
  cases h with
  | required => simp
  | dynamic => simp

/-- Where no regular expression starts, none does behind blanks and a call. -/
theorem CallKeyword.readRegexLiteral_eq_none (h : CallKeyword keyword kind) (rest : Text) :
    readRegexLiteral (skipBlanks (keyword ++ rest)) = none := by
  cases h with
  | required => exact readRegexLiteral_skipBlanks (by decide) (by decide)
  | dynamic => exact readRegexLiteral_skipBlanks (by decide) (by decide)

section

variable (hp : PlainCode p) (h : CallKeyword keyword kind) (l : StringLiteral)

include hp h

/-- Behind code that does not end in a name or a point the call is one step of the scan. -/
theorem scanned_call (hends : ¬ EndsInNameOrPoint p) :
    Scanned none (p.map .char ++ [.form kind (keyword ++ ['(']) l [')']]) := by
  have hkeyword : atKeyword (lastOf none p) = true := by
    rw [lastOf, Option.or_none]
    by_contra hmember
    exact hends (atKeyword_getLast?_iff.1 (Bool.eq_false_iff.2 hmember))
  have htext : textOf [.form kind (keyword ++ ['(']) l [')']] = keyword ++ '(' :: (l.text ++ [')']) := by
    simp [Step.text]
  refine scanned_chars hp.usual ?_ ?_ (.cons ⟨hkeyword, h.formText⟩ (.nil _))
  · rw [htext]
    exact h.readRegexLiteral_eq_none _
  · intro front back hsplit hback _
    rw [htext]
    refine readForm_behind_code h hback (fun word hword hin => ?_) _
    exact hp.noKeyword word hword (hin.trans (hsplit ▸ (List.suffix_append front back).isInfix))

/-- Behind code that ends in a name or a point the keyword of the call is scanned character by character, and
its literal is passed over. -/
theorem scanned_no_call (hends : EndsInNameOrPoint p) :
    Scanned none ((p ++ (keyword ++ ['('])).map .char ++ [.passed l.text, .char ')']) := by
  have hmember : atKeyword (lastOf none p) = false := by
    rw [lastOf, Option.or_none]
    exact atKeyword_getLast?_iff.2 hends
  have hclose (previous : Option Char) : Scanned previous [.char ')'] := by
    refine .cons (readToken_eq_none (by decide) ?_ (readForm_eq_none (by decide) _)) (.nil _)
    exact readRegexLiteral_skipBlanks (by decide) (by decide)
  have hmore (previous : Option Char) : Scanned previous [.passed l.text, .char ')'] :=
    .cons (TokenText.string l _) (hclose _)
  refine scanned_chars ?_ ?_ ?_ (hmore _)
  · intro c hc
    exact (List.mem_append.1 hc).elim (hp.usual c) (h.usual c)
  · exact readRegexLiteral_skipBlanks (ne_of_isQuote l.quotes (by decide)) (isBlank_of_isQuote l.quotes)
  · -- in the code, at the keyword, and within it
    intro front back hsplit hback hkeyword
    rcases List.append_eq_append_iff.1 hsplit with ⟨within, rfl, hcall⟩ | ⟨u, rfl, rfl⟩
    · by_cases hstart : within = []
      · rw [hstart, List.append_nil, hmember] at hkeyword
        exact absurd hkeyword (by simp)
      · exact readForm_within_call h hcall hstart hback _
    · by_cases hu : u = []
      · rw [hu, List.append_nil] at hmember
        rw [hmember] at hkeyword
        exact absurd hkeyword (by simp)
      · rw [List.append_assoc, List.append_assoc, List.singleton_append]
        refine readForm_behind_code h hu (fun word hword hin => ?_) _
        exact hp.noKeyword word hword (hin.trans (List.suffix_append front u).isInfix)

end

/-- A call of `require` or `import` with a literal behind plain code is reported, and nothing else is, unless
the code ends in a name or a point; then nothing is reported. -/
theorem specifiers_call {p : Text} (hp : PlainCode p) {keyword : Text} {kind : ImportKind}
    (h : CallKeyword keyword kind) (l : StringLiteral) :
    (¬ EndsInNameOrPoint p →
        specifiers (p ++ callText keyword l) = [(kind, l.behind (p ++ (keyword ++ ['('])))])
      ∧ (EndsInNameOrPoint p → specifiers (p ++ callText keyword l) = []) := by
  constructor
  · intro hends
    have htext : textOf (p.map .char ++ [.form kind (keyword ++ ['(']) l [')']]) = p ++ callText keyword l := by
      rw [textOf_append, textOf_map_char]
      simp [Step.text, callText]
    rw [← htext, specifiers_textOf (scanned_call hp h l hends), found_append, found_map_char,
      textOf_map_char]
    rfl
  · intro hends
    have htext : textOf ((p ++ (keyword ++ ['('])).map .char ++ [.passed l.text, .char ')'])
        = p ++ callText keyword l := by
      rw [textOf_append, textOf_map_char]
      simp [Step.text, callText]
    rw [← htext, specifiers_textOf (scanned_no_call hp h l hends), found_append, found_map_char]
    rfl

/-- A path in single quotes. -/
def pathLiteral : StringLiteral where
  quote := '\''
  body := "./a"
  quotes := by decide
  quoted := quotedBody_of_plain (by simp [withinLine])

/-- An open block, a list and an assignment stand before the call; the same code with a point behind it hides
the call. -/
theorem specifiers_call_bracket :
    PlainCode "if (x) \x7b y = [requi, " ∧ PlainCode "if (x) \x7b y = [requi."
      ∧ specifiers ("if (x) \x7b y = [requi, " ++ callText "import" pathLiteral)
        = [(.dynamicImport, pathLiteral.behind "if (x) \x7b y = [requi, import(")]
      ∧ specifiers ("if (x) \x7b y = [requi." ++ callText "require" pathLiteral) = [] := by
  have hlist : PlainCode "if (x) \x7b y = [requi, " := ⟨by simp, by decide +kernel⟩
  have hmember : PlainCode "if (x) \x7b y = [requi." := ⟨by simp, by decide +kernel⟩
  refine ⟨hlist, hmember, ?_, ?_⟩
  · refine (specifiers_call hlist .dynamic pathLiteral).1 ?_
    rw [← atKeyword_getLast?_iff]
    decide +kernel
  · exact (specifiers_call hmember .required pathLiteral).2 ⟨'.', by decide, .inr (.inr rfl)⟩

/-- The three points that spread a list hide the call behind them. -/
theorem spread_hides_call :
    PlainCode "[..." ∧ specifiers ("[..." ++ callText "require" pathLiteral) = []
      ∧ specifiers ("[..." ++ callText "import" pathLiteral) = [] := by
  refine ⟨⟨by simp, by decide +kernel⟩, ?_, ?_⟩
  · decide +kernel
  · decide +kernel

end SpecifierLint.Source
