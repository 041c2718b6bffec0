/-
Texts that differ at the ends of specifiers.

Two texts are alike if one comes from the other by giving some literals another extension, or none.  A
reader that goes through such a literal, because it started somewhere before it, does not notice: an
extension has no quote, no backslash, no line break and no other character that ends or opens anything.
So a lexeme starts in one text only if one starts in the other.  Main statements:

* **`Automaton.run_alike`** — a reader that an extension leaves as it is ends in both texts or in
  neither;
* **`readString_alike`** — a string literal is read in both texts;
* **`readString_none_alike`**, **`readTemplate_none_alike`**, **`readComment_none_alike`**,
  **`readRegex_none_alike`** — where no lexeme starts, none starts after the rewording.
-/
import SpecifierLint.Proofs.Source.Tokens

namespace SpecifierLint.Source

/-! ### Alike texts -/

/-- A character of an extension. -/
def isTailChar (c : Char) : Bool := c.isAlphanum || c = '_' || c = '-' || c = '.'

/-- What may stand at the end of a specifier: nothing, or an extension with its point. -/
structure IsTail (tail : Text) : Prop where
  usual : ∀ c ∈ tail, isTailChar c = true
  point : tail = [] ∨ ∃ rest, tail = '.' :: rest

/-- Up to its end, the text holds a brace that closes and `from` behind it: in front of a quote, both
could end a clause that was opened before the text. -/
def ExposesFrom (t : Text) : Prop :=
  Text.trimBlanks ((t.dropWhile (· != '\x7d')).drop 1) = "from"

/-- The second text is the first one with some literals reworded at their ends.  The first argument says
where the texts start: outside of a reworded literal, or inside of one, behind some of its characters. -/
inductive Alike : Option Text → Text → Text → Prop
  | done : Alike none [] []
  | same (c : Char) {t u : Text} (more : Alike none t u) : Alike none (c :: t) (c :: u)
  | opens {q : Char} {t u : Text} (isQuote : isQuote q = true) (more : Alike (some []) t u) :
      Alike none (q :: t) (q :: u)
  | within {front : Text} {c : Char} {t u : Text} (unescaped : c ≠ '\\')
      (more : Alike (some (front ++ [c])) t u) : Alike (some front) (c :: t) (c :: u)
  | changed {front old new : Text} {q : Char} {t u : Text} (isOld : IsTail old) (isNew : IsTail new)
      (hidden : new = [] → old = [] ∨ ¬ ExposesFrom front) (isQuote : isQuote q = true)
      (more : Alike none t u) : Alike (some front) (old ++ q :: t) (new ++ q :: u)

/-- Behind more characters, the place is as far outside or inside a literal as before. -/
def Follows (k : Option Text) (w : Text) (k' : Option Text) : Prop :=
  (k = none → k' = none) ∧ ∀ front, k = some front → k' = some (front ++ w)

theorem usual_of_all {w : Text} (h : w.all (fun c => !isQuote c && c != '.') = true) :
    ∀ c ∈ w, isQuote c = false ∧ c ≠ '.' := by
  intro c hc
  simpa using List.all_eq_true.1 h c hc

namespace Alike

theorem append_same (w : Text) {t u : Text} (h : Alike none t u) : Alike none (w ++ t) (w ++ u) := by
  induction w with
  | nil => exact h
  | cons c w ih => exact .same c ih

theorem head?_eq {t u : Text} (h : Alike none t u) : t.head? = u.head? := by
  cases h with
  | done => rfl
  | same _ _ => rfl
  | opens _ _ => rfl

/-- Where the second text goes on with neither a quote nor a point, so does the first. -/
theorem of_cons {k : Option Text} {t u : Text} {c : Char} (h : Alike k t (c :: u))
    (hquote : isQuote c = false) (hpoint : c ≠ '.') :
    ∃ s k', t = c :: s ∧ Alike k' s u ∧ Follows k [c] k' := by
  generalize hu : c :: u = v at h
  cases h with
  | done => simp at hu
  | same d more =>
    obtain ⟨rfl, rfl⟩ := List.cons.inj hu
    exact ⟨_, none, rfl, more, fun _ => rfl, fun _ hk => by simp at hk⟩
  | opens isQuote _ =>
    obtain ⟨rfl, rfl⟩ := List.cons.inj hu
    rw [isQuote] at hquote
    exact absurd hquote (by simp)
  | @within front d _ _ unescaped more =>
    obtain ⟨rfl, rfl⟩ := List.cons.inj hu
    refine ⟨_, some (front ++ [c]), rfl, more, fun hk => by simp at hk, fun f hk => ?_⟩
    rw [Option.some.inj hk]
  | changed _ isNew _ isQuote _ =>
    -- the tail starts with a point, and what is behind it with a quote
    rcases isNew.point with rfl | ⟨rest, rfl⟩
    · obtain ⟨rfl, _⟩ := List.cons.inj hu
      rw [isQuote] at hquote
      exact absurd hquote (by simp)
    · exact absurd (List.cons.inj hu).1 hpoint

theorem of_append {k : Option Text} {t u w : Text} (h : Alike k t (w ++ u))
    (hw : ∀ c ∈ w, isQuote c = false ∧ c ≠ '.') :
    ∃ s k', t = w ++ s ∧ Alike k' s u ∧ Follows k w k' := by
  induction w generalizing k t with
  | nil => exact ⟨t, k, rfl, h, fun hk => hk, fun front hk => by rw [List.append_nil, hk]⟩
  | cons c w ih =>
    obtain ⟨⟨hquote, hpoint⟩, hw⟩ := List.forall_mem_cons.1 hw
    obtain ⟨s, k₁, rfl, hs, hnone, hsome⟩ := h.of_cons hquote hpoint
    obtain ⟨r, k₂, rfl, hr, hnone', hsome'⟩ := ih hs hw
    refine ⟨r, k₂, rfl, hr, fun hk => hnone' (hnone hk), fun front hk => ?_⟩
    rw [hsome' _ (hsome front hk), List.append_assoc, List.singleton_append]

end Alike

/-! ### Readers as automata -/

/-- What a character does to a reader. -/
inductive Verdict (σ : Type) where
  | fails
  | ends
  | goes (state : σ)

/-- A reader that goes from character to character.  It is calm in a state that does not come from a
backslash, and a calm reader does not notice the character of an extension that is followed by a
quote. -/
structure Automaton (σ : Type) where
  step : σ → Char → Verdict σ
  calm : σ → Prop
  calm_of_step : ∀ {s s' c}, c ≠ '\\' → step s c = .goes s' → calm s'
  blind : ∀ {s c q}, calm s → isTailChar c = true → isQuote q = true →
    ∃ s', step s c = .goes s' ∧ step s' q = step s q

namespace Automaton

variable {σ : Type} (m : Automaton σ)

/-- Runs a reader, and gives what is behind its end. -/
def run (s : σ) : Text → Option Text
  | [] => none
  | c :: rest =>
    match m.step s c with
    | .fails => none
    | .ends => some rest
    | .goes s' => run s' rest

theorem run_ends {s : σ} {c : Char} (h : m.step s c = .ends) (rest : Text) :
    m.run s (c :: rest) = some rest := by
  rw [run, h]

theorem run_goes {s s' : σ} {c : Char} (h : m.step s c = .goes s') (rest : Text) :
    m.run s (c :: rest) = m.run s' rest := by
  rw [run, h]

theorem run_fails {s : σ} {c : Char} (h : m.step s c = .fails) (rest : Text) :
    m.run s (c :: rest) = none := by
  rw [run, h]

theorem run_tail {s : σ} (hs : m.calm s) {tail : Text} (htail : ∀ c ∈ tail, isTailChar c = true)
    {q : Char} (hq : isQuote q = true) (t : Text) : m.run s (tail ++ q :: t) = m.run s (q :: t) := by
  induction tail generalizing s with
  | nil => rfl
  | cons c tail ih =>
    obtain ⟨hc, htail⟩ := List.forall_mem_cons.1 htail
    obtain ⟨s', hstep, hsame⟩ := m.blind hs hc hq
    have hcalm : m.calm s' := by
      refine m.calm_of_step ?_ hstep
      rintro rfl
      exact absurd hc (by decide)
    rw [List.cons_append, m.run_goes hstep, ih hcalm htail, run, run, hsame]

/-- A reader that an extension leaves as it is ends in both texts or in neither. -/
theorem run_alike {k : Option Text} {t u rest : Text} (h : Alike k t u) {s : σ}
    (hs : k ≠ none → m.calm s) (hrun : m.run s u = some rest) :
    ∃ rest' k', m.run s t = some rest' ∧ Alike k' rest' rest := by
  -- one character of both texts, if the texts behind it are alike
  have hcons {k : Option Text} {c : Char} {t u : Text} (more : Alike k t u) {s : σ}
      (ih : ∀ {s : σ}, (k ≠ none → m.calm s) → m.run s u = some rest →
        ∃ rest' k', m.run s t = some rest' ∧ Alike k' rest' rest)
      (hc : k ≠ none → c ≠ '\\') (hrun : m.run s (c :: u) = some rest) :
      ∃ rest' k', m.run s (c :: t) = some rest' ∧ Alike k' rest' rest := by
    cases hstep : m.step s c with
    | fails =>
      rw [m.run_fails hstep] at hrun
      exact absurd hrun (by simp)
    | ends =>
      rw [m.run_ends hstep] at hrun ⊢
      cases hrun
      exact ⟨t, k, rfl, more⟩
    | goes s' =>
      rw [m.run_goes hstep] at hrun ⊢
      exact ih (fun hk => m.calm_of_step (hc hk) hstep) hrun
  induction h generalizing s with
  | done => exact absurd hrun (by simp [run])
  | same c more ih => exact hcons more ih (by simp) hrun
  | opens isQuote more ih => exact hcons more ih (fun _ => ne_backslash_of_isQuote isQuote) hrun
  | within unescaped more ih => exact hcons more ih (fun _ => unescaped) hrun
  | changed isOld isNew _ isQuote more ih =>
    have hcalm := hs (by simp)
    rw [m.run_tail hcalm isNew.usual isQuote] at hrun
    rw [m.run_tail hcalm isOld.usual isQuote]
    exact hcons more ih (by simp) hrun

end Automaton

/-! ### The readers of lexemes -/

/-- The characters of an extension are none of those that a lexeme gives a meaning. -/
theorem ne_of_isTailChar {c : Char} (h : isTailChar c = true) :
    c ∉ ['\\', '\n', '/', '*', '[', ']', '"', '\'', '\x60', '\x7d'] := by
  intro hc
  simp only [List.mem_cons, List.not_mem_nil, or_false] at hc
  rcases hc with rfl | rfl | rfl | rfl | rfl | rfl | rfl | rfl | rfl | rfl
  all_goals exact absurd h (by decide)

theorem isTailChar_of_isQuote {q : Char} (h : isQuote q = true) : isTailChar q = false := by
  simp only [isQuote, Bool.or_eq_true, decide_eq_true_eq] at h
  rcases h with rfl | rfl
  · decide
  · decide

theorem withinLine_of_isTailChar {c : Char} (h : isTailChar c = true) : withinLine c = true := by
  have hne := ne_of_isTailChar h
  simp only [List.mem_cons, not_or] at hne
  exact bne_iff_ne.2 hne.2.1

/-- The reader of a quoted body; its state says whether a backslash takes the next character along. -/
def quotedReader (allowed : Char → Bool) (close : Char) (hclose : isTailChar close = false)
    (hallowed : ∀ c, isTailChar c = true → allowed c = true) : Automaton Bool where
  step escaped c :=
    if escaped then .goes false
    else if c = close then .ends
    else if c = '\\' then .goes true
    else if allowed c then .goes false
    else .fails
  calm escaped := escaped = false
  calm_of_step {escaped _ c} hc h := by
    split at h
    · cases h; rfl
    · split at h
      · exact absurd h (by simp)
      · split at h
        · cases h; rfl
        · exact absurd h (by simp)
  blind {escaped c q} hcalm hc hq := by
    have hne : c ≠ close := by
      rintro rfl
      rw [hc] at hclose
      exact absurd hclose (by simp)
    have hslash : c ≠ '\\' := fun h => ne_of_isTailChar hc (by simp [h])
    exact ⟨false, by simp [hcalm, hne, hslash, hallowed c hc], by rw [hcalm]⟩

/-- What a character does to the reader of a regular expression.  Its state says whether it is inside a
character class, and whether a backslash takes the next character along. -/
def regexStep (s : Bool × Bool) (c : Char) : Verdict (Bool × Bool) :=
  if s.2 then .goes (s.1, false)
  else if c = '\\' then .goes (s.1, true)
  else if c = '\n' then .fails
  else if !s.1 && c = '/' then .ends
  else .goes (if s.1 then c != ']' else c = '[', false)

/-- The reader of a regular expression. -/
def regexReader : Automaton (Bool × Bool) where
  step := regexStep
  calm s := s.2 = false
  calm_of_step {s _ c} hc h := by
    rw [regexStep] at h
    split at h
    · cases h; rfl
    · split at h
      · exact absurd h (by simp)
      · split at h
        · exact absurd h (by simp)
        · cases h; rfl
  blind {s c q} hcalm hc hq := by
    obtain ⟨inClass, escaped⟩ := s
    have hne := ne_of_isTailChar hc
    simp only [List.mem_cons, List.not_mem_nil, or_false, not_or] at hne
    refine ⟨(inClass, false), ?_, ?_⟩
    · rw [show escaped = false from hcalm]
      cases inClass <;> simp [regexStep, hne]
    · rw [show escaped = false from hcalm]

theorem regexReader_step : regexReader.step = regexStep := rfl

/-- The reader of a block comment; its state says whether the last character was a star. -/
def commentReader : Automaton Bool where
  step star c := if star && c = '/' then .ends else .goes (c = '*')
  calm _ := True
  calm_of_step _ _ := trivial
  blind {star c q} _ hc hq := by
    have hne := ne_of_isTailChar hc
    have hq : q ≠ '/' := ne_of_isQuote hq (by decide)
    simp only [List.mem_cons, List.not_mem_nil, or_false, not_or] at hne
    exact ⟨false, by simp [hne], by simp [hq]⟩

theorem map_rest_prepend (front : Text) (read : Option (Text × Text)) :
    (prepend front read).map (·.2) = read.map (·.2) := by
  cases read with
  | none => rfl
  | some _ => rfl

theorem readQuoted_eq_run {allowed : Char → Bool} {close : Char} (hclose : isTailChar close = false)
    (hallowed : ∀ c, isTailChar c = true → allowed c = true) (t : Text) :
    (readQuoted allowed close t).map (·.2)
      = (quotedReader allowed close hclose hallowed).run false t := by
  fun_induction readQuoted allowed close t with
  | case1 => rfl
  | case2 rest => rw [Automaton.run_ends _ (by simp [quotedReader])]; rfl
  | case3 hne => rw [Automaton.run_goes _ (by simp [quotedReader, hne]; rfl)]; rfl
  | case4 d after hne ih =>
    rw [map_rest_prepend, ih, Automaton.run_goes _ (by simp [quotedReader, hne]; rfl),
      Automaton.run_goes _ (by simp [quotedReader]; rfl)]
  | case5 c rest hne hslash hc ih =>
    rw [map_rest_prepend, ih, Automaton.run_goes _ (by simp [quotedReader, hne, hslash, hc]; rfl)]
  | case6 c rest hne hslash hc =>
    rw [Automaton.run_fails _ (by simp [quotedReader, hne, hslash, hc])]
    rfl

theorem readRegexBody_eq_run (inClass : Bool) (t : Text) :
    (readRegexBody inClass t).map (·.2) = regexReader.run (inClass, false) t := by
  fun_induction readRegexBody inClass t with
  | case1 => rfl
  | case2 => rfl
  | case3 inClass d after ih =>
    rw [map_rest_prepend, ih]
    rfl
  | case4 => rfl
  | case5 inClass c rest hslash hbreak hend =>
    have hstep : regexReader.step (inClass, false) c = .ends := by
      rw [regexReader_step, regexStep, if_neg (by simp), if_neg hslash, if_neg hbreak, if_pos hend]
    rw [regexReader.run_ends hstep]
    rfl
  | case6 inClass c rest hslash hbreak hend ih =>
    have hstep : regexReader.step (inClass, false) c
        = .goes (if inClass then c != ']' else c = '[', false) := by
      rw [regexReader_step, regexStep, if_neg (by simp), if_neg hslash, if_neg hbreak, if_neg hend]
    rw [map_rest_prepend, ih, regexReader.run_goes hstep]

theorem readToStarSlash_eq_run (t : Text) :
    (readToStarSlash t).map (·.2) = commentReader.run false t := by
  fun_induction readToStarSlash t with
  | case1 => rfl
  | case2 => rfl
  | case3 c d rest h =>
    simp only [Bool.and_eq_true, decide_eq_true_eq] at h
    obtain ⟨rfl, rfl⟩ := h
    rfl
  | case4 c d rest h ih =>
    rw [map_rest_prepend, ih]
    simp only [Bool.and_eq_true, decide_eq_true_eq] at h
    simp [Automaton.run, commentReader, h]

/-- A lexeme that starts in a calm state is read in the first text if it is read in the second. -/
theorem Automaton.read_alike {σ : Type} (m : Automaton σ) {s : σ} (hs : m.calm s)
    {read : Text → Option (Text × Text)} (hread : ∀ t, (read t).map (·.2) = m.run s t)
    {k : Option Text} {t u lexeme rest : Text} (h : Alike k t u) (hu : read u = some (lexeme, rest)) :
    ∃ lexeme' rest' k', read t = some (lexeme', rest') ∧ Alike k' rest' rest := by
  have hrun : m.run s u = some rest := by
    rw [← hread, hu]
    rfl
  obtain ⟨rest', k', ht, hrest⟩ := m.run_alike h (fun _ => hs) hrun
  rw [← hread, Option.map_eq_some_iff] at ht
  obtain ⟨⟨lexeme', rest''⟩, ht, rfl⟩ := ht
  exact ⟨lexeme', rest'', k', ht, hrest⟩

theorem readQuoted_alike {allowed : Char → Bool} {close : Char} (hclose : isTailChar close = false)
    (hallowed : ∀ c, isTailChar c = true → allowed c = true) {k : Option Text} {t u lexeme rest : Text}
    (h : Alike k t u) (hu : readQuoted allowed close u = some (lexeme, rest)) :
    ∃ lexeme' rest' k', readQuoted allowed close t = some (lexeme', rest') ∧ Alike k' rest' rest :=
  (quotedReader allowed close hclose hallowed).read_alike rfl (readQuoted_eq_run hclose hallowed) h hu

/-! ### Lexemes at the front of alike texts -/

/-- Behind a quote at the front of both, alike texts are alike. -/
theorem Alike.of_quote {k : Option Text} {q : Char} {t u : Text} (h : Alike k (q :: t) (q :: u))
    (hq : isQuote q = true) : ∃ k', Alike k' t u := by
  generalize ht : q :: t = t' at h
  generalize hu : q :: u = u' at h
  have hpoint : q ≠ '.' := ne_of_isQuote hq (by decide)
  cases h with
  | done => simp at ht
  | same c more =>
    obtain ⟨⟨-, rfl⟩, -, rfl⟩ := And.intro (List.cons.inj ht) (List.cons.inj hu)
    exact ⟨none, more⟩
  | opens isQuote more =>
    obtain ⟨⟨-, rfl⟩, -, rfl⟩ := And.intro (List.cons.inj ht) (List.cons.inj hu)
    exact ⟨some [], more⟩
  | within unescaped more =>
    obtain ⟨⟨-, rfl⟩, -, rfl⟩ := And.intro (List.cons.inj ht) (List.cons.inj hu)
    exact ⟨some _, more⟩
  | changed isOld isNew _ _ more =>
    rcases isOld.point with rfl | ⟨_, rfl⟩
    · rcases isNew.point with rfl | ⟨_, rfl⟩
      · obtain ⟨⟨-, rfl⟩, -, rfl⟩ := And.intro (List.cons.inj ht) (List.cons.inj hu)
        exact ⟨none, more⟩
      · exact absurd (List.cons.inj hu).1 hpoint
    · exact absurd (List.cons.inj ht).1 hpoint

theorem readString_alike {k : Option Text} {t u lexeme rest : Text} (h : Alike k t u)
    (hhead : t.head? = u.head?) (hu : readString u = some (lexeme, rest)) :
    ∃ lexeme' rest' k', readString t = some (lexeme', rest') ∧ Alike k' rest' rest := by
  cases u with
  | nil => exact absurd hu (by simp [readString])
  | cons q u =>
    obtain ⟨t, rfl⟩ := List.head?_eq_some_iff.1 hhead
    rw [readString] at hu
    split at hu
    · next hq =>
      obtain ⟨k', more⟩ := h.of_quote hq
      obtain ⟨body, hbody, rfl⟩ := prepend_eq_some_iff.1 hu
      obtain ⟨body', rest', k'', ht, hrest⟩ :=
        readQuoted_alike (isTailChar_of_isQuote hq) (fun _ => withinLine_of_isTailChar) more hbody
      refine ⟨q :: body', rest', k'', ?_, hrest⟩
      rw [readString, if_pos hq, ht]
      rfl
    · exact absurd hu (by simp)

section

variable {t u : Text}

theorem readString_none_alike (h : Alike none t u) (hnone : readString t = none) :
    readString u = none := by
  rw [Option.eq_none_iff_forall_ne_some] at hnone ⊢
  rintro ⟨lexeme, rest⟩ hu
  obtain ⟨_, _, _, ht, _⟩ := readString_alike h h.head?_eq hu
  exact hnone _ ht

theorem readTemplate_none_alike (h : Alike none t u) (hnone : readTemplate t = none) :
    readTemplate u = none := by
  rw [Option.eq_none_iff_forall_ne_some] at hnone ⊢
  rintro ⟨lexeme, rest⟩ hu
  unfold readTemplate at hu
  split at hu
  · next v =>
    obtain ⟨s, k, rfl, hs, _⟩ := h.of_cons (by decide) (by decide)
    obtain ⟨body, hbody, _⟩ := prepend_eq_some_iff.1 hu
    obtain ⟨body', rest', _, hread, _⟩ := readQuoted_alike (by decide) (fun _ _ => rfl) hs hbody
    refine hnone ('\x60' :: body', rest') ?_
    rw [readTemplate, hread]
    rfl
  · exact absurd hu (by simp)

theorem readComment_none_alike (h : Alike none t u) (hnone : readComment t = none) :
    readComment u = none := by
  rw [Option.eq_none_iff_forall_ne_some] at hnone ⊢
  rintro ⟨lexeme, rest⟩ hu
  have hfront {c : Char} {v : Text} (hc : c = '/' ∨ c = '*') (hv : u = ['/', c] ++ v) :
      ∃ s k, t = '/' :: c :: s ∧ Alike k s v := by
    rw [hv] at h
    obtain ⟨s, k, rfl, hs, _⟩ := h.of_append (w := ['/', c]) (usual_of_all (by
      rcases hc with rfl | rfl <;> decide))
    exact ⟨s, k, rfl, hs⟩
  unfold readComment at hu
  split at hu
  · obtain ⟨s, _, rfl, _⟩ := hfront (.inl rfl) rfl
    exact hnone _ rfl
  · obtain ⟨s, _, rfl, hs⟩ := hfront (.inr rfl) rfl
    obtain ⟨body, hbody, _⟩ := prepend_eq_some_iff.1 hu
    obtain ⟨body', rest', _, hread, _⟩ :=
      commentReader.read_alike trivial readToStarSlash_eq_run hs hbody
    refine hnone ('/' :: '*' :: body', rest') ?_
    rw [readComment, hread]
    rfl
  · exact absurd hu (by simp)

theorem usual_of_isBlank {c : Char} (h : Text.isBlank c = true) : isQuote c = false ∧ c ≠ '.' := by
  constructor
  · rw [Bool.eq_false_iff]
    intro hq
    rw [isBlank_of_isQuote hq] at h
    exact absurd h (by simp)
  · rintro rfl
    exact absurd h (by decide)

theorem readRegex_none_alike {previous : Option Char} (h : Alike none t u)
    (hnone : readRegex previous t = none) : readRegex previous u = none := by
  rw [Option.eq_none_iff_forall_ne_some]
  rintro ⟨lexeme, rest⟩ hu
  obtain ⟨hprevious, gap, literal, rfl, hliteral, rfl⟩ := readRegex_eq_some_iff.1 hu
  obtain @⟨body, flags, _, hne, hcomment, hbody, _, _⟩ := hliteral
  have hread := readRegexBody_append hbody (flags ++ rest)
  obtain ⟨c, more, rfl⟩ := List.exists_cons_of_ne_nil hne
  have hgap : ∀ x ∈ gap.1 ++ ['/'], isQuote x = false ∧ x ≠ '.' := by
    intro x hx
    rcases List.mem_append.1 hx with hx | hx
    · exact usual_of_isBlank (gap.2 x hx)
    · rw [List.mem_singleton.1 hx]
      decide
  have hsplit : gap.1 ++ '/' :: (c :: more ++ '/' :: flags) ++ rest
      = (gap.1 ++ ['/']) ++ (c :: more ++ '/' :: (flags ++ rest)) := by simp
  rw [hsplit] at h
  obtain ⟨s, k, rfl, hs, hk, _⟩ := h.of_append hgap
  obtain rfl := hk rfl
  -- outside of a literal the body starts with the same character in both texts
  obtain ⟨s, rfl⟩ := List.head?_eq_some_iff.1 hs.head?_eq
  have hcalm : regexReader.calm (false, false) := rfl
  obtain ⟨body', rest', _, hread', _⟩ :=
    regexReader.read_alike hcalm (readRegexBody_eq_run false) hs hread
  have hliteral : readRegexLiteral ('/' :: c :: s)
      = some ('/' :: body' ++ rest'.takeWhile Char.isAlpha, rest'.dropWhile Char.isAlpha) := by
    rw [readRegexLiteral, if_neg (by simpa using stopsAt_cons.1 hcomment), hread']
    rfl
  rw [readRegex, if_pos hprevious, List.append_assoc, List.singleton_append,
    skipBlanks_append gap (stopsAt_cons.2 (by decide)), hliteral] at hnone
  exact absurd hnone (by simp [prepend])

end

end SpecifierLint.Source
