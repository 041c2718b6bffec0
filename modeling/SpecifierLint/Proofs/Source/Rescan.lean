/-
Scanning a reworded text.

If some literals of a text get another extension, or none, a token starts after the rewording only where
one started before.  An import form that was none before would have to end its clause inside a reworded
literal, behind a brace that closes there, and take the quote that closes the literal for its own.
Main statements:

* **`readToken_none_alike`** — where no token starts, none starts after the rewording;
* **`scanned_reworded`** — a reworded text is scanned in the steps of the text, each with its literal
  reworded.
-/
import Mathlib.Data.List.Forall2
import SpecifierLint.Proofs.Source.Rewording
import SpecifierLint.Proofs.Source.Steps

namespace SpecifierLint.Source

/-! ### Clauses with braces -/

/-- No item is a braced list. -/
def NoBraces (items : List ClauseItem) : Prop := ∀ body, ClauseItem.braces body ∉ items

theorem usual_of_isNameChar {c : Char} (h : isNameChar c = true) :
    isQuote c = false ∧ c ≠ '.' ∧ c ≠ '\x7d' := by
  refine ⟨?_, ?_, ?_⟩
  · rw [Bool.eq_false_iff]
    intro hq
    have hclause := isClauseChar_of_isQuote hq
    simp only [isClauseChar, h, Bool.or_true, Bool.true_or] at hclause
    exact absurd hclause (by simp)
  · rintro rfl
    exact absurd h (by decide +kernel)
  · rintro rfl
    exact absurd h (by decide +kernel)

theorem Spells.usual {items : List ClauseItem} {w : Text} (h : Spells items w)
    (hitems : NoBraces items) : ∀ c ∈ w, isQuote c = false ∧ c ≠ '.' := by
  induction h with
  | nil => simp
  | blank isBlank _ ih => exact List.forall_mem_cons.2 ⟨usual_of_isBlank isBlank, ih hitems⟩
  | @item first items u t text _ _ ih =>
    have hmore := ih fun body hbody => hitems body (List.mem_cons_of_mem _ hbody)
    intro c hc
    rcases List.mem_append.1 hc with hc | hc
    · cases text with
      | name _ letters =>
        obtain ⟨hquote, hpoint, _⟩ := usual_of_isNameChar (letters c hc)
        exact ⟨hquote, hpoint⟩
      | comma =>
        rw [List.mem_singleton.1 hc]
        decide
      | star =>
        rw [List.mem_singleton.1 hc]
        decide
      | @braces body _ => exact absurd List.mem_cons_self (hitems body)
    · exact hmore c hc

namespace ClauseItem

/-- Items with at most a braced list at their end, which may be any. -/
def BracesLast (accepts : List ClauseItem → Prop) (items : List ClauseItem) : Prop :=
  NoBraces items ∨ ∃ front body, NoBraces front ∧ items = front ++ [.braces body]
    ∧ ∀ other, accepts (front ++ [.braces other])

theorem bracesLast_of_isBinding {items : List ClauseItem} (h : isBinding items = true) :
    BracesLast (isBinding · = true) items := by
  unfold isBinding at h
  split at h
  · exact .inl fun _ hb => by simp at hb
  · exact .inl fun _ hb => by simp at hb
  · exact .inl fun _ hb => by simp at hb
  · next body => exact .inr ⟨[], body, fun _ hb => by simp at hb, rfl, fun _ => rfl⟩
  · exact .inl fun _ hb => by simp at hb
  · exact absurd h (by simp)

/-- Items before those of a binding, if they are accepted there. -/
theorem BracesLast.append {accepts accepts' : List ClauseItem → Prop} {items : List ClauseItem}
    (h : BracesLast accepts items) (front : List ClauseItem) (hfront : NoBraces front)
    (haccepts : ∀ more, accepts more → accepts' (front ++ more)) :
    BracesLast accepts' (front ++ items) := by
  rcases h with h | ⟨pre, body, hpre, rfl, hother⟩
  · refine .inl fun body hb => ?_
    rcases List.mem_append.1 hb with hb | hb
    · exact hfront body hb
    · exact h body hb
  · refine .inr ⟨front ++ pre, body, fun body hb => ?_, by rw [List.append_assoc], fun other => ?_⟩
    · rcases List.mem_append.1 hb with hb | hb
      · exact hfront body hb
      · exact hpre body hb
    · rw [List.append_assoc]
      exact haccepts _ (hother other)

theorem BracesLast.mono {accepts accepts' : List ClauseItem → Prop} {items : List ClauseItem}
    (h : BracesLast accepts items) (haccepts : ∀ more, accepts more → accepts' more) :
    BracesLast accepts' items :=
  h.append [] (fun _ hb => by simp at hb) haccepts

theorem isBody_of_isBinding {items : List ClauseItem} (h : isBinding items = true) :
    isBody items = true := by
  unfold isBody
  split
  · exact absurd h (by simp [isBinding])
  · rw [h, Bool.or_true]
  · exact h

theorem isBody_name {word : Text} {items : List ClauseItem} (h : isBinding items = true) :
    isBody (.name word :: items) = true := by
  unfold isBody
  split
  · next heq =>
    cases heq
    exact absurd h (by simp [isBinding])
  · next heq =>
    cases heq
    rw [h, Bool.true_or]
  · next hname => exact absurd rfl (hname word items)

theorem noBraces_name (word : Text) : NoBraces [.name word] := by
  intro body hb
  simp at hb

theorem bracesLast_of_isBody {items : List ClauseItem} (h : isBody items = true) :
    BracesLast (isBody · = true) items := by
  unfold isBody at h
  split at h
  · next word rest =>
    exact (bracesLast_of_isBinding h).append [.name word, .comma]
      (fun _ hb => by simp at hb) fun _ hmore => hmore
  · next word rest _ =>
    rcases Bool.or_eq_true_iff.1 h with h | h
    · exact (bracesLast_of_isBinding h).append [.name word] (noBraces_name word) fun _ => isBody_name
    · exact (bracesLast_of_isBinding h).mono fun _ => isBody_of_isBinding
  · exact (bracesLast_of_isBinding h).mono fun _ => isBody_of_isBinding

theorem bracesLast_of_isClause {blankFirst : Bool} {items : List ClauseItem}
    (h : isClause blankFirst items = true) : BracesLast (isClause blankFirst · = true) items := by
  unfold isClause at h
  rcases Bool.or_eq_true_iff.1 h with h | h
  · refine (bracesLast_of_isBody h).mono fun more hmore => ?_
    simp only [isClause, hmore, Bool.true_or]
  · split at h
    · next word rest _ =>
      simp only [Bool.and_eq_true] at h
      obtain ⟨htype, hbody⟩ := h
      refine (bracesLast_of_isBody hbody).append [.name word] (noBraces_name word) fun more hmore => ?_
      show isClause blankFirst (.name word :: more) = true
      unfold isClause
      exact Bool.or_eq_true_iff.2 (.inr (Bool.and_eq_true_iff.2 ⟨Bool.and_eq_true_iff.2 htype, hmore⟩))
    · exact absurd h (by simp)

end ClauseItem

theorem stopsAt_blanks (gap : Blanks) {c : Char} {t : Text} (hc : isNameChar c = false) :
    StopsAt isNameChar (gap.1 ++ c :: t) := by
  obtain ⟨gap, hgap⟩ := gap
  cases gap with
  | nil => exact stopsAt_cons.2 hc
  | cons b gap =>
    refine stopsAt_cons.2 ?_
    rw [Bool.eq_false_iff]
    intro hname
    have hblank := hgap b (by simp)
    rw [isBlank_of_isNameChar hname] at hblank
    exact absurd hblank (by simp)

theorem trimBlanks_append (gap gap' : Blanks) {t : Text} (hne : t ≠ [])
    (hfirst : StopsAt Text.isBlank t) (hlast : StopsAt Text.isBlank t.reverse) :
    Text.trimBlanks (gap.1 ++ (t ++ gap'.1)) = t := by
  have hstops : StopsAt Text.isBlank (t ++ gap'.1) := by
    obtain ⟨c, t, rfl⟩ := List.exists_cons_of_ne_nil hne
    exact stopsAt_cons.2 (stopsAt_cons.1 hfirst)
  have hright : ∀ c ∈ gap'.1.reverse, Text.isBlank c = true := by
    intro c hc
    exact gap'.2 c (List.mem_reverse.1 hc)
  rw [Text.trimBlanks, dropWhile_run gap.2 hstops, Text.trimBlanksRight, List.reverse_append,
    dropWhile_run hright hlast, List.reverse_reverse]

theorem trimBlanks_of_spells {w : Text} (h : Spells [.name "from"] w) : Text.trimBlanks w = "from" := by
  obtain ⟨gap, word, behind, rfl, hword, hrest⟩ := spells_cons h
  obtain ⟨gap', rfl⟩ := spells_nil hrest
  cases hword
  exact trimBlanks_append gap gap' (by simp) (stopsAt_cons.2 (by decide)) (stopsAt_cons.2 (by decide))

/-- The text of a clause that ends in a braced list and its `from`; whether it starts with a blank does not
hang on the list. -/
theorem clauseText_of_braces {pre : List ClauseItem} {u list behind : Text} {gap : Blanks} (rest : Text)
    (hu : Spells pre u) (hlist : '\x7d' ∉ list) (hbehind : Spells [.name "from"] behind)
    (hclause : ClauseItem.isClause ((u ++ gap.1 ++ '\x7b' :: rest).head?.any Text.isBlank)
      (pre ++ [.braces list]) = true) :
    ClauseText (u ++ gap.1 ++ '\x7b' :: (list ++ '\x7d' :: behind)) := by
  have hspells : Spells [.braces list, .name "from"]
      (gap.1 ++ ('\x7b' :: (list ++ ['\x7d']) ++ behind)) :=
    (Spells.item (.braces hlist) trivial hbehind).blanks gap
  have hwhole := hu.append hspells (stopsAt_blanks gap (by decide +kernel))
  have hhead : (u ++ gap.1 ++ '\x7b' :: (list ++ '\x7d' :: behind)).head?
      = (u ++ gap.1 ++ '\x7b' :: rest).head? := by
    cases u ++ gap.1 <;> rfl
  refine ⟨_, _, ?_, beforeLastFrom?_append (pre ++ [.braces list]), by rw [hhead]; exact hclause⟩
  simpa only [List.append_assoc, List.cons_append, List.nil_append] using hwhole

/-- A clause has neither a quote nor a point, or it has them only in a braced list before its `from`,
and there could be any others. -/
theorem ClauseText.exists_braces {w : Text} (h : ClauseText w) :
    (∀ c ∈ w, isQuote c = false ∧ c ≠ '.')
      ∨ ∃ front body behind, w = front ++ '\x7b' :: (body ++ '\x7d' :: behind) ∧ '\x7d' ∉ body
        ∧ (∀ c ∈ front ++ behind, isQuote c = false ∧ c ≠ '.') ∧ Text.trimBlanks behind = "from"
        ∧ ∀ other, '\x7d' ∉ other →
          ClauseText (front ++ '\x7b' :: (other ++ '\x7d' :: behind)) := by
  obtain ⟨items, clause, hspells, hfrom, hclause⟩ := h
  obtain ⟨front, word, stem, rfl, hword, hsplit⟩ := exists_of_beforeLastFrom? hfrom
  rcases ClauseItem.bracesLast_of_isClause hclause with hno | ⟨pre, body, hpre, heq, hother⟩
  · -- without a braced list the items are names, commas and stars
    refine .inl (hspells.usual fun body hb => ?_)
    rcases List.mem_append.1 hb with hb | hb
    · exact hno body (by simp [hsplit, hb])
    · simp at hb
  · -- the braced list is the last item of the clause, so the `from` stands on its own
    have hstem : stem = [] := by
      cases stem with
      | nil => rfl
      | cons c stem =>
        rw [hsplit, List.isEmpty_cons, if_neg (by simp)] at heq
        have hlast := (List.append_inj' heq rfl).2
        simp at hlast
    subst hstem
    rw [List.isEmpty_nil, if_pos rfl, List.append_nil] at hsplit
    rw [List.nil_append] at hword
    subst hword
    rw [← hsplit, heq, List.append_assoc] at hspells
    obtain ⟨u, v, rfl, hu, hv⟩ := exists_spells_append hspells
    obtain ⟨gap, braces, behind, rfl, hbraces, hbehind⟩ := spells_cons hv
    have hfront (c : Char) (hc : c ∈ (u ++ gap.1) ++ behind) : isQuote c = false ∧ c ≠ '.' := by
      rcases List.mem_append.1 hc with hc | hc
      · rcases List.mem_append.1 hc with hc | hc
        · exact hu.usual hpre c hc
        · exact usual_of_isBlank (gap.2 c hc)
      · exact hbehind.usual (fun _ hb => by simp at hb) c hc
    cases hbraces with
    | braces hinside =>
      refine .inr ⟨u ++ gap.1, body, behind, by simp, hinside, hfront, trimBlanks_of_spells hbehind,
        fun other hclosed => clauseText_of_braces (body ++ '\x7d' :: behind) hu hclosed hbehind ?_⟩
      simpa only [List.append_assoc, List.cons_append, List.nil_append] using hother other

/-! ### Import forms at the front of alike texts -/

/-- What stands before the first of a character is in front of it, whatever is split off. -/
theorem exists_of_append_eq {w v body u : Text} {c : Char} (hw : c ∉ w)
    (h : w ++ v = body ++ c :: u) : ∃ more, body = w ++ more ∧ v = more ++ c :: u := by
  induction w generalizing body with
  | nil => exact ⟨body, rfl, h⟩
  | cons d w ih =>
    rw [List.mem_cons, not_or] at hw
    cases body with
    | nil => exact absurd (List.cons.inj h).1.symm hw.1
    | cons e body =>
      obtain ⟨rfl, hrest⟩ := List.cons.inj h
      obtain ⟨more, rfl, hv⟩ := ih hw.2 hrest
      exact ⟨more, rfl, hv⟩

/-- A braced list closes in the first text, and behind it comes what is alike to the second text.  If the
list closes inside a literal, then with the first brace there that closes. -/
def ClosesBefore (t u : Text) : Prop :=
  ∃ body s k, t = body ++ '\x7d' :: s ∧ '\x7d' ∉ body ∧ Alike k s u
    ∧ ∀ front, k = some front → ∃ f, front = f ++ ['\x7d'] ∧ '\x7d' ∉ f

theorem ClosesBefore.append {w t u : Text} (h : ClosesBefore t u) (hw : '\x7d' ∉ w) :
    ClosesBefore (w ++ t) u := by
  obtain ⟨body, s, k, rfl, hbody, hs, hk⟩ := h
  refine ⟨w ++ body, s, k, by rw [List.append_assoc], ?_, hs, hk⟩
  rw [List.mem_append, not_or]
  exact ⟨hw, hbody⟩

/-- A braced list that closes in the second text closes in the first. -/
theorem Alike.closesBefore {k : Option Text} {t u body : Text} (h : Alike k t (body ++ '\x7d' :: u))
    (hbody : '\x7d' ∉ body) (hk : ∀ front, k = some front → '\x7d' ∉ front) : ClosesBefore t u := by
  generalize hv : body ++ '\x7d' :: u = v at h
  have hfirst {c d : Char} {body : Text} (hc : c = d) (hbody : '\x7d' ∉ c :: body) :
      '\x7d' ∉ [d] ∧ '\x7d' ∉ body := by
    rw [← hc, ← not_or, ← List.mem_append, List.singleton_append]
    exact hbody
  induction h generalizing body with
  | done => exact absurd hv (by simp)
  | @same c t u' more ih =>
    cases body with
    | nil =>
      obtain ⟨rfl, rfl⟩ := List.cons.inj hv
      exact ⟨[], t, none, rfl, by simp, more, by simp⟩
    | cons d body =>
      obtain ⟨hc, hmore⟩ := List.cons.inj hv
      obtain ⟨hd, hbody⟩ := hfirst hc hbody
      exact (ih hbody (by simp) hmore).append hd
  | @opens q t u' isQuote more ih =>
    cases body with
    | nil => exact absurd (List.cons.inj hv).1.symm (ne_of_isQuote isQuote (by decide))
    | cons d body =>
      obtain ⟨hc, hmore⟩ := List.cons.inj hv
      obtain ⟨hd, hbody⟩ := hfirst hc hbody
      exact (ih hbody (by simp) hmore).append hd
  | @within front c t u' unescaped more ih =>
    have hfront := hk front rfl
    cases body with
    | nil =>
      obtain ⟨rfl, rfl⟩ := List.cons.inj hv
      refine ⟨[], t, _, rfl, by simp, more, fun f hf => ⟨front, ?_, hfront⟩⟩
      exact (Option.some.inj hf).symm
    | cons d body =>
      obtain ⟨hc, hmore⟩ := List.cons.inj hv
      obtain ⟨hd, hbody⟩ := hfirst hc hbody
      refine (ih hbody (fun f hf => ?_) hmore).append hd
      rw [← Option.some.inj hf, List.mem_append, not_or]
      exact ⟨hfront, hd⟩
  | @changed front old new q t u' isOld isNew hidden isQuote more ih =>
    -- neither the extension nor the quote behind it closes the list
    have hclear {tail : Text} (htail : IsTail tail) : '\x7d' ∉ tail ++ [q] := by
      rw [List.mem_append, List.mem_singleton, not_or]
      refine ⟨fun hc => ne_of_isTailChar (htail.usual _ hc) (by simp), ?_⟩
      exact (ne_of_isQuote isQuote (by decide)).symm
    have hsplit : new ++ [q] ++ u' = body ++ '\x7d' :: u := by
      rw [hv, List.append_assoc, List.singleton_append]
    obtain ⟨more', rfl, hu⟩ := exists_of_append_eq (hclear isNew) hsplit
    have hcloses := ih (fun hc => hbody (List.mem_append_right _ hc)) (by simp) hu.symm
    rw [← List.singleton_append, ← List.append_assoc]
    exact hcloses.append (hclear isOld)

theorem Alike.head?_of_quote {k : Option Text} {s u : Text} {q : Char} (h : Alike k s (q :: u))
    (hq : isQuote q = true) (hk : ∀ front, k = some front → ExposesFrom front) :
    s.head? = some q := by
  generalize hv : q :: u = v at h
  cases h with
  | done => exact absurd hv (by simp)
  | same c more => rw [(List.cons.inj hv).1, List.head?_cons]
  | opens _ _ => rw [(List.cons.inj hv).1, List.head?_cons]
  | within _ _ => rw [(List.cons.inj hv).1, List.head?_cons]
  | changed isOld isNew hidden isQuote more =>
    rcases isNew.point with rfl | ⟨rest, rfl⟩
    · rcases hidden rfl with rfl | hhidden
      · rw [(List.cons.inj hv).1, List.nil_append, List.head?_cons]
      · exact absurd (hk _ rfl) hhidden
    · exact absurd (List.cons.inj hv).1 (ne_of_isQuote hq (by decide))

/-- A clause before a quote in the second text comes from one before the same quote in the first. -/
theorem ClauseText.alike {w t u : Text} {q : Char} (hw : ClauseText w) (hq : isQuote q = true)
    (h : Alike none t (w ++ q :: u)) :
    ∃ w' s k, t = w' ++ s ∧ ClauseText w' ∧ Alike k s (q :: u) ∧ s.head? = some q := by
  rcases hw.exists_braces with husual | ⟨front, body, behind, rfl, hbody, husual, hfrom, hother⟩
  · obtain ⟨s, k, rfl, hs, hnone, _⟩ := h.of_append husual
    obtain rfl := hnone rfl
    exact ⟨w, s, none, rfl, hw, hs, by rw [hs.head?_eq, List.head?_cons]⟩
  · obtain ⟨hfront, hbehind⟩ := List.forall_mem_append.1 husual
    have hsplit : front ++ '\x7b' :: (body ++ '\x7d' :: behind) ++ q :: u
        = front ++ '\x7b' :: (body ++ '\x7d' :: (behind ++ q :: u)) := by simp
    rw [hsplit] at h
    obtain ⟨s, k, rfl, hs, hnone, _⟩ := h.of_append hfront
    obtain rfl := hnone rfl
    obtain ⟨s, k, rfl, hs, hnone, _⟩ := hs.of_cons (by decide) (by decide)
    obtain rfl := hnone rfl
    obtain ⟨body', s, k, rfl, hbody', hs, hk⟩ := hs.closesBefore hbody (by simp)
    obtain ⟨s, k', rfl, hs, hnone, hsome⟩ := hs.of_append hbehind
    refine ⟨_, s, k', by simp, hother body' hbody', hs, hs.head?_of_quote hq fun f hf => ?_⟩
    -- the list has closed inside a literal, and what was read of it since is `from`
    cases k with
    | none => exact absurd (hnone rfl) (by simp [hf])
    | some g =>
      obtain ⟨g, rfl, hg⟩ := hk g rfl
      rw [hsome _ rfl, Option.some.injEq] at hf
      have hrun : ∀ c ∈ g, (c != '\x7d') = true := by
        intro c hc
        rw [bne_iff_ne]
        rintro rfl
        exact hg hc
      have hends : StopsAt (· != '\x7d') ('\x7d' :: behind) := stopsAt_cons.2 (by decide)
      rw [← hf, ExposesFrom, List.append_assoc, List.singleton_append, dropWhile_run hrun hends]
      exact hfrom

/-- A literal of the second text starts where one of the first does. -/
theorem StringLiteral.alike {k : Option Text} {s rest : Text} {l : StringLiteral}
    (h : Alike k s (l.text ++ rest)) (hhead : s.head? = some l.quote) :
    ∃ (l' : StringLiteral) (rest' : Text) (k' : Option Text),
      s = l'.text ++ rest' ∧ Alike k' rest' rest := by
  have hread : readString (l.text ++ rest) = some (l.text, rest) :=
    readString_eq_some_iff.2 ⟨l, rfl, rfl⟩
  obtain ⟨lexeme, rest', k', hs, hrest⟩ := readString_alike h hhead hread
  obtain ⟨l', _, hsplit⟩ := readString_eq_some_iff.1 hs
  exact ⟨l', rest', k', hsplit, hrest⟩

section

variable {t u keyword : Text} {kind : ImportKind}

theorem readFromForm_none_alike (hkeyword : ∀ c ∈ keyword, isQuote c = false ∧ c ≠ '.')
    (h : Alike none t u) (hnone : readFromForm keyword kind t = none) :
    readFromForm keyword kind u = none := by
  rw [Option.eq_none_iff_forall_ne_some] at hnone ⊢
  intro token hu
  obtain ⟨w, l, rest, hclause, _, rfl⟩ := readFromForm_eq_some_iff.1 hu
  rw [List.append_assoc] at h
  obtain ⟨s, k, rfl, hs, houtside, _⟩ := h.of_append hkeyword
  obtain rfl := houtside rfl
  obtain ⟨w', s, k, rfl, hclause', hs, hhead⟩ := hclause.alike l.quotes hs
  obtain ⟨l', rest', _, rfl, _⟩ := StringLiteral.alike hs hhead
  refine hnone _ (readFromForm_eq_some_iff.2 ⟨w', l', rest', hclause', rfl, ?_⟩)
  rw [List.append_assoc]

theorem readBareForm_none_alike (h : Alike none t u) (hnone : readBareForm t = none) :
    readBareForm u = none := by
  rw [Option.eq_none_iff_forall_ne_some] at hnone ⊢
  intro token hu
  obtain ⟨gap, l, rest, _, rfl⟩ := readBareForm_eq_some_iff.1 hu
  have hfront : ∀ c ∈ ("import" : Text) ++ gap.1, isQuote c = false ∧ c ≠ '.' :=
    List.forall_mem_append.2 ⟨usual_of_all (by decide), fun c hc => usual_of_isBlank (gap.2 c hc)⟩
  obtain ⟨s, k, rfl, hs, houtside, _⟩ := h.of_append hfront
  obtain rfl := houtside rfl
  obtain ⟨l', rest', _, rfl, _⟩ := StringLiteral.alike hs hs.head?_eq
  exact hnone _ (readBareForm_eq_some_iff.2 ⟨gap, l', rest', rfl, rfl⟩)

theorem readCallForm_none_alike (hkeyword : ∀ c ∈ keyword, isQuote c = false ∧ c ≠ '.')
    (h : Alike none t u) (hnone : readCallForm keyword kind t = none) :
    readCallForm keyword kind u = none := by
  rw [Option.eq_none_iff_forall_ne_some] at hnone ⊢
  intro token hu
  obtain ⟨gap, inner, behind, close, l, rest, hclose, _, rfl⟩ := readCallForm_eq_some_iff.1 hu
  have hblanks (gap : Blanks) : ∀ c ∈ gap.1, isQuote c = false ∧ c ≠ '.' :=
    fun c hc => usual_of_isBlank (gap.2 c hc)
  have hfront : ∀ c ∈ keyword ++ (gap.1 ++ '(' :: inner.1), isQuote c = false ∧ c ≠ '.' := by
    simp only [List.forall_mem_append, List.forall_mem_cons]
    exact ⟨hkeyword, hblanks gap, by decide, hblanks inner⟩
  have hback : ∀ c ∈ behind.1 ++ [close], isQuote c = false ∧ c ≠ '.' := by
    simp only [List.forall_mem_append, List.forall_mem_singleton]
    refine ⟨hblanks behind, ?_⟩
    rcases hclose with rfl | rfl <;> decide
  obtain ⟨s, k, rfl, hs, houtside, _⟩ := h.of_append hfront
  obtain rfl := houtside rfl
  obtain ⟨l', rest', k, rfl, hrest⟩ := StringLiteral.alike hs hs.head?_eq
  -- the literal may close at a quote inside of a reworded one, but nothing but its tail follows there
  rw [List.append_cons] at hrest
  obtain ⟨rest', _, rfl, _⟩ := hrest.of_append hback
  refine hnone _ (readCallForm_eq_some_iff.2
    ⟨gap, inner, behind, close, l', rest', hclose, rfl, ?_⟩)
  rw [← List.append_cons]

theorem readForm_none_alike (h : Alike none t u) (hnone : readForm t = none) : readForm u = none := by
  simp only [readForm, Option.orElse_eq_orElse, Option.orElse_eq_or, Option.or_eq_none_iff] at hnone ⊢
  obtain ⟨himport, hexport, hbare, hdynamic, hrequire⟩ := hnone
  exact ⟨readFromForm_none_alike (usual_of_all (by decide)) h himport,
    readFromForm_none_alike (usual_of_all (by decide)) h hexport, readBareForm_none_alike h hbare,
    readCallForm_none_alike (usual_of_all (by decide)) h hdynamic,
    readCallForm_none_alike (usual_of_all (by decide)) h hrequire⟩

/-- Where no token starts, none starts after the rewording. -/
theorem readToken_none_alike {previous : Option Char} (h : Alike none t u)
    (hnone : readToken previous t = none) : readToken previous u = none := by
  simp only [readToken, Option.orElse_eq_orElse, Option.orElse_eq_or, Option.or_eq_none_iff,
    Option.map_eq_none_iff] at hnone ⊢
  obtain ⟨hcomment, hregex, hform, hstring, htemplate⟩ := hnone
  refine ⟨readComment_none_alike h hcomment, readRegex_none_alike h hregex, ?_,
    readString_none_alike h hstring, readTemplate_none_alike h htemplate⟩
  split
  · next hkeyword =>
    rw [if_pos hkeyword] at hform
    exact readForm_none_alike h hform
  · rfl

end

/-! ### Reworded steps -/

/-- The second literal is the first one with another extension, or with one more or less. -/
structure StringLiteral.Reworded (l l' : StringLiteral) : Prop where
  quote : l'.quote = l.quote
  ends : ∃ kept old new, l.body = kept ++ old ∧ l'.body = kept ++ new ∧ '\\' ∉ kept ∧ IsTail old
    ∧ IsTail new ∧ (new = [] → old = [] ∨ ¬ ExposesFrom kept)

/-- The second step is the first one, or an import form with its literal reworded. -/
inductive Step.Reworded : Step → Step → Prop
  | same (s : Step) : Reworded s s
  | literal {kind : ImportKind} {before after : Text} {l l' : StringLiteral} (h : l.Reworded l') :
      Reworded (.form kind before l after) (.form kind before l' after)

theorem Alike.append_within {kept t u : Text} (front : Text) (hkept : '\\' ∉ kept)
    (h : Alike (some (front ++ kept)) t u) : Alike (some front) (kept ++ t) (kept ++ u) := by
  induction kept generalizing front with
  | nil =>
    rw [List.append_nil] at h
    exact h
  | cons c kept ih =>
    rw [List.mem_cons, not_or] at hkept
    rw [List.append_cons] at h
    exact .within (Ne.symm hkept.1) (ih _ hkept.2 h)

theorem StringLiteral.Reworded.alike {l l' : StringLiteral} (h : l.Reworded l') {t u : Text}
    (more : Alike none t u) : Alike none (l.text ++ t) (l'.text ++ u) := by
  obtain ⟨hquote, kept, old, new, hl, hl', hkept, hold, hnew, hhidden⟩ := h
  have hends : Alike (some kept) (old ++ l.quote :: t) (new ++ l.quote :: u) :=
    .changed hold hnew hhidden l.quotes more
  have hbody := Alike.opens l.quotes (Alike.append_within [] hkept hends)
  simpa [StringLiteral.text, hl, hl', hquote] using hbody

theorem alike_textOf {steps steps' : List Step} (h : List.Forall₂ Step.Reworded steps steps') :
    Alike none (textOf steps) (textOf steps') := by
  induction h with
  | nil => exact .done
  | @cons s s' steps steps' hs _ ih =>
    rw [textOf_cons, textOf_cons]
    cases hs with
    | same _ => exact ih.append_same s.text
    | literal hliteral =>
      simp only [Step.text, List.append_assoc]
      exact (hliteral.alike (ih.append_same _)).append_same _

theorem lastOf_literal (previous : Option Char) (l : StringLiteral) :
    lastOf previous l.text = some l.quote := by
  rw [StringLiteral.text, ← List.cons_append, lastOf_append]
  rfl

theorem Step.Reworded.lastOf_eq {s s' : Step} (h : s.Reworded s') (previous : Option Char) :
    lastOf previous s'.text = lastOf previous s.text := by
  cases h with
  | same _ => rfl
  | literal hliteral =>
    simp only [Step.text, lastOf_append, lastOf_literal, hliteral.quote]

theorem StopsAt.of_head {p : Char → Bool} {t u : Text} (h : StopsAt p t) (hhead : u.head? = t.head?) :
    StopsAt p u :=
  fun c hc => h c (hhead ▸ hc)

/-- What may stand behind a token depends on the first character there. -/
theorem TokenText.of_head {previous : Option Char} {token : Token} {rest rest' : Text}
    (h : TokenText previous token rest) (hhead : rest'.head? = rest.head?) :
    TokenText previous token rest' := by
  cases h with
  | comment hcomment =>
    refine .comment ?_
    cases hcomment with
    | line inside ends => exact .line inside (ends.of_head hhead)
    | block inside _ => exact .block inside _
  | regex expression gap hliteral =>
    refine .regex expression gap ?_
    obtain ⟨nonempty, noComment, inside, letters, ends⟩ := hliteral
    exact .intro nonempty noComment inside letters (ends.of_head hhead)
  | form keyword hform l _ => exact .form keyword hform l _
  | string l _ => exact .string l _
  | template hbody _ => exact .template hbody _

/-- A reworded text is scanned in the steps of the text, each with its literal reworded. -/
theorem scanned_reworded {previous : Option Char} {steps steps' : List Step}
    (h : Scanned previous steps) (hsteps : List.Forall₂ Step.Reworded steps steps') :
    Scanned previous steps' := by
  induction hsteps generalizing previous with
  | nil => exact .nil previous
  | @cons s s' steps steps' hs hmore ih =>
    cases h with
    | cons here more =>
      have hrest := alike_textOf hmore
      have hscanned := ih more
      rw [← hs.lastOf_eq] at hscanned
      refine .cons ?_ hscanned
      cases hs with
      | same _ =>
        cases s with
        | char c => exact readToken_none_alike (.same c hrest) here
        | passed lexeme => exact TokenText.of_head here hrest.head?_eq.symm
        | form kind before l after => exact here
      | literal _ => exact here

end SpecifierLint.Source
