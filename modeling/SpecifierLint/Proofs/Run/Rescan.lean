/-
Scanning a fixed source.

The edits of a checked source give some of its specifiers another end and leave everything else, so the
scan of the fixed source goes through the same steps and reports as many specifiers, of the same kinds
and in the same quotes.  Main statement:

* **`specifiers_applyAll`** — the specifiers of a fixed source are those of the source, the fixable ones
  mended.
-/
import SpecifierLint.Proofs.Run.Mending
import SpecifierLint.Proofs.Source.Rescan

namespace SpecifierLint.Run

open Source

/-! ### Reworded literals -/

/-- The specifier of the violation can get another end and still be read as one: it has no backslash,
the extension has only letters, digits, underscores, hyphens and points, and taking it off leaves nothing
that looks like the end of a clause. -/
structure Rewordable (v : Violation) : Prop where
  plain : '\\' ∉ v.place.value
  usual : ∀ c ∈ v.extension, isTailChar c = true
  hidden : v.kind = .forbidExtension → ∀ kept, v.Mends kept → ¬ ExposesFrom kept

/-- What mends a violation keeps the specifier and adds the extension, or keeps what is before it. -/
theorem Rewordable.exists_ends {v : Violation} (h : Rewordable v)
    (hpoint : ∃ rest, v.extension = '.' :: rest) {mended : Text} (hmended : v.Mends mended) :
    ∃ kept old new, v.place.value = kept ++ old ∧ mended = kept ++ new ∧ IsTail old ∧ IsTail new
      ∧ (new = [] → old = [] ∨ ¬ ExposesFrom kept) := by
  have hnil : IsTail [] := ⟨by simp, .inl rfl⟩
  have htail : IsTail v.extension := ⟨h.usual, .inr hpoint⟩
  cases hkind : v.kind with
  | requireExtension =>
    have heq := hmended
    simp only [Violation.Mends, hkind] at heq
    exact ⟨v.place.value, [], v.extension, by simp, heq, hnil, htail, fun _ => .inl rfl⟩
  | forbidExtension =>
    have heq := hmended
    simp only [Violation.Mends, hkind] at heq
    exact ⟨mended, v.extension, [], heq, by simp, htail, hnil, fun _ => .inr (h.hidden hkind _ hmended)⟩

theorem Rewordable.exists_literal {v : Violation} (h : Rewordable v)
    (hpoint : ∃ rest, v.extension = '.' :: rest) {l : StringLiteral} (hvalue : v.place.value = l.body)
    {mended : Text} (hmended : v.Mends mended) :
    ∃ l' : StringLiteral, l'.body = mended ∧ l.Reworded l' := by
  obtain ⟨kept, old, new, hold, rfl, holdTail, hnewTail, hhidden⟩ := h.exists_ends hpoint hmended
  have hplain := h.plain
  rw [hvalue] at hold hplain
  have hkept : '\\' ∉ kept := fun hc => hplain (hold ▸ List.mem_append_left _ hc)
  have hquoted : QuotedBody withinLine l.quote (kept ++ new) := by
    refine quotedBody_of_plain fun c hc => ?_
    rcases List.mem_append.1 hc with hc | hc
    · obtain ⟨hclose, hwithin⟩ := l.quoted.plain_of_mem hplain (hold ▸ List.mem_append_left old hc)
      refine ⟨hclose, ?_, hwithin⟩
      rintro rfl
      exact hkept hc
    · have hc := hnewTail.usual c hc
      refine ⟨?_, fun hslash => ne_of_isTailChar hc (by simp [hslash]), withinLine_of_isTailChar hc⟩
      rintro rfl
      rw [isTailChar_of_isQuote l.quotes] at hc
      exact absurd hc (by simp)
  exact ⟨⟨l.quote, kept ++ new, l.quotes, hquoted⟩, rfl, rfl,
    kept, old, new, hold, rfl, hkept, holdTail, hnewTail, hhidden⟩

/-! ### The specifiers of a fixed source -/

/-- The second specifier is the first one, mended if it has a fixable violation and kept if not. -/
def KeptOrMended (vs : List Violation) (a b : ImportKind × Specifier) : Prop :=
  b.1 = a.1 ∧ b.2.quote = a.2.quote
    ∧ (∀ v ∈ vs, v.fixable = true → v.place = a.2 → v.Mends b.2.value)
    ∧ ((∀ v ∈ vs, v.place = a.2 → v.fixable = false) → b.2.value = a.2.value)

theorem KeptOrMended.cons {vs : List Violation} {v : Violation} {a b : ImportKind × Specifier}
    (h : KeptOrMended vs a b) (hv : v.place ≠ a.2) : KeptOrMended (v :: vs) a b := by
  obtain ⟨hkind, hquote, hmended, hkept⟩ := h
  refine ⟨hkind, hquote, fun w hw hfix hplace => ?_, fun hnone => ?_⟩
  · rcases List.mem_cons.1 hw with rfl | hw
    · exact absurd hplace hv
    · exact hmended w hw hfix hplace
  · exact hkept fun w hw hplace => hnone w (by simp [hw]) hplace

theorem start_of_mem_found {front : Text} {steps : List Step} {a : ImportKind × Specifier}
    (h : a ∈ found front steps) : (front.length : Int) ≤ a.2.start := by
  induction steps generalizing front with
  | nil => exact absurd h (by simp [found])
  | cons s steps ih =>
    rcases List.mem_append.1 h with h | h
    · cases s with
      | form kind before l after =>
        have heq : (kind, l.behind (front ++ before)) = a := Option.some.inj (Option.mem_toList.1 h)
        rw [← heq]
        show (front.length : Int) ≤ ((front ++ before).length : Nat)
        rw [List.length_append]
        omega
      | _ => exact absurd h (by simp [Step.specifier?])
    · have hrest := ih h
      rw [List.length_append] at hrest
      omega

theorem forall₂_cons {vs : List Violation} {v : Violation} {as bs : List (ImportKind × Specifier)}
    (h : List.Forall₂ (KeptOrMended vs) as bs) (hv : ∀ a ∈ as, v.place ≠ a.2) :
    List.Forall₂ (KeptOrMended (v :: vs)) as bs := by
  induction h with
  | nil => exact .nil
  | cons hab _ ih =>
    obtain ⟨hfirst, hrest⟩ := List.forall_mem_cons.1 hv
    exact .cons (hab.cons hfirst) (ih hrest)

section

variable {vs : List Violation} {steps : List Step} {front : Text}

/-- The violations of the specifiers behind a text have their edits behind it. -/
theorem edits_behind (hplaces : (vs.map (·.place)).Sublist ((found front steps).map (·.2)))
    (hmends : ∀ v ∈ vs, ∀ e, v.fix = some e → MendsLiteral v e) {e : Edit}
    (he : e ∈ vs.filterMap (·.fix)) : (front.length : Int) ≤ e.start ∧ e.start ≤ e.stop := by
  obtain ⟨v, hv, hfix⟩ := List.mem_filterMap.1 he
  obtain ⟨kept, cut, hvalue, hstart, hstop, _⟩ := hmends v hv e hfix
  obtain ⟨a, ha, hplace⟩ := List.mem_map.1 (hplaces.subset (List.mem_map_of_mem hv))
  have hfront := start_of_mem_found ha
  have hlength : v.place.value.length = kept.length + cut.length := by
    rw [hvalue, List.length_append]
  rw [hplace] at hfront
  omega

theorem spliceFrom_step {s : Step}
    (hplaces : (vs.map (·.place)).Sublist ((found (front ++ s.text) steps).map (·.2)))
    (hmends : ∀ v ∈ vs, ∀ e, v.fix = some e → MendsLiteral v e) :
    Edit.spliceFrom front.length (vs.filterMap (·.fix)) (s.text ++ textOf steps)
      = s.text ++ Edit.spliceFrom (front ++ s.text).length (vs.filterMap (·.fix)) (textOf steps) := by
  rw [List.length_append]
  refine Edit.spliceFrom_append (fun e he => ?_) (fun e he => (edits_behind hplaces hmends he).2) _
  rw [← List.length_append]
  exact (edits_behind hplaces hmends he).1

/-- The edit of a literal leaves what is before and behind the part that it replaces. -/
theorem spliceFrom_literal {kind : ImportKind} {before after kept cut : Text} {l : StringLiteral}
    {e : Edit} (hbody : l.body = kept ++ cut)
    (hstart : e.start = (front ++ before).length + 1 + kept.length)
    (hstop : e.stop = (front ++ before).length + 1 + l.body.length)
    (hplaces : (vs.map (·.place)).Sublist
      ((found (front ++ (Step.form kind before l after).text) steps).map (·.2)))
    (hmends : ∀ v ∈ vs, ∀ e, v.fix = some e → MendsLiteral v e) :
    Edit.spliceFrom front.length (e :: vs.filterMap (·.fix))
        ((Step.form kind before l after).text ++ textOf steps)
      = before ++ (l.quote :: (kept ++ e.text ++ [l.quote]) ++ after)
        ++ Edit.spliceFrom (front ++ (Step.form kind before l after).text).length
          (vs.filterMap (·.fix)) (textOf steps) := by
  have hlength : l.body.length = kept.length + cut.length := by rw [hbody, List.length_append]
  have hsize : (front ++ (Step.form kind before l after).text).length
      = e.stop.toNat + (l.quote :: after).length := by
    simp only [Step.text, StringLiteral.text, List.length_append, List.length_cons,
      List.length_nil] at hstop ⊢
    omega
  -- the text in parts: what is before the cut, the cut itself, and what is behind it
  have hsplit : (Step.form kind before l after).text ++ textOf steps
      = (before ++ l.quote :: kept) ++ (cut ++ ((l.quote :: after) ++ textOf steps)) := by
    simp [Step.text, StringLiteral.text, hbody]
  have htake : e.start.toNat - front.length = (before ++ l.quote :: kept).length := by
    simp only [List.length_append, List.length_cons] at hstart ⊢
    omega
  have hdrop : e.stop.toNat - front.length = (before ++ l.quote :: kept ++ cut).length := by
    simp only [List.length_append, List.length_cons] at hstop ⊢
    omega
  -- the other edits start behind the literal
  have hbehind : Edit.spliceFrom e.stop.toNat (vs.filterMap (·.fix)) ((l.quote :: after) ++ textOf steps)
      = (l.quote :: after)
        ++ Edit.spliceFrom (e.stop.toNat + (l.quote :: after).length) (vs.filterMap (·.fix))
          (textOf steps) :=
    Edit.spliceFrom_append (fun x hx => hsize ▸ (edits_behind hplaces hmends hx).1)
      (fun x hx => (edits_behind hplaces hmends hx).2) _
  rw [hsplit, Edit.spliceFrom, htake, List.take_left, hdrop, ← List.append_assoc, List.drop_left,
    hbehind, hsize]
  simp

end

theorem keptOrMended_literal {vs : List Violation} {kind : ImportKind} {l l' : StringLiteral}
    {front front' : Text} (hquote : l'.quote = l.quote)
    (hmended : ∀ v ∈ vs, v.fixable = true → v.place = l.behind front → v.Mends l'.body)
    (hkept : (∀ v ∈ vs, v.place = l.behind front → v.fixable = false) → l'.body = l.body) :
    KeptOrMended vs (kind, l.behind front) (kind, l'.behind front') :=
  ⟨rfl, hquote, hmended, hkept⟩

/-! ### Steps and the edits of violations among them -/

/-- The second steps are the first ones with the edits of the violations made. -/
structure Rewords (vs : List Violation) (front : Text) (steps steps' : List Step) : Prop where
  reworded : List.Forall₂ Step.Reworded steps steps'
  text : textOf steps' = Edit.spliceFrom front.length (vs.filterMap (·.fix)) (textOf steps)
  specifiers : ∀ front', List.Forall₂ (KeptOrMended vs) (found front steps) (found front' steps')

section

variable {vs : List Violation} {steps steps' : List Step} {front before after : Text}
  {kind : ImportKind} {l l' : StringLiteral} {v : Violation}

theorem behind_ne {a : ImportKind × Specifier}
    (ha : a ∈ found (front ++ (Step.form kind before l after).text) steps) :
    l.behind (front ++ before) ≠ a.2 := by
  intro heq
  have hstart := start_of_mem_found ha
  rw [← heq] at hstart
  simp only [StringLiteral.behind, Step.text, StringLiteral.text, List.length_append,
    List.length_cons] at hstart
  omega

theorem place_ne (hplaces : (vs.map (·.place)).Sublist
      ((found (front ++ (Step.form kind before l after).text) steps).map (·.2)))
    (hv : v ∈ vs) : v.place ≠ l.behind (front ++ before) := by
  obtain ⟨a, ha, hplace⟩ := List.mem_map.1 (hplaces.subset (List.mem_map_of_mem hv))
  rw [← hplace]
  exact (behind_ne ha).symm

theorem Rewords.same {s : Step} (h : Rewords vs (front ++ s.text) steps steps')
    (hplaces : (vs.map (·.place)).Sublist ((found (front ++ s.text) steps).map (·.2)))
    (hmends : ∀ v ∈ vs, ∀ e, v.fix = some e → MendsLiteral v e) :
    Rewords vs front (s :: steps) (s :: steps') := by
  refine ⟨.cons (.same s) h.reworded, ?_, fun front' => ?_⟩
  · rw [textOf_cons, textOf_cons, h.text, spliceFrom_step hplaces hmends]
  · cases s with
    | form kind before l after =>
      refine .cons (keptOrMended_literal rfl (fun v hv _ hplace => ?_) fun _ => rfl) (h.specifiers _)
      exact absurd hplace (place_ne hplaces hv)
    | _ => exact h.specifiers _

theorem Rewords.cons_unfixable (h : Rewords vs front steps steps') (hfix : v.fix = none) :
    Rewords (v :: vs) front steps steps' := by
  have hunfixable : v.fixable = false := by
    rw [Violation.fixable, hfix]
    rfl
  refine ⟨h.reworded, by rw [List.filterMap_cons_none hfix]; exact h.text, fun front' => ?_⟩
  refine (h.specifiers front').imp fun a b hab => ?_
  obtain ⟨hkind, hquote, hmended, hkept⟩ := hab
  refine ⟨hkind, hquote, fun w hw hfixable hplace => ?_, fun hnone => hkept fun w hw hplace => ?_⟩
  · rcases List.mem_cons.1 hw with rfl | hw
    · rw [hunfixable] at hfixable
      exact absurd hfixable (by simp)
    · exact hmended w hw hfixable hplace
  · exact hnone w (by simp [hw]) hplace

/-- The edit of a violation rewords the literal of its step. -/
theorem Rewords.mend {kept cut : Text} {e : Edit}
    (h : Rewords vs (front ++ (Step.form kind before l after).text) steps steps')
    (hplaces : (vs.map (·.place)).Sublist
      ((found (front ++ (Step.form kind before l after).text) steps).map (·.2)))
    (hmends : ∀ v ∈ vs, ∀ e, v.fix = some e → MendsLiteral v e)
    (hplace : v.place = l.behind (front ++ before)) (hfix : v.fix = some e)
    (hbody : l.body = kept ++ cut) (hstart : e.start = (front ++ before).length + 1 + kept.length)
    (hstop : e.stop = (front ++ before).length + 1 + l.body.length)
    (hmended : v.Mends l'.body) (hl' : l'.body = kept ++ e.text) (hreworded : l.Reworded l') :
    Rewords (v :: vs) front (.form kind before l after :: steps)
      (.form kind before l' after :: steps') := by
  have hfixable : v.fixable = true := by
    rw [Violation.fixable, hfix]
    rfl
  have hother : ∀ a ∈ found (front ++ (Step.form kind before l after).text) steps, v.place ≠ a.2 := by
    intro a ha
    rw [hplace]
    exact behind_ne ha
  refine ⟨.cons (.literal hreworded) h.reworded, ?_,
    fun front' => .cons (keptOrMended_literal hreworded.quote (fun w hw _ hw' => ?_) fun hnone => ?_)
      (forall₂_cons (h.specifiers _) hother)⟩
  · rw [textOf_cons, textOf_cons, h.text, List.filterMap_cons_some hfix,
      spliceFrom_literal hbody hstart hstop hplaces hmends]
    simp [Step.text, StringLiteral.text, hl', hreworded.quote]
  · rcases List.mem_cons.1 hw with rfl | hw
    · exact hmended
    · exact absurd hw' (place_ne hplaces hw)
  · rw [hnone v (by simp) hplace] at hfixable
    exact absurd hfixable (by simp)

end

/-- The edits of violations among the steps reword the steps. -/
theorem exists_rewords {steps : List Step} {vs : List Violation} (front : Text)
    (hplaces : (vs.map (·.place)).Sublist ((found front steps).map (·.2)))
    (hmends : ∀ v ∈ vs, ∀ e, v.fix = some e → MendsLiteral v e)
    (hpoint : ∀ v ∈ vs, ∃ rest, v.extension = '.' :: rest)
    (hwords : ∀ v ∈ vs, v.fixable = true → Rewordable v) :
    ∃ steps', Rewords vs front steps steps' := by
  induction steps generalizing vs front with
  | nil =>
    rw [found, List.map_nil, List.sublist_nil, List.map_eq_nil_iff] at hplaces
    subst hplaces
    exact ⟨[], .nil, rfl, fun _ => .nil⟩
  | cons s steps ih =>
    cases s with
    | form kind before l after =>
      rw [found, List.map_append, Step.specifier?, Option.toList_some, List.map_singleton,
        List.singleton_append, List.sublist_cons_iff] at hplaces
      -- either the specifier of the step has no violation, or the first violation is about it
      rcases hplaces with hskip | ⟨places, hvs, hplaces⟩
      · obtain ⟨steps', h⟩ := ih _ hskip hmends hpoint hwords
        exact ⟨_, h.same hskip hmends⟩
      · obtain ⟨v, vs, rfl, hplace, rfl⟩ := List.map_eq_cons_iff.1 hvs
        obtain ⟨hmend, hmends⟩ := List.forall_mem_cons.1 hmends
        obtain ⟨hpoint, hpoints⟩ := List.forall_mem_cons.1 hpoint
        obtain ⟨hword, hwords⟩ := List.forall_mem_cons.1 hwords
        obtain ⟨steps', h⟩ := ih _ hplaces hmends hpoints hwords
        -- without an edit the step stays, and with one its literal is reworded
        cases hfix : v.fix with
        | none => exact ⟨_, (h.same hplaces hmends).cons_unfixable hfix⟩
        | some e =>
          have hfixable : v.fixable = true := by
            rw [Violation.fixable, hfix]
            rfl
          obtain ⟨kept, cut, hvalue, hstart, hstop, hmended⟩ := hmend e hfix
          obtain ⟨l', hl', hreworded⟩ :=
            (hword hfixable).exists_literal hpoint (l := l) (by rw [hplace]; rfl) hmended
          rw [hplace] at hvalue hstart hstop
          rw [← hl'] at hmended
          exact ⟨_, h.mend hplaces hmends hplace hfix hvalue hstart hstop hmended hl' hreworded⟩
    | _ =>
      obtain ⟨steps', h⟩ := ih _ hplaces hmends hpoint hwords
      exact ⟨_, h.same hplaces hmends⟩

/-- The specifiers of a fixed source are those of the source, of the same kinds and in the same quotes,
the fixable ones mended and the others kept. -/
theorem specifiers_applyAll {d : Disk} {p : Policy} {source path : Text} {report : FileReport}
    (h : checkSource d p source path = .ok report)
    (hwords : ∀ v ∈ report.violations, v.fixable = true → Rewordable v) :
    List.Forall₂ (KeptOrMended report.violations) (specifiers source)
      (specifiers (Edit.applyAll (editsFor report) source)) := by
  obtain ⟨steps, rfl, hscanned⟩ := exists_scanned none source
  have hplaces := places_sublist h
  rw [specifiers_textOf hscanned] at hplaces
  obtain ⟨steps', hrewords⟩ := exists_rewords [] hplaces
    (fun v hv => (violation_of_checkSource h hv).2.2) (fun v hv => exists_cons_extension h hv) hwords
  have htext := hrewords.text
  rw [List.length_nil] at htext
  rw [applyAll_editsFor h, ← htext, specifiers_textOf hscanned,
    specifiers_textOf (scanned_reworded hscanned hrewords.reworded)]
  exact hrewords.specifiers []

/-- An insertion and a removal in one source keep both imports. -/
theorem specifiers_applyAll_mixed :
    ∃ report, checkSource mixedDisk mixedPolicy mixedSource "/p/x.js" = .ok report
      ∧ (∀ v ∈ report.violations, v.fixable = true → Rewordable v)
      ∧ report.violations.map (·.kind) = [.requireExtension, .forbidExtension]
      ∧ List.Forall₂ (KeptOrMended report.violations) (specifiers mixedSource)
        (specifiers (Edit.applyAll (editsFor report) mixedSource)) := by
  have hparts : (checkSource mixedDisk mixedPolicy mixedSource "/p/x.js").map
      (·.violations.map fun v => (v.kind, v.place.value, v.extension))
        = .ok [(.requireExtension, ("./a" : Text), (".js" : Text)),
          (.forbidExtension, ("./b.json" : Text), (".json" : Text))] := by
    decide +kernel
  obtain ⟨report, h, hreport⟩ := Outcome.map_eq_ok.1 hparts
  have hwords : ∀ v ∈ report.violations, v.fixable = true → Rewordable v := by
    intro v hv _
    have hmem := List.mem_map_of_mem (f := fun v : Violation => (v.kind, v.place.value, v.extension)) hv
    rw [hreport] at hmem
    simp only [List.mem_cons, List.not_mem_nil, or_false, Prod.mk.injEq] at hmem
    rcases hmem with ⟨hkind, hvalue, hext⟩ | ⟨hkind, hvalue, hext⟩
    · refine ⟨by rw [hvalue]; decide, hext ▸ List.all_eq_true.1 (by decide), fun h => ?_⟩
      rw [hkind] at h
      exact absurd h (by decide)
    · refine ⟨by rw [hvalue]; decide, hext ▸ List.all_eq_true.1 (by decide), fun _ kept hkept => ?_⟩
      simp only [Violation.Mends, hkind, hvalue, hext] at hkept
      have hfront : kept = "./b" :=
        List.append_cancel_right (hkept.symm.trans (by decide : _ = ("./b" : Text) ++ ".json"))
      rw [hfront, ExposesFrom]
      decide
  refine ⟨report, h, hwords, ?_, specifiers_applyAll h hwords⟩
  have hkinds := congrArg (List.map (·.1)) hreport
  rw [List.map_map] at hkinds
  exact hkinds

/-- A directory with a script whose name looks like the end of a clause. -/
def clauseDisk : Disk where
  entries := [([("proj" : Text)], .directory), ([("proj" : Text), "a\x7d from.js"], .file (.text [])),
    ([("proj" : Text), "b.js"], .file (.text [])), ([("proj" : Text), "b.json"], .file (.text []))]
  cwd := [("proj" : Text)]

/-- A source that imports it, behind a brace that is not closed. -/
def clauseSource : Text := "import \x7b;import './a\x7d from.js';import './b.json';"

/-- Without its extension the specifier ends a clause, and the quote that closes it opens another literal:
of the two imports only one is left, and that one is none. -/
theorem clauseSource_loses_imports :
    ∃ report, checkSource clauseDisk { defaultStyle := .never } clauseSource "/proj/m.js" = .ok report
      ∧ (∀ v ∈ report.violations, v.fixable = true →
          '\\' ∉ v.place.value ∧ ∀ c ∈ v.extension, isTailChar c = true)
      ∧ (specifiers clauseSource).map (·.2.value) = ["./a\x7d from.js", "./b.json"]
      ∧ (specifiers (Edit.applyAll (editsFor report) clauseSource)).map (·.2.value) = [";import "]
      ∧ ¬ List.Forall₂ (KeptOrMended report.violations) (specifiers clauseSource)
        (specifiers (Edit.applyAll (editsFor report) clauseSource)) := by
  have hparts : (checkSource clauseDisk { defaultStyle := .never } clauseSource "/proj/m.js").map
      (fun report => (report.violations.map fun v => (v.place.value, v.extension),
        (specifiers (Edit.applyAll (editsFor report) clauseSource)).map (·.2.value)))
        = .ok ([(("./a\x7d from.js" : Text), (".js" : Text)), ("./b.json", ".json")],
          [(";import " : Text)]) := by
    decide +kernel
  obtain ⟨report, h, hreport⟩ := Outcome.map_eq_ok.1 hparts
  obtain ⟨hviolations, hafter⟩ := Prod.mk.inj hreport
  have hbefore : (specifiers clauseSource).map (·.2.value)
      = [("./a\x7d from.js" : Text), ("./b.json" : Text)] := by
    decide +kernel
  refine ⟨report, h, fun v hv _ => ?_, hbefore, hafter, fun hall => ?_⟩
  · have hmem := List.mem_map_of_mem (f := fun v : Violation => (v.place.value, v.extension)) hv
    rw [hviolations] at hmem
    simp only [List.mem_cons, List.not_mem_nil, or_false, Prod.mk.injEq] at hmem
    rcases hmem with ⟨hvalue, hext⟩ | ⟨hvalue, hext⟩
    · rw [hvalue, hext]
      exact ⟨by decide, List.all_eq_true.1 (by decide)⟩
    · rw [hvalue, hext]
      exact ⟨by decide, List.all_eq_true.1 (by decide)⟩
  · -- the two scans do not even report the same number of specifiers
    have hcount := hall.length_eq
    rw [← List.length_map (·.2.value), hbefore] at hcount
    have hone := congrArg List.length hafter
    rw [List.length_map, ← hcount] at hone
    exact absurd hone (by decide)

end SpecifierLint.Run
