/-
Selected edits.

A batch of edits is sorted by its ranges, edits of the same range in the order in which they were given,
and then thinned from the front: an edit is dropped if it overlaps one that was kept.  An edit of no
width overlaps only what lies around it, so it may stand at the border of a removal, and any number of
insertions may stand at one place.  Main statements:

* **`stablySorted_mergeSort`** — how the edits are sorted;
* **`stop_le_start_iff`** — an edit does not overlap one before it exactly if it starts behind its end;
* **`kept_or_overlaps`** — each edit is kept in its place, or overlaps a kept edit before it;
* **`filter_select`** — insertions at one place are all kept in the order of the batch, or all dropped;
* **`applyAll_splices_selection`** — a batch of edits is the left-to-right splice of those selected.
-/
import Mathlib.Data.List.Nodup
import SpecifierLint.Proofs.Edit.Splice

namespace SpecifierLint.Edit

variable {a b e : Edit} {edits others kept rest : List Edit} {source : Text}

/-! ### The order of edits -/

/-- The range of an edit. -/
def range (e : Edit) : Int × Int := (e.start, e.stop)

theorem notAfter_iff :
    notAfter a b = true ↔ a.start < b.start ∨ (a.start = b.start ∧ a.stop ≤ b.stop) := by
  simp [notAfter]

theorem notAfter_trans (a b c : Edit) (hab : notAfter a b = true) (hbc : notAfter b c = true) :
    notAfter a c = true := by
  rw [notAfter_iff] at hab hbc ⊢
  omega

theorem notAfter_total (a b : Edit) : (notAfter a b || notAfter b a) = true := by
  rw [Bool.or_eq_true, notAfter_iff, notAfter_iff]
  omega

theorem range_eq_of_notAfter (hab : notAfter a b = true) (hba : notAfter b a = true) :
    a.range = b.range := by
  rw [notAfter_iff] at hab hba
  rw [range, range, Prod.mk.injEq]
  omega

theorem notAfter_of_range_eq (h : a.range = b.range) : notAfter a b = true := by
  rw [range, range, Prod.mk.injEq] at h
  rw [notAfter_iff]
  omega

/-- The second list holds the edits of the first one in the order of their ranges, edits of the same
range in their old order. -/
structure StablySorted (edits sorted : List Edit) : Prop where
  perm : sorted.Perm edits
  ordered : sorted.Pairwise fun a b => notAfter a b = true
  stable : ∀ r, sorted.filter (·.range = r) = edits.filter (·.range = r)

theorem pairwise_mergeSort (edits : List Edit) :
    (edits.mergeSort notAfter).Pairwise fun a b => notAfter a b = true :=
  List.pairwise_mergeSort notAfter_trans notAfter_total edits

/-- The edits are sorted stably. -/
theorem stablySorted_mergeSort (edits : List Edit) :
    StablySorted edits (edits.mergeSort notAfter) := by
  have hperm := List.mergeSort_perm edits notAfter
  refine ⟨hperm, pairwise_mergeSort edits, fun r => ?_⟩
  -- the edits of one range are in order as they stand, so sorting keeps them as a sublist
  have hsame : (edits.filter (·.range = r)).Pairwise fun a b => notAfter a b = true := by
    refine List.pairwise_of_forall_mem_list fun a ha b hb => notAfter_of_range_eq ?_
    have ha' := (List.mem_filter.1 ha).2
    have hb' := (List.mem_filter.1 hb).2
    rw [decide_eq_true_eq] at ha' hb'
    rw [ha', hb']
  have hsub : (edits.filter (·.range = r)).Sublist (edits.mergeSort notAfter) :=
    List.sublist_mergeSort notAfter_trans notAfter_total hsame List.filter_sublist
  have hfiltered := hsub.filter (·.range = r)
  rw [List.filter_filter] at hfiltered
  simp only [Bool.and_self] at hfiltered
  exact (hfiltered.eq_of_length (hperm.filter _).length_eq.symm).symm

/-- Edits with different ranges are sorted in the same way whatever order they come in. -/
theorem mergeSort_eq_of_perm (h : edits.Perm others) (hranges : (edits.map range).Nodup) :
    edits.mergeSort notAfter = others.mergeSort notAfter := by
  have hedits := List.mergeSort_perm edits notAfter
  have hothers := List.mergeSort_perm others notAfter
  refine List.Perm.eq_of_pairwise (fun a b ha hb hab hba => ?_) (pairwise_mergeSort edits)
    (pairwise_mergeSort others) (hedits.trans (h.trans hothers.symm))
  exact List.inj_on_of_nodup_map hranges (hedits.mem_iff.1 ha)
    (h.mem_iff.2 (hothers.mem_iff.1 hb)) (range_eq_of_notAfter hab hba)

/-! ### Overlaps -/

/-- An edit does not overlap one before it exactly if it starts behind its end. -/
theorem stop_le_start_iff (ha : a.start ≤ a.stop) (hb : b.start ≤ b.stop)
    (horder : notAfter a b = true) : a.stop ≤ b.start ↔ b.overlaps a = false := by
  refine ⟨fun h => (overlaps_eq_false_of_le ha hb h).2, fun h => ?_⟩
  rw [notAfter_iff] at horder
  rw [overlaps] at h
  split at h
  · next hwidth =>
    simp only [Bool.or_eq_true, decide_eq_true_eq] at hwidth
    simp only [Bool.and_eq_false_iff, decide_eq_false_iff_not] at h
    omega
  · next hwidth =>
    simp only [Bool.or_eq_true, decide_eq_true_eq] at hwidth
    simp only [decide_eq_false_iff_not] at h
    omega

theorem overlaps_iff_of_range {offset : Int} (he : e.range = (offset, offset)) :
    e.overlaps a = true ↔ a.start < offset ∧ offset < a.stop := by
  rw [range, Prod.mk.injEq] at he
  rw [overlaps, if_pos (by simp [he.1, he.2]), he.1, he.2, Bool.and_eq_true, decide_eq_true_eq,
    decide_eq_true_eq, and_comm]

/-! ### Thinning -/

theorem keep_eq (kept : List Edit) (e : Edit) :
    (keep kept e = kept ∧ ∃ k ∈ kept, e.overlaps k = true)
      ∨ (keep kept e = kept ++ [e] ∧ ∀ k ∈ kept, e.overlaps k = false) := by
  rw [keep]
  split
  · next h => exact .inl ⟨rfl, List.any_eq_true.1 h⟩
  · next h => exact .inr ⟨rfl, by simpa using h⟩

/-- Thinning adds some of the edits to those that were kept before, in their order. -/
theorem exists_foldl_keep (kept rest : List Edit) :
    ∃ added, rest.foldl keep kept = kept ++ added ∧ added.Sublist rest := by
  induction rest generalizing kept with
  | nil => exact ⟨[], by simp, .slnil⟩
  | cons e rest ih =>
    obtain ⟨added, hadded, hsub⟩ := ih (keep kept e)
    rw [List.foldl_cons, hadded]
    rcases keep_eq kept e with ⟨hkeep, _⟩ | ⟨hkeep, _⟩
    · exact ⟨added, by rw [hkeep], hsub.cons e⟩
    · exact ⟨e :: added, by rw [hkeep, List.append_assoc, List.singleton_append], hsub.cons_cons e⟩

theorem chained_foldl_keep (hrange : ∀ e ∈ kept ++ rest, e.start ≤ e.stop)
    (hordered : (kept ++ rest).Pairwise fun a b => notAfter a b = true) (hchain : Chained kept) :
    Chained (rest.foldl keep kept) := by
  induction rest generalizing kept with
  | nil => exact hchain
  | cons e rest ih =>
    rw [List.foldl_cons]
    rcases keep_eq kept e with ⟨hkeep, _⟩ | ⟨hkeep, hfree⟩
    · have hsub : (kept ++ rest).Sublist (kept ++ e :: rest) :=
        (List.sublist_cons_self e rest).append_left kept
      rw [hkeep]
      exact ih (fun x hx => hrange x (hsub.subset hx)) (hordered.sublist hsub) hchain
    · rw [hkeep]
      refine ih (by simpa using hrange) (by simpa using hordered) ?_
      refine List.pairwise_append.2 ⟨hchain, List.pairwise_singleton .., fun k hk x hx => ?_⟩
      rw [List.mem_singleton.1 hx]
      have horder : notAfter k e = true :=
        (List.pairwise_append.1 hordered).2.2 k hk e (List.mem_cons_self ..)
      exact (stop_le_start_iff (hrange k (by simp [hk])) (hrange e (by simp)) horder).2 (hfree k hk)

/-- Each of the edits that are thinned is kept in its place, or overlaps a kept edit before it. -/
theorem kept_or_overlaps (before : List Edit) (e : Edit) (after : List Edit) :
    ∃ front back, front.Sublist before ∧ back.Sublist after
      ∧ ((before ++ e :: after).foldl keep [] = front ++ e :: back
        ∨ ((before ++ e :: after).foldl keep [] = front ++ back
          ∧ ∃ k ∈ front, e.overlaps k = true)) := by
  obtain ⟨front, hfront, hbefore⟩ := exists_foldl_keep [] before
  rw [List.nil_append] at hfront
  obtain ⟨back, hback, hafter⟩ := exists_foldl_keep (keep front e) after
  refine ⟨front, back, hbefore, hafter, ?_⟩
  rw [List.foldl_append, hfront, List.foldl_cons, hback]
  rcases keep_eq front e with ⟨hkeep, hoverlap⟩ | ⟨hkeep, _⟩
  · exact .inr ⟨by rw [hkeep], hoverlap⟩
  · exact .inl (by rw [hkeep, List.append_assoc, List.singleton_append])

/-- A kept edit lies around a place. -/
def Surrounded (offset : Int) (kept : List Edit) : Prop :=
  ∃ k ∈ kept, k.start < offset ∧ offset < k.stop

section

variable {offset : Int}

theorem Surrounded.foldl_keep (h : Surrounded offset kept) (rest : List Edit) :
    Surrounded offset (rest.foldl keep kept) := by
  obtain ⟨k, hk, haround⟩ := h
  obtain ⟨added, hadded, _⟩ := exists_foldl_keep kept rest
  exact ⟨k, by rw [hadded]; exact List.mem_append_left _ hk, haround⟩

/-- Nothing lies around the place of an insertion that was kept: what was kept before does not overlap it,
and what is kept later starts at the place or behind it. -/
theorem not_surrounded_foldl_keep (he : e.range = (offset, offset))
    (hfree : ∀ k ∈ kept, e.overlaps k = false) (hordered : ∀ x ∈ rest, notAfter e x = true) :
    ¬ Surrounded offset (rest.foldl keep (kept ++ [e])) := by
  rintro ⟨k, hk, haround⟩
  obtain ⟨added, hadded, hsub⟩ := exists_foldl_keep (kept ++ [e]) rest
  rw [hadded, List.append_assoc, List.mem_append, List.mem_append, List.mem_singleton] at hk
  rcases hk with hk | rfl | hk
  · rw [← overlaps_iff_of_range he, hfree k hk] at haround
    exact absurd haround (by simp)
  · rw [range, Prod.mk.injEq] at he
    omega
  · have horder := notAfter_iff.1 (hordered k (hsub.subset hk))
    rw [range, Prod.mk.injEq] at he
    omega

/-- Of edits in order the insertions at a place are dropped if a kept edit lies around it, and else all
of them are kept. -/
theorem filter_foldl_keep (offset : Int) (kept : List Edit)
    (hordered : rest.Pairwise fun a b => notAfter a b = true) :
    (Surrounded offset (rest.foldl keep kept)
        ∧ (rest.foldl keep kept).filter (·.range = (offset, offset))
          = kept.filter (·.range = (offset, offset)))
      ∨ (¬ Surrounded offset (rest.foldl keep kept)
        ∧ (rest.foldl keep kept).filter (·.range = (offset, offset))
          = kept.filter (·.range = (offset, offset))
            ++ rest.filter (·.range = (offset, offset))) := by
  induction rest generalizing kept with
  | nil => simpa using em (Surrounded offset kept)
  | cons e rest ih =>
    obtain ⟨hfirst, hrest⟩ := List.pairwise_cons.1 hordered
    have hmore := ih (keep kept e) hrest
    rw [List.foldl_cons]
    by_cases he : e.range = (offset, offset)
    · rcases keep_eq kept e with ⟨hkeep, k, hk, hoverlap⟩ | ⟨hkeep, hfree⟩
      · -- the edit that is overlapped stays, so the later insertions are dropped as well
        have haround : Surrounded offset kept := ⟨k, hk, (overlaps_iff_of_range he).1 hoverlap⟩
        rw [hkeep] at hmore ⊢
        exact .inl (hmore.resolve_right fun h => h.1 (haround.foldl_keep rest))
      · have hclear := not_surrounded_foldl_keep he hfree hfirst
        rw [hkeep] at hmore ⊢
        obtain ⟨_, hfilter⟩ := hmore.resolve_left fun h => hclear h.1
        refine .inr ⟨hclear, ?_⟩
        rw [hfilter, List.filter_append, List.filter_cons_of_pos (by simpa using he),
          List.filter_cons_of_pos (by simpa using he), List.filter_nil, List.append_assoc,
          List.singleton_append]
    · -- an edit with another range makes no difference to the insertions at the place
      have hsame : (keep kept e).filter (·.range = (offset, offset))
          = kept.filter (·.range = (offset, offset)) := by
        rcases keep_eq kept e with ⟨hkeep, _⟩ | ⟨hkeep, _⟩
        · rw [hkeep]
        · rw [hkeep, List.filter_append, List.filter_cons_of_neg (by simpa using he),
            List.filter_nil, List.append_nil]
      rw [List.filter_cons_of_neg (by simpa using he), ← hsame]
      exact hmore

end

/-! ### Selected edits -/

/-- The insertions at a place are selected in the order of the batch if no selected edit lies around the
place, and else none of them is. -/
theorem filter_select (edits : List Edit) (offset : Int) :
    (Surrounded offset (select edits) ∧ (select edits).filter (·.range = (offset, offset)) = [])
      ∨ (¬ Surrounded offset (select edits)
        ∧ (select edits).filter (·.range = (offset, offset))
          = edits.filter (·.range = (offset, offset))) := by
  have hthinned := filter_foldl_keep offset [] (pairwise_mergeSort edits)
  rw [List.filter_nil, List.nil_append, (stablySorted_mergeSort edits).stable] at hthinned
  exact hthinned

/-- A batch of edits whose ranges lie in the source is thinned, in the order of the ranges, to edits of
which each ends no later than the next one starts.  An edit that is dropped overlaps a kept one before
it, and insertions at one place stay together in the order of the batch.  Making the batch is the
left-to-right splice of the edits that are kept, and as long as no range occurs twice the order of the
batch does not matter. -/
theorem applyAll_splices_selection (hrange : ∀ e ∈ edits, e.InRange source.length) :
    (∃ sorted, StablySorted edits sorted ∧ (select edits).Sublist sorted ∧ Chained (select edits)
        ∧ ∀ before e after, sorted = before ++ e :: after →
          ∃ front back, front.Sublist before ∧ back.Sublist after
            ∧ (select edits = front ++ e :: back
              ∨ (select edits = front ++ back ∧ ∃ k ∈ front, e.overlaps k = true)))
      ∧ (∀ offset,
        (Surrounded offset (select edits) ∧ (select edits).filter (·.range = (offset, offset)) = [])
          ∨ (¬ Surrounded offset (select edits)
            ∧ (select edits).filter (·.range = (offset, offset))
              = edits.filter (·.range = (offset, offset))))
      ∧ applyAll edits source = spliceFrom 0 (select edits) source
      ∧ ((edits.map range).Nodup → ∀ others, edits.Perm others →
        select others = select edits ∧ applyAll others source = applyAll edits source) := by
  have hsorted := stablySorted_mergeSort edits
  -- an edit is kept if it overlaps none of those kept before it, and these start no later
  have hchain : Chained (select edits) := by
    refine chained_foldl_keep (fun e he => ?_) ?_ List.Pairwise.nil
    · rw [List.nil_append, hsorted.perm.mem_iff] at he
      exact (hrange e he).start_le
    · rw [List.nil_append]
      exact hsorted.ordered
  refine ⟨⟨edits.mergeSort notAfter, hsorted, ?_, hchain, ?_⟩, filter_select edits, ?_, ?_⟩
  · obtain ⟨added, hadded, hsub⟩ := exists_foldl_keep [] (edits.mergeSort notAfter)
    rw [select, hadded, List.nil_append]
    exact hsub
  · intro before e after hsplit
    rw [select, hsplit]
    exact kept_or_overlaps before e after
  · have hsplice := foldr_apply_of_chained 0 (fun e he => hrange e (mem_select he)) hchain
      fun e he => (hrange e (mem_select he)).start_nonneg
    rw [applyAll, hsplice]
    simp
  · intro hranges others hperm
    have hselect : select others = select edits := by
      rw [select, select, mergeSort_eq_of_perm hperm hranges]
    exact ⟨hselect, by rw [applyAll, applyAll, hselect]⟩

/-- Edits in order: an insertion before a removal, one inside of it, a replacement of its end, and an
insertion behind it. -/
def touchingEdits : List Edit :=
  [insertAt 2 "X", remove 2 5, insertAt 3 "Q", ⟨.removeRange, 4, 7, "R"⟩, insertAt 5 "Y"]

/-- The insertions at the borders of the removal are made, in whatever order the edits come, and the one
inside and the replacement are not.  A second insertion behind the removal comes after the first. -/
theorem applyAll_splices_selection_touching :
    (∀ e ∈ touchingEdits, e.InRange ("abcdefgh" : Text).length)
      ∧ (touchingEdits.map range).Nodup
      ∧ applyAll touchingEdits.reverse "abcdefgh" = "abXYfgh"
      ∧ applyAll (touchingEdits ++ [insertAt 5 "Z"]) "abcdefgh" = "abXYZfgh" := by
  have hrange : ∀ e ∈ touchingEdits, e.InRange ("abcdefgh" : Text).length := by decide
  have hmore : ∀ e ∈ touchingEdits ++ [insertAt 5 "Z"], e.InRange ("abcdefgh" : Text).length := by
    decide
  have hranges : (touchingEdits.map range).Nodup := by decide
  obtain ⟨_, _, hsplice, horder⟩ := applyAll_splices_selection hrange
  obtain ⟨_, _, hsplice', _⟩ := applyAll_splices_selection hmore
  rw [select_of_pairwise (by decide)] at hsplice hsplice'
  refine ⟨hrange, hranges, ?_, ?_⟩
  · rw [(horder hranges _ touchingEdits.reverse_perm.symm).2, hsplice]
    decide
  · rw [hsplice']
    decide

end SpecifierLint.Edit
