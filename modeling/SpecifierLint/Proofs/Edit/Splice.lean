/-
Chained edits and their splice.

A list of edits is chained if each edit ends no later than the next one starts.  Chained edits do not
overlap, so all of them are selected, and making them from the last to the first gives the same text
as putting the result together from left to right.  Main statements:

* **`select_of_chained`** — chained edits are selected whole and in their order;
* **`applyAll_of_chained`** — a batch of chained edits is their left-to-right splice.
-/
import SpecifierLint.Edit

namespace SpecifierLint.Edit

/-- The range of the edit lies in a text of the given length, its ends in order. -/
structure InRange (length : Nat) (e : Edit) : Prop where
  start_nonneg : 0 ≤ e.start
  start_le : e.start ≤ e.stop
  stop_le : e.stop ≤ length

theorem inRange_iff {length : Nat} {e : Edit} :
    e.InRange length ↔ 0 ≤ e.start ∧ e.start ≤ e.stop ∧ e.stop ≤ length :=
  ⟨fun h => ⟨h.start_nonneg, h.start_le, h.stop_le⟩, fun h => ⟨h.1, h.2.1, h.2.2⟩⟩

instance (length : Nat) (e : Edit) : Decidable (e.InRange length) :=
  decidable_of_iff _ inRange_iff.symm

/-- Each edit ends no later than those after it start. -/
def Chained (edits : List Edit) : Prop := edits.Pairwise fun a b => a.stop ≤ b.start

/-- The left-to-right splice, where `t` is the source from `offset` on: what stands before the first
edit, its text, and the same for the edits after it. -/
def spliceFrom (offset : Nat) : List Edit → Text → Text
  | [], t => t
  | e :: rest, t =>
    t.take (e.start.toNat - offset) ++ e.text
      ++ spliceFrom e.stop.toNat rest (t.drop (e.stop.toNat - offset))

theorem spliceFrom_append {edits : List Edit} {offset : Nat} {w : Text}
    (hstart : ∀ e ∈ edits, ((offset + w.length : Nat) : Int) ≤ e.start)
    (hstop : ∀ e ∈ edits, e.start ≤ e.stop) (t : Text) :
    spliceFrom offset edits (w ++ t) = w ++ spliceFrom (offset + w.length) edits t := by
  cases edits with
  | nil => rfl
  | cons e rest =>
    have hfirst := hstart e (by simp)
    have hlast := hstop e (by simp)
    have htake : e.start.toNat - offset = w.length + (e.start.toNat - (offset + w.length)) := by omega
    have hdrop : e.stop.toNat - offset = w.length + (e.stop.toNat - (offset + w.length)) := by omega
    rw [spliceFrom, spliceFrom, htake, hdrop, List.take_length_add_append,
      List.drop_length_add_append]
    simp only [List.append_assoc]

/-! ### Selection -/

theorem overlaps_eq_false_of_le {a b : Edit} (ha : a.start ≤ a.stop) (hb : b.start ≤ b.stop)
    (h : a.stop ≤ b.start) : a.overlaps b = false ∧ b.overlaps a = false := by
  constructor
  · rw [overlaps]
    split
    · simp only [Bool.and_eq_false_iff, decide_eq_false_iff_not]
      omega
    · simp only [decide_eq_false_iff_not]
      omega
  · rw [overlaps]
    split
    · simp only [Bool.and_eq_false_iff, decide_eq_false_iff_not]
      omega
    · simp only [decide_eq_false_iff_not]
      omega

theorem foldl_keep_of_chained {edits kept : List Edit}
    (hrange : ∀ e ∈ kept ++ edits, e.start ≤ e.stop) (hchain : Chained (kept ++ edits)) :
    edits.foldl keep kept = kept ++ edits := by
  induction edits generalizing kept with
  | nil => simp
  | cons e rest ih =>
    have hfree : kept.any (e.overlaps ·) = false := by
      rw [List.any_eq_false]
      intro k hk
      have hle : k.stop ≤ e.start :=
        (List.pairwise_append.1 hchain).2.2 k hk e (List.mem_cons_self ..)
      have hno := (overlaps_eq_false_of_le (hrange k (by simp [hk])) (hrange e (by simp)) hle).2
      simp [hno]
    have hkeep : keep kept e = kept ++ [e] := by
      rw [keep, hfree]
      rfl
    rw [List.foldl_cons, hkeep, ih (by simpa using hrange) (by simpa [Chained] using hchain)]
    simp

theorem select_of_pairwise {edits : List Edit}
    (h : edits.Pairwise fun a b => notAfter a b = true) : select edits = edits.foldl keep [] := by
  rw [select, List.mergeSort_of_pairwise h]

/-- Chained edits are selected whole and in their order. -/
theorem select_of_chained {edits : List Edit} (hrange : ∀ e ∈ edits, e.start ≤ e.stop)
    (hchain : Chained edits) : select edits = edits := by
  have hsorted : edits.Pairwise fun a b => notAfter a b = true := by
    refine hchain.imp_of_mem fun {a b} ha hb hab => ?_
    have ha' := hrange a ha
    have hb' := hrange b hb
    simp only [notAfter, Bool.or_eq_true, Bool.and_eq_true, decide_eq_true_eq]
    omega
  rw [select_of_pairwise hsorted]
  exact foldl_keep_of_chained hrange hchain

/-! ### Making the edits -/

theorem apply_append {e : Edit} {front : Text} (rest : Text) (h : e.InRange front.length) :
    e.apply (front ++ rest)
      = front.take e.start.toNat ++ e.text ++ front.drop e.stop.toNat ++ rest := by
  obtain ⟨hnonneg, hle, hstop⟩ := h
  have hplace {offset : Int} (h0 : 0 ≤ offset) (h1 : offset ≤ front.length) :
      Text.place (front ++ rest).length offset = offset.toNat := by
    rw [Text.place, if_neg (by omega), List.length_append]
    omega
  rw [apply, hplace hnonneg (by omega), hplace (by omega) hstop]
  rw [List.take_append_of_le_length (by omega), List.drop_append_of_le_length (by omega)]
  simp

theorem apply_between {e : Edit} (front cut rest : Text) (hstart : e.start = front.length)
    (hstop : e.stop = front.length + cut.length) :
    e.apply (front ++ cut ++ rest) = front ++ e.text ++ rest := by
  have hrange : e.InRange (front ++ cut).length := by
    refine ⟨by omega, by omega, ?_⟩
    rw [List.length_append]
    omega
  have hfirst : e.start.toNat = front.length := by omega
  have hlast : e.stop.toNat = (front ++ cut).length := by
    rw [List.length_append]
    omega
  rw [apply_append rest hrange, hfirst, hlast, List.take_left, List.drop_length, List.append_nil]

/-- The edits behind an offset leave what stands before it, and splice what stands behind it. -/
theorem foldr_apply_of_chained {edits : List Edit} {source : Text} (offset : Nat)
    (hrange : ∀ e ∈ edits, e.InRange source.length) (hchain : Chained edits)
    (hoffset : ∀ e ∈ edits, (offset : Int) ≤ e.start) :
    edits.foldr apply source = source.take offset ++ spliceFrom offset edits (source.drop offset) := by
  induction edits generalizing offset with
  | nil => simp [spliceFrom]
  | cons e rest ih =>
    obtain ⟨hfirst, hrest⟩ := List.pairwise_cons.1 hchain
    have he := hrange e (by simp)
    obtain ⟨hnonneg, hle, hstop⟩ := he
    have hstart := hoffset e (by simp)
    -- the edits after `e` leave the source up to the end of `e`, and `e` is made in that front
    have hafter := ih e.stop.toNat (fun x hx => hrange x (by simp [hx])) hrest
      fun x hx => by have := hfirst x hx; omega
    have hfront : e.InRange (source.take e.stop.toNat).length := by
      refine ⟨hnonneg, hle, ?_⟩
      rw [List.length_take]
      omega
    have hkept : (source.take e.stop.toNat).take e.start.toNat
        = source.take offset ++ (source.drop offset).take (e.start.toNat - offset) := by
      rw [List.take_take, ← List.take_add]
      congr 1
      omega
    have hgone : (source.take e.stop.toNat).drop e.stop.toNat = [] := by
      simp
    rw [List.foldr_cons, hafter, apply_append _ hfront, hkept, hgone, spliceFrom, List.drop_drop]
    rw [show offset + (e.stop.toNat - offset) = e.stop.toNat by omega]
    simp

/-- A batch of chained edits is their left-to-right splice. -/
theorem applyAll_of_chained {edits : List Edit} {source : Text}
    (hrange : ∀ e ∈ edits, e.InRange source.length) (hchain : Chained edits) :
    applyAll edits source = spliceFrom 0 edits source := by
  have hselect := select_of_chained (fun e he => (hrange e he).start_le) hchain
  have hsplice := foldr_apply_of_chained 0 hrange hchain fun e he => (hrange e he).start_nonneg
  rw [applyAll, hselect, hsplice]
  simp

end SpecifierLint.Edit
