/-
Text edits.

An edit replaces a range of a text.  A batch of edits is sorted by its ranges, thinned to edits that
do not overlap, and applied from the last to the first, so that the offsets of the earlier ones stay
valid.  Offsets below zero count from the end of the text, and offsets outside it are clipped.
Main statements:

* **`apply_of_le`** — with offsets in range, an edit replaces exactly its range;
* **`mem_select`** — the selected edits are among the given ones.
-/
import SpecifierLint.Text.Basic

namespace SpecifierLint

/-- What an edit was made for. -/
inductive EditKind where
  | insertText
  | removeRange
  deriving DecidableEq, Repr

/-- The name of a kind of edit in reports. -/
def EditKind.label : EditKind → Text
  | .insertText => "insert_text"
  | .removeRange => "remove_range"

/-- The replacement of the characters from `start` up to `stop` by a text. -/
structure Edit where
  kind : EditKind
  start : Int
  stop : Int
  text : Text := []
  deriving DecidableEq, Repr

namespace Edit

/-- Puts a text before an offset. -/
def insertAt (offset : Int) (text : Text) : Edit := ⟨.insertText, offset, offset, text⟩

/-- Takes a range out. -/
def remove (start stop : Int) : Edit := ⟨.removeRange, start, stop, []⟩

/-- The text with the edit made. -/
def apply (e : Edit) (source : Text) : Text :=
  source.take (Text.place source.length e.start) ++ e.text
    ++ source.drop (Text.place source.length e.stop)

/-- Two edits overlap.  An edit of no width overlaps only a range around it. -/
def overlaps (a b : Edit) : Bool :=
  if a.start = a.stop || b.start = b.stop then a.start < b.stop && b.start < a.stop
  else max a.start b.start < min a.stop b.stop

/-- The order of edits: by start, then by end. -/
def notAfter (a b : Edit) : Bool := a.start < b.start || (a.start = b.start && a.stop ≤ b.stop)

/-- Adds an edit to those kept before it, unless it overlaps one of them. -/
def keep (kept : List Edit) (e : Edit) : List Edit :=
  if kept.any (e.overlaps ·) then kept else kept ++ [e]

/-- The edits in source order, without those that overlap an earlier one. -/
def select (edits : List Edit) : List Edit := (edits.mergeSort notAfter).foldl keep []

/-- The text with a batch of edits made, the last one first. -/
def applyAll (edits : List Edit) (source : Text) : Text :=
  (select edits).foldr apply source

/-- With offsets in range an edit replaces exactly its range. -/
theorem apply_of_le (kind : EditKind) {start stop : Nat} (text source : Text)
    (hstart : start ≤ source.length) (hstop : stop ≤ source.length) :
    apply ⟨kind, start, stop, text⟩ source = source.take start ++ text ++ source.drop stop := by
  simp [apply, Text.place_ofNat hstart, Text.place_ofNat hstop]

theorem mem_foldl_keep {edits kept : List Edit} {e : Edit} (h : e ∈ edits.foldl keep kept) :
    e ∈ kept ∨ e ∈ edits := by
  induction edits generalizing kept with
  | nil => exact .inl h
  | cons a rest ih =>
    rcases ih h with hk | hr
    · simp only [keep] at hk
      split at hk
      · exact .inl hk
      · simp only [List.mem_append, List.mem_singleton] at hk
        rcases hk with hk | rfl
        · exact .inl hk
        · exact .inr (List.mem_cons_self ..)
    · exact .inr (List.mem_cons_of_mem _ hr)

/-- The selected edits are among the given ones. -/
theorem mem_select {edits : List Edit} {e : Edit} (h : e ∈ select edits) : e ∈ edits := by
  rcases mem_foldl_keep h with h | h
  · simp at h
  · exact List.mem_mergeSort.1 h

end Edit

end SpecifierLint
