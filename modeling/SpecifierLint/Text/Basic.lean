/-
Text as a list of code points.

Every offset, length and column of the linter counts code points, so text is handled as the list of
its characters.  A string literal stands for its list.  Main statements:

* **`split_ne_nil`** — splitting gives at least one piece;
* **`join_split`** — joining the pieces of a split with the same separator restores the text;
* **`lastOffset?_append`** — a text that ends another occurs there last.
-/

namespace SpecifierLint

/-- A text, as the list of its code points. -/
abbrev Text := List Char

instance : Coe String Text := ⟨String.toList⟩

namespace Text

/-! ### Character classes given by ranges -/

/-- `n` lies in one of the ranges, whose ends are included. -/
def inRanges (ranges : List (Nat × Nat)) (n : Nat) : Bool :=
  ranges.any fun r => r.1 ≤ n && n ≤ r.2

/-! ### Splitting and joining -/

/-- The pieces between the occurrences of a separator; one more than there are separators. -/
def split (sep : Char) : Text → List Text
  | [] => [[]]
  | c :: rest =>
    if c = sep then [] :: split sep rest
    else
      match split sep rest with
      | [] => [[c]]
      | piece :: pieces => (c :: piece) :: pieces

/-- The texts with the separator between neighbours. -/
def join (sep : Text) : List Text → Text
  | [] => []
  | [t] => t
  | t :: rest => t ++ sep ++ join sep rest

theorem split_ne_nil (sep : Char) (t : Text) : split sep t ≠ [] := by
  cases t with
  | nil => simp [split]
  | cons c rest =>
    by_cases h : c = sep
    · simp [split, h]
    · simp only [split, h, if_false]
      split <;> simp

/-- Joining the pieces of a split with its separator restores the text. -/
theorem join_split (sep : Char) (t : Text) : join [sep] (split sep t) = t := by
  induction t with
  | nil => rfl
  | cons c rest ih =>
    by_cases h : c = sep
    · cases hs : split sep rest with
      | nil => exact absurd hs (split_ne_nil sep rest)
      | cons piece pieces =>
        rw [hs] at ih
        simp [split, h, hs, join, ih]
    · cases hs : split sep rest with
      | nil => exact absurd hs (split_ne_nil sep rest)
      | cons piece pieces =>
        rw [hs] at ih
        cases pieces with
        | nil => simp_all [split, join]
        | cons p ps => simp_all [split, join]

/-! ### Searching and cutting -/

/-- The text after `start`, if it begins with `start`. -/
def dropStart? : Text → Text → Option Text
  | [], t => some t
  | _ :: _, [] => none
  | s :: start, c :: rest => if s = c then dropStart? start rest else none

theorem dropStart?_eq_some_iff {start t rest : Text} :
    dropStart? start t = some rest ↔ t = start ++ rest := by
  induction start generalizing t with
  | nil => simp [dropStart?, eq_comm]
  | cons s start ih =>
    cases t with
    | nil => simp [dropStart?]
    | cons c cs =>
      by_cases h : s = c
      · simp [dropStart?, h, ih]
      · simp [dropStart?, h]
        intro hc
        exact absurd hc.symm h

/-- The offset of the last occurrence of a text in another. -/
def lastOffset? (part : Text) : Text → Option Nat
  | [] => if part.isEmpty then some 0 else none
  | c :: rest =>
    match lastOffset? part rest with
    | some offset => some (offset + 1)
    | none => if part.isPrefixOf (c :: rest) then some 0 else none

theorem lastOffset?_eq_none_of_length_lt {part t : Text} (h : t.length < part.length) :
    lastOffset? part t = none := by
  induction t with
  | nil =>
    have hpart : part.isEmpty = false := by cases part <;> simp_all
    simp [lastOffset?, hpart]
  | cons c rest ih =>
    have hfront : part.isPrefixOf (c :: rest) = false := by
      rw [Bool.eq_false_iff, ne_eq, List.isPrefixOf_iff_prefix]
      intro hp
      have := hp.length_le
      omega
    rw [List.length_cons] at h
    simp [lastOffset?, ih (by omega), hfront]

/-- A text that ends another occurs there last. -/
theorem lastOffset?_append (t : Text) {part : Text} (h : part ≠ []) :
    lastOffset? part (t ++ part) = some t.length := by
  induction t with
  | nil =>
    obtain ⟨c, rest, rfl⟩ := List.exists_cons_of_ne_nil h
    have hrest : lastOffset? (c :: rest) rest = none :=
      lastOffset?_eq_none_of_length_lt (by simp)
    simp [lastOffset?, hrest]
  | cons c t ih => simp [lastOffset?, ih]

/-- The place of an offset in a text of the given length: an offset below zero counts from the end,
and one outside the text is moved to its nearer end. -/
def place (length : Nat) (offset : Int) : Nat :=
  if offset < 0 then (offset + length).toNat else min offset.toNat length

theorem place_ofNat {length n : Nat} (h : n ≤ length) : place length n = n := by
  have hn : ¬ (n : Int) < 0 := by omega
  simp [place, hn, Nat.min_eq_left h]

/-- The characters from one offset up to another; offsets below zero count from the end. -/
def slice (t : Text) (start stop : Int) : Text :=
  (t.take (place t.length stop)).drop (place t.length start)

/-- The character at an offset; an offset below zero counts from the end. -/
def charAt? (t : Text) (offset : Int) : Option Char :=
  if 0 ≤ offset then t[offset.toNat]?
  else if 0 ≤ offset + t.length then t[(offset + t.length).toNat]?
  else none

/-- The text occurs somewhere inside another. -/
def occursIn (part : Text) : Text → Bool
  | [] => part.isEmpty
  | c :: rest => part.isPrefixOf (c :: rest) || occursIn part rest

/-- The text without the spaces at its end. -/
def trimRight (t : Text) : Text := (t.reverse.dropWhile (· = ' ')).reverse

/-- Whether one text comes before another, or is equal to it, by code points. -/
def notAfter (a b : Text) : Bool := !decide (b < a)

/-- The texts in the order of their code points. -/
def sorted (ts : List Text) : List Text := ts.mergeSort notAfter

/-- The number of bytes that the text takes in UTF-8. -/
def utf8Length (t : Text) : Nat := (t.map Char.utf8Size).foldr (· + ·) 0

/-- A number in decimal digits. -/
def ofNat (n : Nat) : Text := (Nat.toDigits 10 n)

/-- An integer in decimal digits, with a minus sign if it is negative. -/
def ofInt : Int → Text
  | .ofNat n => ofNat n
  | .negSucc n => '-' :: ofNat (n + 1)

/-- The digits of a number in base sixteen, with zeros in front up to `width`. -/
def hex (width n : Nat) : Text :=
  let digits := Nat.toDigits 16 n
  List.replicate (width - digits.length) '0' ++ digits

end Text

end SpecifierLint
