/-
Wildcard patterns.

A star stands for any text, a question mark for any one character, and a bracket for one character
out of a set, or out of its complement if an exclamation mark comes first.  Slashes and line breaks
are characters like any other.  A bracket that is never closed stands for itself.

Inside a bracket a hyphen between two characters makes a range.  A range whose ends are in the wrong
order is dropped with its ends; a set that is empty after that matches nothing, and its complement
any one character.

`matchAll` says what a pattern matches; `table` works that out for all ends of a text at once, in time
proportional to the lengths of both.  Main statement:

* **`covers_eq_matchAll`** — the table answers as `matchAll` does.
-/
import SpecifierLint.Text.Basic

namespace SpecifierLint

/-- A part of a wildcard pattern. -/
inductive Wildcard where
  | star
  | anyOne
  | literal (c : Char)
  | oneOf (negated : Bool) (ranges : List (Char × Char))
  deriving DecidableEq, Repr

namespace Wildcard

/-! ### Brackets -/

/-- Cuts the inside of a bracket at the hyphens that make ranges: a hyphen counts if at least
`ahead` characters stand before it in its piece, and two in the pieces that follow. -/
def pieces (ahead : Nat) (current : Text) : Text → List Text
  | [] => [current]
  | c :: rest =>
    if c = '-' && ahead = 0 then current :: pieces 2 [] rest
    else pieces (ahead - 1) (current ++ [c]) rest

/-- A hyphen at the very end is a character of the last piece. -/
def closeLast : List Text → List Text
  | [] => []
  | [piece] => [piece]
  | [piece, []] => [piece ++ ['-']]
  | piece :: rest => piece :: closeLast rest

/-- Joins two neighbouring pieces whose range would be empty, and leaves its ends out. -/
def joinEmptyRange (piece : Text) (rest : List Text) : List Text :=
  match rest with
  | next :: others =>
    match piece.getLast?, next.head? with
    | some last, some first =>
      if first < last then (piece.dropLast ++ next.drop 1) :: others else piece :: rest
    | _, _ => piece :: rest
  | [] => [piece]

/-- The pieces without empty ranges, worked off from the end. -/
def dropEmptyRanges (ps : List Text) : List Text := ps.foldr joinEmptyRange []

/-- The characters of a set: each piece's own, and the ranges between neighbours. -/
def rangesOf : List Text → List (Char × Char)
  | [] => []
  | [piece] => piece.map fun c => (c, c)
  | piece :: next :: rest =>
    let range : List (Char × Char) :=
      match piece.getLast?, next.head? with
      | some first, some last => [(first, last)]
      | _, _ => []
    piece.map (fun c => (c, c)) ++ range ++ rangesOf (next :: rest)

/-- The set that the inside of a bracket stands for. -/
def bracket (inside : Text) : Wildcard :=
  let ahead := if inside.head? = some '!' then 2 else 1
  match dropEmptyRanges (closeLast (pieces ahead [] inside)) with
  | ('!' :: first) :: rest => .oneOf true (rangesOf (first :: rest))
  | ps => .oneOf false (rangesOf ps)

/-- The inside of a bracket after its opening, and the text after its closing.  A closing bracket
that comes first, or right after the exclamation mark, belongs to the inside. -/
def bracketInside? (t : Text) : Option (Text × Text) :=
  let front : Text :=
    match t with
    | '!' :: ']' :: _ => ['!', ']']
    | '!' :: _ => ['!']
    | ']' :: _ => [']']
    | _ => []
  let rest := t.drop front.length
  let body := rest.takeWhile (· ≠ ']')
  if body.length = rest.length then none
  else some (front ++ body, rest.drop (body.length + 1))

/-! ### Patterns -/

/-- Reads a pattern.  `skip` counts the characters that belong to a bracket already read. -/
def parseFrom (skip : Nat) : Text → List Wildcard
  | [] => []
  | c :: rest =>
    if skip ≠ 0 then parseFrom (skip - 1) rest
    else if c = '*' then .star :: parseFrom 0 rest
    else if c = '?' then .anyOne :: parseFrom 0 rest
    else if c = '[' then
      match bracketInside? rest with
      | some (inside, _) => bracket inside :: parseFrom (inside.length + 1) rest
      | none => .literal c :: parseFrom 0 rest
    else .literal c :: parseFrom 0 rest

/-- The parts of a pattern. -/
def parse (pattern : Text) : List Wildcard := parseFrom 0 pattern

/-- A part other than a star matches a character. -/
def accepts : Wildcard → Char → Bool
  | .star, _ => true
  | .anyOne, _ => true
  | .literal x, c => x = c
  | .oneOf negated ranges, c => ranges.any (fun r => r.1 ≤ c && c ≤ r.2) != negated

/-- The parts match the whole text. -/
def matchAll : List Wildcard → Text → Bool
  | [], t => t.isEmpty
  | .star :: rest, t => matchStar (matchAll rest) t
  | w :: rest, t =>
    match t with
    | [] => false
    | c :: cs => w.accepts c && matchAll rest cs
where
  /-- Some rest of the text is matched. -/
  matchStar (next : Text → Bool) : Text → Bool
    | [] => next []
    | c :: cs => next (c :: cs) || matchStar next cs

/-- The ends of a text, from the whole down to nothing. -/
def ends : Text → List Text
  | [] => [[]]
  | c :: cs => (c :: cs) :: ends cs

/-- Each entry or any one behind it holds. -/
def orBehind : List Bool → List Bool
  | [] => []
  | b :: rest =>
    let later := orBehind rest
    (b || later.headD false) :: later

/-- Whether the parts match each end of a text, from the whole down to nothing. -/
def table : List Wildcard → Text → List Bool
  | [], t => t.map (fun _ => false) ++ [true]
  | .star :: rest, t => orBehind (table rest t)
  | w :: rest, t => List.zipWith (fun c b => w.accepts c && b) t ((table rest t).drop 1) ++ [false]

/-- The text matches the pattern. -/
def covers (pattern text : Text) : Bool := (table (parse pattern) text).headD false

theorem matchAll_star (rest : List Wildcard) (t : Text) :
    matchAll (.star :: rest) t = matchAll.matchStar (matchAll rest) t := rfl

theorem matchAll_cons {w : Wildcard} (hw : w ≠ .star) (rest : List Wildcard) (c : Char) (cs : Text) :
    matchAll (w :: rest) (c :: cs) = (w.accepts c && matchAll rest cs) := by
  cases w with
  | star => exact absurd rfl hw
  | _ => rfl

theorem matchAll_cons_nil {w : Wildcard} (hw : w ≠ .star) (rest : List Wildcard) :
    matchAll (w :: rest) [] = false := by
  cases w with
  | star => exact absurd rfl hw
  | _ => rfl

theorem map_ends_isEmpty (t : Text) :
    t.map (fun _ => false) ++ [true] = (ends t).map (matchAll []) := by
  induction t with
  | nil => rfl
  | cons c cs ih =>
    rw [List.map_cons, List.cons_append, ih]
    rfl

theorem orBehind_map_ends (next : Text → Bool) (t : Text) :
    orBehind ((ends t).map next) = (ends t).map (matchAll.matchStar next) := by
  induction t with
  | nil => simp [ends, orBehind, matchAll.matchStar]
  | cons c cs ih =>
    have hhead : ((ends cs).map (matchAll.matchStar next)).headD false
        = matchAll.matchStar next cs := by cases cs <;> rfl
    simp only [ends, List.map_cons, orBehind, ih, hhead, matchAll.matchStar]

theorem drop_ends (c : Char) (cs : Text) : (ends (c :: cs)).drop 1 = ends cs := rfl

theorem zipWith_ends {w : Wildcard} (hw : w ≠ .star) (rest : List Wildcard) (t : Text) :
    List.zipWith (fun c b => w.accepts c && b) t (((ends t).map (matchAll rest)).drop 1) ++ [false]
      = (ends t).map (matchAll (w :: rest)) := by
  induction t with
  | nil => simp [ends, matchAll_cons_nil hw]
  | cons c cs ih =>
    rw [← List.map_drop, drop_ends]
    cases cs with
    | nil => simp [ends, matchAll_cons hw, matchAll_cons_nil hw]
    | cons d ds =>
      rw [← List.map_drop, drop_ends] at ih
      simp only [ends, List.map_cons, List.zipWith_cons_cons, List.cons_append,
        matchAll_cons hw] at ih ⊢
      rw [ih]

/-- The table holds the answer for every end of the text. -/
theorem table_eq (ps : List Wildcard) (t : Text) : table ps t = (ends t).map (matchAll ps) := by
  induction ps with
  | nil => exact map_ends_isEmpty t
  | cons w rest ih =>
    by_cases hw : w = .star
    · subst hw
      simp only [table, ih]
      rw [orBehind_map_ends]
      rfl
    · rw [← zipWith_ends hw, ← ih]
      cases w with
  | star => exact absurd rfl hw
  | _ => rfl

/-- The table answers as `matchAll` does. -/
theorem covers_eq_matchAll (pattern text : Text) :
    covers pattern text = matchAll (parse pattern) text := by
  rw [covers, table_eq]
  cases text <;> rfl

example : covers "[!a-c]*.js" "x/y.js" ∧ ¬ covers "[c-a]" "b" ∧ covers "[!c-a]" "b" := by decide

example : covers "[]-a]" "^" ∧ covers "[x" "[x" ∧ covers "a[b-]" "a-" := by decide

end Wildcard

end SpecifierLint
