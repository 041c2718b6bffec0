/-
Path texts.

A path is a text whose components are separated by slashes.  The functions here look at the text
alone and never at a disk:

* `baseName` and `dirName` cut at the last slash;
* `splitExtension` cuts at the last point of the last component, unless only points stand before it;
* `suffix` is the stricter form that wants something on both sides of the point;
* `joined` puts two paths together and drops empty components and single points;
* `absolute` starts from a working directory and resolves double points.
-/
import SpecifierLint.Text.Basic

namespace SpecifierLint.Path

/-! ### Cutting at the last occurrence -/

/-- The text before and after the last occurrence of a character. -/
def cutAtLast (c : Char) : Text → Option (Text × Text)
  | [] => none
  | x :: rest =>
    match cutAtLast c rest with
    | some (before, after) => some (x :: before, after)
    | none => if x = c then some ([], rest) else none

theorem cutAtLast_eq_none_iff {c : Char} {t : Text} : cutAtLast c t = none ↔ c ∉ t := by
  induction t with
  | nil => simp [cutAtLast]
  | cons x rest ih =>
    rw [cutAtLast]
    cases hrest : cutAtLast c rest with
    | none =>
      have hc : c ∉ rest := ih.1 hrest
      by_cases hx : x = c
      · simp [hx]
      · simp [hx, hc, Ne.symm hx]
    | some cut =>
      have hc : ¬ c ∉ rest := by
        intro hn
        rw [ih.2 hn] at hrest
        exact absurd hrest (by simp)
      simp [Decidable.not_not.1 hc]

theorem cutAtLast_eq_some {c : Char} {t before after : Text}
    (h : cutAtLast c t = some (before, after)) : t = before ++ c :: after ∧ c ∉ after := by
  induction t generalizing before with
  | nil => simp [cutAtLast] at h
  | cons x rest ih =>
    simp only [cutAtLast] at h
    split at h
    · next b a hc =>
      simp only [Option.some.injEq, Prod.mk.injEq] at h
      obtain ⟨rfl, rfl⟩ := h
      obtain ⟨h₁, h₂⟩ := ih hc
      exact ⟨by simp [← h₁], h₂⟩
    · next hc =>
      -- there is no further occurrence in the rest, so the cut is here
      split at h
      · next hx =>
        simp only [Option.some.injEq, Prod.mk.injEq] at h
        obtain ⟨rfl, rfl⟩ := h
        exact ⟨by simp [hx], cutAtLast_eq_none_iff.1 hc⟩
      · simp at h

/-! ### Names and extensions -/

/-- The text after the last slash. -/
def baseName (path : Text) : Text :=
  match cutAtLast '/' path with
  | some (_, name) => name
  | none => path

/-- The text before the last slash, without the slashes at its end unless there is nothing else. -/
def dirName (path : Text) : Text :=
  match cutAtLast '/' path with
  | some (before, _) =>
    let head := before ++ ['/']
    if head.all (· = '/') then head else (head.reverse.dropWhile (· = '/')).reverse
  | none => []

/-- The extension of a file name, with its point: it starts at the last point, and something other
than points has to stand before it. -/
def nameExtension (name : Text) : Text :=
  match cutAtLast '.' name with
  | some (stem, after) => if stem.all (· = '.') then [] else '.' :: after
  | none => []

/-- The extension of a path. -/
def extension (path : Text) : Text := nameExtension (baseName path)

/-- A path without its extension, and the extension. -/
def splitExtension (path : Text) : Text × Text :=
  (path.take (path.length - (extension path).length), extension path)

/-- The suffix of a file name, with its point: something has to stand before the last point and
after it. -/
def suffix (name : Text) : Text :=
  match cutAtLast '.' name with
  | some (stem, after) => if stem.isEmpty || after.isEmpty then [] else '.' :: after
  | none => []

/-! ### Joining and normalising -/

/-- The path starts at the root. -/
def isAbsolute (path : Text) : Bool := path.head? = some '/'

/-- The slashes that a path starts with: none, one, or exactly two; three or more are one. -/
def root (path : Text) : Text :=
  match (path.takeWhile (· = '/')).length with
  | 0 => []
  | 2 => ['/', '/']
  | _ => ['/']

/-- The components of a path, without empty ones and single points. -/
def parts (path : Text) : List Text :=
  (Text.split '/' path).filter fun c => !c.isEmpty && c ≠ ['.']

/-- A path from its root and its components; a point stands for nothing. -/
def render (root : Text) (parts : List Text) : Text :=
  let path := root ++ Text.join ['/'] parts
  if path.isEmpty then ['.'] else path

/-- The path without empty components and single points. -/
def clean (path : Text) : Text := render (root path) (parts path)

/-- The second path seen from the first; an absolute second path stands alone. -/
def joined (first second : Text) : Text :=
  if isAbsolute second then clean second else render (root first) (parts first ++ parts second)

/-- Goes up for each double point.  Below the root there is nothing to go up to. -/
def climb (rooted : Bool) (stack : List Text) (c : Text) : List Text :=
  if c = ['.', '.'] then
    match stack with
    | [] => if rooted then [] else [c]
    | top :: below => if top = ['.', '.'] then c :: stack else below
  else c :: stack

/-- The components of a path after going up for each double point. -/
def climbed (rooted : Bool) (components : List Text) : List Text :=
  (components.foldl (climb rooted) []).reverse

/-- The path without empty components, single points, and double points that something stands
before. -/
def normal (path : Text) : Text :=
  render (root path) (climbed (isAbsolute path) (parts path))

/-- The path written after a directory, with one slash between them; an absolute path stands
alone. -/
def within (directory path : Text) : Text :=
  if isAbsolute path then path
  else if directory.isEmpty || directory.getLast? = some '/' then directory ++ path
  else directory ++ ['/'] ++ path

/-- The normal form of a path seen from a working directory. -/
def absolute (cwd path : Text) : Text := normal (within cwd path)

/-- As `absolute`, and with a single slash in front. -/
def resolved (cwd path : Text) : Text :=
  let full := absolute cwd path
  '/' :: full.dropWhile (· = '/')

/-- The directory above a clean absolute path; the root is above itself. -/
def parent (path : Text) : Text :=
  render (root path) (parts path).dropLast

/-- A clean absolute path and the directories above it, nearest first. -/
def ancestry (path : Text) : List Text :=
  let components := parts path
  (List.range (components.length + 1)).reverse.map fun n => render (root path) (components.take n)

/-- The last component of a path, empty for the root. -/
def lastPart (path : Text) : Text := (parts path).getLastD []

example : extension "/a.b/c" = [] ∧ extension "..js" = [] ∧ extension "a.d.ts" = (".ts" : Text) := by
  decide

example : suffix "e." = [] ∧ extension "e." = ("." : Text) := by decide

example : absolute "/p" "a//./b/../c" = ("/p/a/c" : Text) ∧ clean "//x/./y/" = ("//x/y" : Text) := by
  decide

example : absolute "/" "x" = ("/x" : Text) ∧ absolute "/p" "//x/.." = ("//" : Text) := by decide

example : ancestry "/a/b" = [("/a/b" : Text), "/a", "/"] := by decide

end SpecifierLint.Path
