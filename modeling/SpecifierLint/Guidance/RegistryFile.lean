/-
Registry files.

A registry is written to its file as JSON and read from there as YAML.  Nearly every JSON document is
a YAML document with the same meaning; the exceptions are dealt with here:

* characters that YAML does not allow in a file, which JSON writes as they are;
* line breaks of Unicode inside a text, which are folded;
* keys that are too long, or that a line break runs through;
* numbers with an exponent and no point, which are texts;
* nesting beyond a limit.

Main statement:

* **`readFrom_of_noBreak`** — a text without such line breaks is read as it was written.
-/
import SpecifierLint.Guidance.Basic
import SpecifierLint.Json.Printer

namespace SpecifierLint.Guidance

/-- Why a registry file cannot be read. -/
inductive FileFault where
  /-- The file holds a character that is not allowed. -/
  | unprintable
  /-- A line inside a text looks like the border between two documents. -/
  | border
  /-- A key is too long, or a line break runs through it. -/
  | badKey
  | tooDeep
  deriving DecidableEq, Repr

/-! ### Texts -/

/-- The ranges of the characters that a file may hold. -/
def allowedRanges : List (Nat × Nat) :=
  [(0x9, 0xa), (0xd, 0xd), (0x20, 0x7e), (0x85, 0x85), (0xa0, 0xd7ff), (0xe000, 0xfffd),
   (0x10000, 0x10ffff)]

/-- A line break that is written as it is. -/
def isRawBreak (c : Char) : Bool := c.toNat = 0x85 || c.toNat = 0x2028 || c.toNat = 0x2029

/-- A line break as it is read: only the separators of Unicode stay what they are. -/
def breakRead (c : Char) : Char := if c.toNat = 0x85 then '\n' else c

/-- The line that starts here looks like the border between two documents. -/
def isBorder (start : Text) : Bool :=
  (("---" : Text).isPrefixOf start || ("..." : Text).isPrefixOf start)
    && start[3]?.any fun c => c = ' ' || isRawBreak c

/-- Where the reading of a text stands: behind some spaces of a line, or behind one line break and
those that followed it. -/
inductive LineState where
  | within (blanks : Nat)
  | behind (first : Char) (more : Text)

/-- What a state adds to the text once the next character is known to be neither a space nor a
break.  A single line feed becomes a space. -/
def LineState.shown : LineState → Text
  | .within blanks => List.replicate blanks ' '
  | .behind first more =>
    (if first ≠ '\n' then [first] else if more.isEmpty then [' '] else []) ++ more

/-- The state behind a break. -/
def LineState.afterBreak (c : Char) : LineState → LineState
  | .within _ => .behind (breakRead c) []
  | .behind first more => .behind first (more ++ [breakRead c])

/-- The state behind a space; spaces around a break are dropped. -/
def LineState.afterSpace : LineState → LineState
  | .within blanks => .within (blanks + 1)
  | state => state

/-- Reads the rest of a text. -/
def readFrom (state : LineState) : Text → Except FileFault Text
  | [] => .ok state.shown
  | c :: rest =>
    if c = ' ' then readFrom state.afterSpace rest
    else if isRawBreak c then
      if isBorder rest then .error .border else readFrom (state.afterBreak c) rest
    else (readFrom (.within 0) rest).map (state.shown ++ c :: ·)

/-- A text as it is read. -/
def readText (t : Text) : Except FileFault Text := readFrom (.within 0) t

theorem readFrom_of_noBreak (blanks : Nat) {t : Text} (h : ∀ c ∈ t, isRawBreak c = false) :
    readFrom (.within blanks) t = .ok (List.replicate blanks ' ' ++ t) := by
  induction t generalizing blanks with
  | nil => simp [readFrom, LineState.shown]
  | cons c rest ih =>
    have hrest : ∀ x ∈ rest, isRawBreak x = false := fun x hx => h x (List.mem_cons_of_mem c hx)
    by_cases hc : c = ' '
    · subst hc
      simp [readFrom, LineState.afterSpace, ih (blanks + 1) hrest, List.replicate_succ']
    · have hb : isRawBreak c = false := h c (List.mem_cons_self ..)
      simp [readFrom, hc, hb, ih 0 hrest, LineState.shown, Except.map]

/-! ### Values -/

/-- The longest key, as it is written. -/
def longestKey : Nat := 1024

/-- How deep a registry may be nested. -/
def registryDepth : Nat := 490

/-- A key as it is read. -/
def readKey (key : Text) : Except FileFault Text :=
  match readText key with
  | .error fault => .error fault
  | .ok k => if longestKey < (Json.string key).length || key.any isRawBreak then .error .badKey else .ok k

/-- A number as it is read: without a point it is a text. -/
def readReal (x : Floating) : Value :=
  let written := x.text "NaN" "Infinity"
  if written.contains '.' then .real x else .text written

mutual

/-- A value as it is read, nested up to `depth` times. -/
def readBack (depth : Nat) : Value → Except FileFault Value
  | .text t => (readText t).map .text
  | .real x => .ok (readReal x)
  | .list items =>
    match depth with
    | 0 => .error .tooDeep
    | depth + 1 => (readItems depth items).map .list
  | .table entries =>
    match depth with
    | 0 => .error .tooDeep
    | depth + 1 => (readEntries depth entries).map .table
  | v => .ok v

/-- The items of a list as they are read. -/
def readItems (depth : Nat) : List Value → Except FileFault (List Value)
  | [] => .ok []
  | v :: rest =>
    match readBack depth v with
    | .error fault => .error fault
    | .ok item => (readItems depth rest).map (item :: ·)

/-- The entries of a table as they are read. -/
def readEntries (depth : Nat) : List (Text × Value) → Except FileFault (List (Text × Value))
  | [] => .ok []
  | (k, v) :: rest =>
    match readKey k with
    | .error fault => .error fault
    | .ok key =>
      match readBack depth v with
      | .error fault => .error fault
      | .ok value => (readEntries depth rest).map ((key, value) :: ·)

end

/-- The registry that is read from the file that a value was written to. -/
def registryFrom (v : Value) : Except FileFault Table :=
  if (Json.compact v).any fun c => !Text.inRanges allowedRanges c.toNat then .error .unprintable
  else (readBack registryDepth v).map registryOf

end SpecifierLint.Guidance
