/-
Console markup.

A tag is a bracket around a word that starts with a small letter or one of `#`, `/` and `@`; it sets
a style and leaves no trace in plain text.  A backslash before a tag makes it ordinary text, and two
backslashes before a tag stand for one.  A backslash before a bracket that starts no tag disappears.
A closing tag ends the tag that it names, or the last one, and one of these has to be open.  What
follows an equals sign are the parameters of a tag; those of an action, whose name starts with `@`,
have to be readable when its tag is closed.
`escape` protects the tags of a text, so that `plain` shows them as they are.
-/
import SpecifierLint.Console.Parameter
import SpecifierLint.Console.Style
import SpecifierLint.Console.Symbol
import SpecifierLint.Console.Wrap

namespace SpecifierLint.Console

/-! ### Tags -/

/-- A character that a tag can start with. -/
def startsTag (c : Char) : Bool :=
  ('a' ≤ c && c ≤ 'z') || c = '#' || c = '/' || c = '@'

/-- The length of the tag at the front of a text, brackets included. -/
def tagLength? : Text → Option Nat
  | '[' :: c :: rest =>
    if startsTag c then
      let body := rest.takeWhile fun x => x ≠ '[' && x ≠ ']'
      if rest[body.length]? = some ']' then some (body.length + 3) else none
    else none
  | _ => none

/-- The number of backslashes at the front of a text. -/
def backslashes (t : Text) : Nat := (t.takeWhile (· = '\\')).length

/-- The backslashes at the front of a text, and the length of the tag that follows them. -/
def tagAfter? (t : Text) : Option (Nat × Nat) :=
  (tagLength? (t.drop (backslashes t))).map (backslashes t, ·)

/-! ### Protected text -/

/-- Protects the tags of a text.  `skip` counts characters that are dealt with already. -/
def escapeFrom (skip : Nat) : Text → Text
  | [] => []
  | c :: rest =>
    if skip ≠ 0 then escapeFrom (skip - 1) rest
    else
      match tagAfter? (c :: rest) with
      | some (count, length) =>
        List.replicate (2 * count + 1) '\\' ++ ((c :: rest).drop count).take length
          ++ escapeFrom (count + length - 1) rest
      | none => c :: escapeFrom 0 rest

/-- A single backslash at the end of a text. -/
def endsInBackslash (t : Text) : Bool :=
  t.getLast? = some '\\' && t.dropLast.getLast? ≠ some '\\'

/-- The text with its tags protected; a single backslash at its end is doubled. -/
def escape (t : Text) : Text :=
  let protectedTags := escapeFrom 0 t
  if endsInBackslash protectedTags then protectedTags ++ ['\\'] else protectedTags

/-! ### Pieces -/

/-- A part of a markup. -/
inductive Piece where
  | text (t : Text)
  /-- What stands between the brackets of a tag. -/
  | tag (body : Text)

/-- Puts a character in front of the first piece. -/
def consPiece (c : Char) : List Piece → List Piece
  | .text t :: rest => .text (c :: t) :: rest
  | pieces => .text [c] :: pieces

/-- The pieces of a markup; a protected tag is a piece of its own.  `skip` counts characters that are
dealt with already. -/
def piecesFrom (skip : Nat) : Text → List Piece
  | [] => [.text []]
  | c :: rest =>
    if skip ≠ 0 then piecesFrom (skip - 1) rest
    else
      match tagAfter? (c :: rest) with
      | some (count, length) =>
        let found := ((c :: rest).drop count).take length
        let piece : Piece := if count % 2 = 1 then .text found else .tag (found.drop 1).dropLast
        .text [] :: .text (List.replicate (count / 2) '\\') :: piece
          :: piecesFrom (count + length - 1) rest
      | none =>
        if c = '\\' && rest.head? = some '[' then piecesFrom 0 rest
        else consPiece c (piecesFrom 0 rest)

/-! ### Plain text -/

/-- The control characters that a console leaves out: bell, backspace, vertical tab, form feed and
carriage return. -/
def isDropped (c : Char) : Bool :=
  c = '\x07' || c = '\x08' || c = '\x0b' || c = '\x0c' || c = '\r'

/-- The text without the control characters that a console leaves out. -/
def dropControls (t : Text) : Text := t.filter (!isDropped ·)

/-- What is wrong with a markup. -/
inductive MarkupFault where
  /-- A closing tag ends no open tag. -/
  | notOpen
  /-- A tag names a color in three parts, one of which gives no number. -/
  | badColor
  /-- The parameters of an action cannot be read. -/
  | unreadable
  deriving DecidableEq, Repr

/-- An open tag: the normal form of its name, its parameters, and the offset where it stands. -/
structure OpenTag where
  name : Text
  parameters : Text
  start : Nat
  deriving DecidableEq, Repr

/-- The normal form of a name. -/
def normalName (name : Text) : Except MarkupFault Text :=
  (Style.normalForm name).mapError fun _ => .badColor

/-- The name of a tag: what stands before an equals sign. -/
def tagName (body : Text) : Text := body.takeWhile (· ≠ '=')

/-- The parameters of a tag: what stands after the first equals sign. -/
def tagParameters (body : Text) : Text := (body.dropWhile (· ≠ '=')).drop 1

namespace OpenTag

/-- The tag stands for an action. -/
def isAction (tag : OpenTag) : Bool := tag.name.head? = some '@'

/-- The style of the tag, its parameters included, names a color that cannot be read. -/
def isBroken (tag : OpenTag) : Bool :=
  (normalName (tag.name ++ " " ++ tag.parameters)).toOption.isNone

/-- The stretch from the tag up to an offset. -/
def spanTo (tag : OpenTag) (stop : Nat) : Span := ⟨tag.start, stop, tag.isBroken⟩

/-- Closes a tag at an offset: the parameters of an action have to be readable. -/
def close (tag : OpenTag) (stop : Nat) : Except MarkupFault Span :=
  if tag.isAction && !Parameter.isReadable tag.parameters then .error .unreadable
  else .ok (tag.spanTo stop)

end OpenTag

/-- What a markup shows up to a tag: the tags that are open, the last one first, and the text with
the stretches of the tags that are closed. -/
structure Reading where
  opened : List OpenTag := []
  shown : Styled := { text := [] }

namespace Reading

/-- Shows a text. -/
def write (r : Reading) (t : Text) : Reading :=
  { r with shown := { r.shown with text := r.shown.text ++ t } }

/-- Closes a tag. -/
def closing (r : Reading) (tag : OpenTag) (rest : List OpenTag) : Except MarkupFault Reading :=
  (tag.close r.shown.text.length).map fun span =>
    ⟨rest, { r.shown with spans := r.shown.spans ++ [span] }⟩

/-- Reads a tag. -/
def readTag (r : Reading) (body : Text) : Except MarkupFault Reading :=
  match tagName body with
  | '/' :: name =>
    let trimmed := Text.trimBlanks name
    if trimmed.isEmpty then
      match r.opened with
      | [] => .error .notOpen
      | tag :: rest => r.closing tag rest
    else
      match normalName trimmed with
      | .error fault => .error fault
      | .ok form =>
        match r.opened.find? (·.name = form) with
        | none => .error .notOpen
        | some tag => r.closing tag (r.opened.erase tag)
  | name =>
    (normalName name).map fun form =>
      { r with opened := ⟨form, tagParameters body, r.shown.text.length⟩ :: r.opened }

/-- Reads pieces. -/
def readPieces (r : Reading) : List Piece → Except MarkupFault Reading
  | [] => .ok r
  | .text t :: rest => (r.write (dropControls (showNames t))).readPieces rest
  | .tag body :: rest =>
    match r.readTag body with
    | .error fault => .error fault
    | .ok next => next.readPieces rest

/-- What the markup shows, where the tags that are still open end with it. -/
def finish (r : Reading) : Styled :=
  { r.shown with spans := r.shown.spans ++ r.opened.map (·.spanTo r.shown.text.length) }

end Reading

/-- The text that a markup shows, with its styles. -/
def plain (markup : Text) : Except MarkupFault Styled :=
  (Reading.readPieces {} (piecesFrom 0 markup)).map Reading.finish

/-- The lines that a markup takes on a console.  The styles are looked up when the lines are known. -/
def printed (width : Nat) (markup : Text) : Except MarkupFault (List Text) :=
  match plain markup with
  | .error fault => .error fault
  | .ok s => if (linesOn width s).any Styled.isBroken then .error .badColor else .ok (wrap width s)

example : (plain ("[b]" ++ escape "[id] \\[x] [1]" ++ "[/]")).toOption.map Styled.text
    = some ("[id] \\[x] [1]" : Text) := by
  decide +kernel

example : (plain "[b]x[/bold][/]").toOption = none := by decide +kernel

end SpecifierLint.Console
