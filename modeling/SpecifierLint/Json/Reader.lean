/-
Reading JSON.

The reader takes the grammar of JSON with two liberties: the words `NaN`, `Infinity` and
`-Infinity` are numbers, and an escape may name half of a surrogate pair.  Such a half is no
character; the reader is given what to read in the place of halves, and in the place of U+0000, for
which there has to be an escape as well.  Control characters inside strings, integers with too many
digits and text after the value are refused.  A key that stands twice in an object keeps its first place and its
last value.  Arrays and objects may be nested up to a given depth only; where they are nested deeper,
the rest of the document is not looked at.
-/
import SpecifierLint.Value.Basic

namespace SpecifierLint.Json

/-! ### Strings -/

/-- The value of a hexadecimal digit. -/
def hexDigit? (c : Char) : Option Nat :=
  if '0' ≤ c && c ≤ '9' then some (c.toNat - '0'.toNat)
  else if 'a' ≤ c && c ≤ 'f' then some (c.toNat - 'a'.toNat + 10)
  else if 'A' ≤ c && c ≤ 'F' then some (c.toNat - 'A'.toNat + 10)
  else none

/-- The value of four hexadecimal digits. -/
def hexQuad? (a b c d : Char) : Option Nat := do
  let a ← hexDigit? a
  let b ← hexDigit? b
  let c ← hexDigit? c
  let d ← hexDigit? d
  some (((a * 16 + b) * 16 + c) * 16 + d)

/-- The character that a one-letter escape stands for. -/
def escaped? : Char → Option Char
  | '"' => some '"'
  | '\\' => some '\\'
  | '/' => some '/'
  | 'b' => some '\x08'
  | 'f' => some '\x0c'
  | 'n' => some '\n'
  | 'r' => some '\r'
  | 't' => some '\t'
  | _ => none

/-- The first half of a surrogate pair. -/
def isHighHalf (n : Nat) : Bool := 0xd800 ≤ n && n < 0xdc00

/-- The second half of a surrogate pair. -/
def isLowHalf (n : Nat) : Bool := 0xdc00 ≤ n && n < 0xe000

/-- The character of a surrogate pair. -/
def ofHalves (high low : Nat) : Char :=
  Char.ofNat (0x10000 + (high - 0xd800) * 0x400 + (low - 0xdc00))

/-- The second half that an escape at the front of the text names, if it does. -/
def lowHalf? : Text → Option Nat
  | '\\' :: 'u' :: a :: b :: c :: d :: _ => (hexQuad? a b c d).filter isLowHalf
  | _ => none

/-- U+0000 and halves are read as U+0000. -/
def zeroForOdd (_ : Nat) : Text := ['\x00']

/-- The character with a code point, or what is read in the place of an odd one. -/
def charsOf (odd : Nat → Text) (code : Nat) : Text :=
  if isHighHalf code || isLowHalf code || code = 0 then odd code else [Char.ofNat code]

/-- Reads the rest of a string after its opening quote.  `skip` counts the characters that belong to
an escape already read. -/
def readString (odd : Nat → Text) (skip : Nat) : Text → Option (Text × Text)
  | [] => none
  | c :: rest =>
    if skip ≠ 0 then readString odd (skip - 1) rest
    else if c = '"' then some ([], rest)
    else if c = '\\' then
      match rest with
      | 'u' :: a :: b :: d :: e :: after => do
        let code ← hexQuad? a b d e
        match isHighHalf code, lowHalf? after with
        | true, some low =>
          let (t, r) ← readString odd 11 rest
          some (ofHalves code low :: t, r)
        | _, _ =>
          let (t, r) ← readString odd 5 rest
          some (charsOf odd code ++ t, r)
      | e :: _ => do
        let x ← escaped? e
        let (t, r) ← readString odd 1 rest
        some (x :: t, r)
      | [] => none
    else if c.toNat < 0x20 then none
    else (readString odd 0 rest).map fun (t, r) => (c :: t, r)

/-! ### Numbers -/

/-- A decimal digit of ASCII. -/
def isDigit (c : Char) : Bool := '0' ≤ c && c ≤ '9'

/-- The number that decimal digits stand for. -/
def digitsValue (digits : Text) : Nat :=
  digits.foldl (fun n c => n * 10 + (c.toNat - '0'.toNat)) 0

/-- The digits at the front of a text, and the rest. -/
def spanDigits (t : Text) : Text × Text := (t.takeWhile isDigit, t.dropWhile isDigit)

/-- The fraction at the front of a text: the digits after a point, if there are any. -/
def readFraction : Text → Text × Text
  | '.' :: rest =>
    match spanDigits rest with
    | ([], _) => ([], '.' :: rest)
    | found => found
  | t => ([], t)

/-- The exponent at the front of a text, if there is one. -/
def readExponent (t : Text) : Option Int × Text :=
  match t with
  | e :: rest =>
    if e = 'e' || e = 'E' then
      let (negative, unsigned) : Bool × Text :=
        match rest with
        | '-' :: r => (true, r)
        | '+' :: r => (false, r)
        | r => (false, r)
      match spanDigits unsigned with
      | ([], _) => (none, t)
      | (digits, after) =>
        (some (if negative then -(digitsValue digits : Int) else digitsValue digits), after)
    else (none, t)
  | [] => (none, [])

/-- Reads a number without its sign. -/
def readUnsigned (negative : Bool) (t : Text) : Option (Value × Text) :=
  let (whole, afterWhole) : Text × Text :=
    match t with
    | '0' :: rest => (['0'], rest)
    | _ => spanDigits t
  if whole.isEmpty then none
  else
    let (fraction, afterFraction) := readFraction afterWhole
    let (exponent, rest) := readExponent afterFraction
    if fraction.isEmpty && exponent.isNone then
      let n : Int := digitsValue whole
      if integerDigits < whole.length then none
      else some (.int (if negative then -n else n), rest)
    else
      let digits := digitsValue (whole ++ fraction)
      some (.real (.ofDecimal negative digits (exponent.getD 0 - fraction.length)), rest)

/-! ### Values -/

/-- The text after white space. -/
def skipSpace (t : Text) : Text :=
  t.dropWhile fun c => c = ' ' || c = '\t' || c = '\n' || c = '\r'

/-- The words that are values. -/
def words : List (Text × Value) :=
  [("null", .null), ("true", .bool true), ("false", .bool false), ("NaN", .real .undefined),
   ("Infinity", .real (.infinite false)), ("-Infinity", .real (.infinite true))]

/-- Reads the word at the front of a text. -/
def readWord (t : Text) : Option (Value × Text) :=
  words.findSome? fun (word, value) => (Text.dropStart? word t).map (value, ·)

/-- Why a document cannot be read. -/
inductive Fault where
  | malformed
  | tooDeep
  deriving DecidableEq, Repr

/-- A result that is missing only if the document is malformed. -/
def orMalformed : Option α → Except Fault α
  | some x => .ok x
  | none => .error .malformed

mutual

/-- Reads the value at the front of a text, nested up to `depth` times; `fuel` bounds the number of
steps. -/
def readValue (odd : Nat → Text) (fuel depth : Nat) (t : Text) : Except Fault (Value × Text) :=
  match fuel with
  | 0 => .error .malformed
  | fuel + 1 =>
    match t with
    | '"' :: rest => (orMalformed (readString odd 0 rest)).map fun (s, r) => (.text s, r)
    | '[' :: rest =>
      match depth with
      | 0 => .error .tooDeep
      | depth + 1 =>
        match skipSpace rest with
        | ']' :: r => .ok (.list [], r)
        | r => readItems odd fuel depth r
    | '\x7b' :: rest =>
      match depth with
      | 0 => .error .tooDeep
      | depth + 1 =>
        match skipSpace rest with
        | '\x7d' :: r => .ok (.table [], r)
        | r => readMembers odd fuel depth [] r
    | _ =>
      match readWord t with
      | some found => .ok found
      | none =>
        match t with
        | '-' :: rest => orMalformed (readUnsigned true rest)
        | _ => orMalformed (readUnsigned false t)

/-- Reads the items of an array up to its closing bracket. -/
def readItems (odd : Nat → Text) (fuel depth : Nat) (t : Text) : Except Fault (Value × Text) :=
  match fuel with
  | 0 => .error .malformed
  | fuel + 1 => do
    let (item, afterItem) ← readValue odd fuel depth t
    match skipSpace afterItem with
    | ']' :: r => .ok (.list [item], r)
    | ',' :: r =>
      match ← readItems odd fuel depth (skipSpace r) with
      | (.list items, r) => .ok (.list (item :: items), r)
      | _ => .error .malformed
    | _ => .error .malformed

/-- Reads the members of an object up to its closing brace; `found` holds those before. -/
def readMembers (odd : Nat → Text) (fuel depth : Nat) (found : Table) (t : Text) :
    Except Fault (Value × Text) :=
  match fuel with
  | 0 => .error .malformed
  | fuel + 1 =>
    match t with
    | '"' :: rest => do
      let (key, afterKey) ← orMalformed (readString odd 0 rest)
      let (':' :: afterColon) := skipSpace afterKey | .error .malformed
      let (value, afterValue) ← readValue odd fuel depth (skipSpace afterColon)
      match skipSpace afterValue with
      | '\x7d' :: r => .ok (.table (found.set key value), r)
      | ',' :: r => readMembers odd fuel depth (found.set key value) (skipSpace r)
      | _ => .error .malformed
    | _ => .error .malformed

end

/-- The value that a document holds, nested up to `depth` times. -/
def read (odd : Nat → Text) (depth : Nat) (document : Text) : Except Fault Value := do
  let (value, rest) ← readValue odd (2 * document.length + 2) depth (skipSpace document)
  if (skipSpace rest).isEmpty then .ok value else .error .malformed

/-- The value that a document holds, however deep it is nested. -/
def read? (document : Text) : Option Value := (read zeroForOdd document.length document).toOption

end SpecifierLint.Json
