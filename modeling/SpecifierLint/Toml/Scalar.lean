/-
Scalars of TOML.

Strings in their four spellings, integers in four bases, floating numbers, and dates and times.  A
date or time stands for the text that spells it.  Each reader takes the text at a position and gives
the value with the text after it, or nothing if the document is invalid there.
-/
import SpecifierLint.Json.Reader

namespace SpecifierLint.Toml

/-! ### Characters -/

/-- A space or a tab. -/
def isSpace (c : Char) : Bool := c = ' ' || c = '\t'

/-- A space, a tab or a line break. -/
def isSpaceOrBreak (c : Char) : Bool := isSpace c || c = '\n'

/-- A control character other than a tab; nowhere allowed within a line. -/
def isForbidden (c : Char) : Bool := (c.toNat < 0x20 && c ≠ '\t') || c.toNat = 0x7f

/-- A control character that is not allowed in a string of several lines. -/
def isForbiddenInLines (c : Char) : Bool := isForbidden c && c ≠ '\n'

/-- The text after the spaces at its front. -/
def skipSpaces (t : Text) : Text := t.dropWhile isSpace

/-! ### Strings -/

/-- The character that a one-letter escape stands for. -/
def escaped? : Char → Option Char
  | 'b' => some '\x08'
  | 't' => some '\t'
  | 'n' => some '\n'
  | 'f' => some '\x0c'
  | 'r' => some '\r'
  | '"' => some '"'
  | '\\' => some '\\'
  | _ => none

/-- The character whose code point the first `count` characters give in base sixteen. -/
def codePoint? (count : Nat) (t : Text) : Option Char := do
  let digits ← (t.take count).mapM Json.hexDigit?
  let n := digits.foldl (fun n d => n * 16 + d) 0
  if digits.length = count && n.isValidChar then some (Char.ofNat n) else none

/-- What an escape stands for, and how many characters it takes after its backslash.  In a string of
several lines a backslash at the end of a line takes all white space after it away. -/
def escape (multiline : Bool) : Text → Option (Text × Nat)
  | [] => none
  | 'u' :: rest => (codePoint? 4 rest).map fun c => ([c], 5)
  | 'U' :: rest => (codePoint? 8 rest).map fun c => ([c], 9)
  | c :: rest =>
    if multiline && isSpaceOrBreak c then
      let spaces : Text := if c = '\n' then [] else rest.takeWhile isSpace
      let lineEnd : Text := if c = '\n' then '\n' :: rest else rest.drop spaces.length
      match lineEnd with
      | [] => some ([], 1 + spaces.length)
      | '\n' :: after =>
        let breakLength := if c = '\n' then 0 else 1
        some ([], 1 + spaces.length + breakLength + (after.takeWhile isSpaceOrBreak).length)
      | _ => none
    else (escaped? c).map fun x => ([x], 1)

/-- Reads a basic string after its opening quotes.  `skip` counts the characters of an escape that
was read already. -/
def readBasic (multiline : Bool) (skip : Nat) : Text → Option (Text × Text)
  | [] => none
  | c :: rest =>
    if skip ≠ 0 then readBasic multiline (skip - 1) rest
    else if c = '"' then
      if !multiline then some ([], rest)
      else if ("\"\"" : Text).isPrefixOf rest then some ([], rest.drop 2)
      else (readBasic multiline 0 rest).map fun (t, r) => (c :: t, r)
    else if c = '\\' then do
      let (front, length) ← escape multiline rest
      let (t, r) ← readBasic multiline length rest
      some (front ++ t, r)
    else if (if multiline then isForbiddenInLines c else isForbidden c) then none
    else (readBasic multiline 0 rest).map fun (t, r) => (c :: t, r)

/-- The text before the first occurrence of a mark, and the text after it. -/
def cutAt (mark : Text) : Text → Option (Text × Text)
  | [] => if mark.isEmpty then some ([], []) else none
  | c :: rest =>
    match Text.dropStart? mark (c :: rest) with
    | some after => some ([], after)
    | none => (cutAt mark rest).map fun (t, r) => (c :: t, r)

/-- Reads a literal string after its opening quotes, up to the closing ones. -/
def readLiteral (forbidden : Char → Bool) (mark t : Text) : Option (Text × Text) := do
  let (body, rest) ← cutAt mark t
  if body.any forbidden then none else some (body, rest)

/-- Up to two more quotes after the closing ones of a string of several lines belong to it. -/
def takeExtraQuotes (quote : Char) (body rest : Text) : Text × Text :=
  let extra := ((rest.take 2).takeWhile (· = quote)).length
  (body ++ List.replicate extra quote, rest.drop extra)

/-- The text after a line break at its front. -/
def skipFirstBreak : Text → Text
  | '\n' :: rest => rest
  | t => t

/-- Reads a string within a line. -/
def readLineString : Text → Option (Text × Text)
  | '"' :: rest => readBasic false 0 rest
  | '\'' :: rest => readLiteral isForbidden ['\''] rest
  | _ => none

/-- Reads a string in any spelling. -/
def readString : Text → Option (Text × Text)
  | '"' :: '"' :: '"' :: rest =>
    (readBasic true 0 (skipFirstBreak rest)).map fun (t, r) => takeExtraQuotes '"' t r
  | '\'' :: '\'' :: '\'' :: rest =>
    (readLiteral isForbiddenInLines "'''" (skipFirstBreak rest)).map fun (t, r) =>
      takeExtraQuotes '\'' t r
  | t => readLineString t

/-! ### Numbers -/

/-- The digits at the front of a text, where an underscore may stand between two of them. -/
def digitRun (isDigit : Char → Bool) (afterDigit : Bool) : Text → Text × Text
  | [] => ([], [])
  | c :: rest =>
    if isDigit c || (c = '_' && afterDigit && rest.head?.any isDigit) then
      let (run, r) := digitRun isDigit (isDigit c) rest
      (c :: run, r)
    else ([], c :: rest)

/-- The number that digits in a base stand for, underscores left out. -/
def digitsValue (base : Nat) (run : Text) : Nat :=
  (run.filterMap Json.hexDigit?).foldl (fun n d => n * base + d) 0

/-- A digit of a base up to sixteen. -/
def isDigitOf (base : Nat) (c : Char) : Bool := (Json.hexDigit? c).any (· < base)

/-- The base that a letter after a zero announces. -/
def baseOf? : Char → Option Nat
  | 'x' => some 16
  | 'o' => some 8
  | 'b' => some 2
  | _ => none

/-- Reads an integer with a base. -/
def readBased : Text → Option (Value × Text)
  | '0' :: letter :: rest => do
    let base ← baseOf? letter
    match digitRun (isDigitOf base) false rest with
    | ([], _) => none
    | (run, r) => some (.int (digitsValue base run), r)
  | _ => none

/-- The sign at the front of a text. -/
def readSign : Text → Bool × Text
  | '-' :: rest => (true, rest)
  | '+' :: rest => (false, rest)
  | t => (false, t)

/-- The fraction at the front of a text, without its point. -/
def readFraction : Text → Text × Text
  | '.' :: rest =>
    match digitRun Json.isDigit false rest with
    | ([], _) => ([], '.' :: rest)
    | found => found
  | t => ([], t)

/-- The exponent at the front of a text. -/
def readExponent (t : Text) : Option Int × Text :=
  match t with
  | e :: rest =>
    if e = 'e' || e = 'E' then
      let (negative, unsigned) := readSign rest
      match digitRun Json.isDigit false unsigned with
      | ([], _) => (none, t)
      | (run, r) =>
        let n : Int := digitsValue 10 run
        (some (if negative then -n else n), r)
    else (none, t)
  | [] => (none, [])

/-- Reads a decimal integer or a floating number.  An integer may have many digits here. -/
def readDecimal (t : Text) : Option (Value × Text) :=
  let (negative, unsigned) := readSign t
  let (whole, afterWhole) : Text × Text :=
    match unsigned with
    | '0' :: rest => (['0'], rest)
    | _ => digitRun Json.isDigit false unsigned
  if whole.isEmpty then none
  else
    let (fraction, afterFraction) := readFraction afterWhole
    let (exponent, rest) := readExponent afterFraction
    if fraction.isEmpty && exponent.isNone then
      let n : Int := digitsValue 10 whole
      some (.int (if negative then -n else n), rest)
    else
      let places := (fraction.filter Json.isDigit).length
      some (.real (.ofDecimal negative (digitsValue 10 (whole ++ fraction))
        (exponent.getD 0 - places)), rest)

/-- Reads the words for infinity and for what is no number. -/
def readSpecial (t : Text) : Option (Value × Text) :=
  let (negative, unsigned) := readSign t
  match Text.dropStart? "inf" unsigned, Text.dropStart? "nan" unsigned with
  | some rest, _ => some (.real (.infinite negative), rest)
  | _, some rest => some (.real .undefined, rest)
  | none, none => none

/-- Why a document cannot be read. -/
inductive Fault where
  | invalid
  /-- A decimal integer has too many digits. -/
  | longInteger
  | tooDeep
  deriving DecidableEq, Repr

/-- A result that is missing only if the document is invalid. -/
def orInvalid : Option α → Except Fault α
  | some x => .ok x
  | none => .error .invalid

/-- The number of digits of a decimal integer at the front of a text; one that starts with a zero has
no other digits. -/
def digitCount (t : Text) : Nat :=
  match (readSign t).2 with
  | '0' :: _ => 1
  | unsigned => ((digitRun Json.isDigit false unsigned).1.filter Json.isDigit).length

/-- The value is a decimal integer, read from the front of a text, that has too many digits. -/
def isLongInteger (t : Text) : Value → Bool
  | .int _ => integerDigits < digitCount t
  | _ => false

/-- Reads a number. -/
def readNumber (t : Text) : Except Fault (Value × Text) :=
  match readBased t with
  | some found => .ok found
  | none =>
    match readDecimal t with
    | some (value, rest) =>
      if isLongInteger t value then .error .longInteger else .ok (value, rest)
    | none => orInvalid (readSpecial t)

/-! ### Dates and times -/

/-- The number that exactly `count` digits at the front of a text give. -/
def fixedDigits (count : Nat) (t : Text) : Option (Nat × Text) :=
  let run := t.take count
  if run.length = count && run.all Json.isDigit then some (Json.digitsValue run, t.drop count)
  else none

/-- The days of a month. -/
def daysIn (year month : Nat) : Nat :=
  if month = 2 then
    if (year % 4 = 0 && year % 100 ≠ 0) || year % 400 = 0 then 29 else 28
  else if month = 4 || month = 6 || month = 9 || month = 11 then 30
  else 31

/-- Reads hours and minutes. -/
def readClock (t : Text) : Option Text := do
  let (hour, rest) ← fixedDigits 2 t
  let rest ← Text.dropStart? ":" rest
  let (minute, rest) ← fixedDigits 2 rest
  if hour < 24 && minute < 60 then some rest else none

/-- The text after a time of day. -/
def skipTime (t : Text) : Option Text := do
  let rest ← readClock t
  let rest ← Text.dropStart? ":" rest
  let (second, rest) ← fixedDigits 2 rest
  if second < 60 then
    match rest with
    | '.' :: after => if after.head?.any Json.isDigit then some (after.dropWhile Json.isDigit) else some rest
    | _ => some rest
  else none

/-- The text after an offset from universal time, if there is one. -/
def skipOffset (t : Text) : Text :=
  match t with
  | c :: rest =>
    if c = 'Z' || c = 'z' then rest
    else if c = '+' || c = '-' then (readClock rest).getD t
    else t
  | [] => []

/-- The year, month and day at the front of a text in the form of a date. -/
def readDate (t : Text) : Option ((Nat × Nat × Nat) × Text) := do
  let (year, rest) ← fixedDigits 4 t
  let rest ← Text.dropStart? "-" rest
  let (month, rest) ← fixedDigits 2 rest
  let rest ← Text.dropStart? "-" rest
  let (day, rest) ← fixedDigits 2 rest
  if 1 ≤ month && month ≤ 12 && 1 ≤ day && day ≤ 31 then some ((year, month, day), rest) else none

/-- The text after a time that follows a date, if there is one. -/
def skipDayTime (t : Text) : Text :=
  match t with
  | c :: rest =>
    if c = 'T' || c = 't' || c = ' ' then
      match skipTime rest with
      | some after => skipOffset after
      | none => t
    else t
  | [] => []

/-- The front of `t`, up to where `rest` begins, as a value. -/
def spelled (t rest : Text) : Value × Text := (.text (t.take (t.length - rest.length)), rest)

/-- Reads a date, a time, a number or a word of numbers.  What has the form of a date has to be
one. -/
def readPlain (t : Text) : Except Fault (Value × Text) :=
  match readDate t with
  | some ((year, month, day), rest) =>
    if 1 ≤ year && day ≤ daysIn year month then .ok (spelled t (skipDayTime rest))
    else .error .invalid
  | none =>
    match skipTime t with
    | some rest => .ok (spelled t rest)
    | none => readNumber t

end SpecifierLint.Toml
