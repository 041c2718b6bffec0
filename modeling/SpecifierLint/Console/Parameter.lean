/-
The parameters of an action tag.

A tag whose name starts with `@` stands for an action, and what follows its equals sign are the
parameters of that action: the name of a handler, a list of values in brackets, or both.  The values
are literals: numbers, quoted texts, the constants, and pairs, sets and mappings of literals, where
the members of a set and the keys of a mapping have to be hashable.  Nothing is evaluated, and of a
literal only its shape is kept, for the one question that a console asks: whether the parameters can
be read.
-/
import SpecifierLint.Number.Decimal
import SpecifierLint.Text.Alphanumeric
import SpecifierLint.Text.Blank
import SpecifierLint.Text.CharacterName

namespace SpecifierLint.Console.Parameter

/-! ### Tokens -/

/-- What a literal is made of. -/
inductive Token where
  | number (imaginary : Bool)
  | quoted (bytes : Bool)
  | constant
  /-- The word `set`, which with empty brackets is the empty set. -/
  | setWord
  /-- A bracket, a comma, a colon or a sign. -/
  | mark (c : Char)
  /-- The end of a line outside all brackets. -/
  | lineEnd
  deriving DecidableEq, Repr

/-- The text with every line break as a single character. -/
def unifyBreaks : Text → Text
  | '\r' :: '\n' :: rest => '\n' :: unifyBreaks rest
  | '\r' :: rest => '\n' :: unifyBreaks rest
  | c :: rest => c :: unifyBreaks rest
  | [] => []

/-! ### Numbers -/

/-- The text after digits; single underscores may stand between them. -/
def afterDigits (digit : Char → Bool) : Text → Text
  | '_' :: c :: rest => if digit c then afterDigits digit rest else '_' :: c :: rest
  | c :: rest => if digit c then afterDigits digit rest else c :: rest
  | [] => []

/-- A digit in base sixteen. -/
def isHexDigit (c : Char) : Bool :=
  c.isDigit || ('a' ≤ c && c ≤ 'f') || ('A' ≤ c && c ≤ 'F')

/-- The digits of the base that a number names at its front. -/
def namedBase? : Text → Option (Char → Bool)
  | '0' :: c :: _ =>
    if c = 'x' || c = 'X' then some isHexDigit
    else if c = 'o' || c = 'O' then some fun d => '0' ≤ d && d ≤ '7'
    else if c = 'b' || c = 'B' then some fun d => d = '0' || d = '1'
    else none
  | _ => none

/-- The text after a point and the digits behind it. -/
def afterFraction? : Text → Option Text
  | '.' :: c :: rest => some (if c.isDigit then afterDigits Char.isDigit rest else c :: rest)
  | ['.'] => some []
  | _ => none

/-- The text after an exponent. -/
def afterExponent? : Text → Option Text
  | [] => none
  | e :: rest =>
    let digits := match rest with
      | '+' :: behind => behind
      | '-' :: behind => behind
      | _ => rest
    if (e = 'e' || e = 'E') && digits.head?.any Char.isDigit then
      some (afterDigits Char.isDigit digits)
    else none

/-- An integer in base ten has no zeros in front, unless it is zero, and not too many digits. -/
def isInteger (digits : Text) : Bool :=
  (digits.head? ≠ some '0' || digits.all (· = '0')) && digits.length ≤ integerDigits

/-- Reads a number: whether it is imaginary, and the text after it. -/
def readNumber? (t : Text) : Option (Bool × Text) :=
  match namedBase? t with
  | some digit =>
    let rest := t.drop 2
    let after := afterDigits digit rest
    if after.length < rest.length then some (false, after) else none
  | none =>
    let whole := afterDigits Char.isDigit t
    let fraction := afterFraction? whole
    let exponent := afterExponent? (fraction.getD whole)
    match exponent.getD (fraction.getD whole) with
    | 'j' :: rest => some (true, rest)
    | 'J' :: rest => some (true, rest)
    | rest =>
      if fraction.isSome || exponent.isSome
          || isInteger ((t.take (t.length - whole.length)).filter Char.isDigit) then
        some (false, rest)
      else none

/-! ### Quoted texts -/

/-- What stands before the closing quote, and the text after it.  A backslash takes the character
behind it along, and only a text in three quotes has line breaks. -/
def readBody? (triple : Bool) (quote : Char) : Text → Option (Text × Text)
  | [] => none
  | '\\' :: c :: rest =>
    (readBody? triple quote rest).map fun (body, after) => ('\\' :: c :: body, after)
  | c :: rest =>
    if c = quote && (!triple || rest.take 2 = [quote, quote]) then
      some ([], if triple then rest.drop 2 else rest)
    else if c = '\n' && !triple then none
    else (readBody? triple quote rest).map fun (body, after) => (c :: body, after)

/-- The text starts with that many digits in base sixteen. -/
def startsWithHex (count : Nat) (t : Text) : Bool :=
  (t.take count).length = count && (t.take count).all isHexDigit

/-- The escape that a backslash and a character start is complete.  Eight digits name a code point
only below the end of the planes, and `N` a character by its name; in bytes only two digits have a
meaning. -/
def isEscape (bytes : Bool) (c : Char) (rest : Text) : Bool :=
  if c = 'x' then startsWithHex 2 rest
  else if bytes then true
  else if c = 'u' then startsWithHex 4 rest
  else if c = 'U' then
    startsWithHex 8 rest && (rest.take 2 = "00" && (rest[2]? = some '0' || rest.take 4 = "0010"))
  else if c = 'N' then
    rest.head? = some '\x7b' && rest.contains '\x7d'
      && Text.isCharacterName ((rest.drop 1).takeWhile (· ≠ '\x7d'))
  else true

/-- All escapes of a body are complete. -/
def escapesComplete (bytes : Bool) : Text → Bool
  | '\\' :: c :: rest => isEscape bytes c rest && escapesComplete bytes rest
  | _ :: rest => escapesComplete bytes rest
  | [] => true

/-- The text after a quoted text that begins with its quote. -/
def afterQuoted? (raw bytes : Bool) : Text → Option Text
  | [] => none
  | quote :: rest =>
    let triple := rest.take 2 = [quote, quote]
    match readBody? triple quote (if triple then rest.drop 2 else rest) with
    | none => none
    | some (body, after) =>
      if (raw || escapesComplete bytes body) && (!bytes || body.all (·.toNat < 128)) then some after
      else none

/-- What a word in front of a quote says: whether backslashes stand for themselves, and whether the
text is made of bytes. -/
def quoteWord? (word : Text) : Option (Bool × Bool) :=
  let small := word.map Char.toLower
  if small.isEmpty || small = ("u" : Text) then some (false, false)
  else if small = ("r" : Text) then some (true, false)
  else if small = ("b" : Text) then some (false, true)
  else if small = ("br" : Text) || small = ("rb" : Text) then some (true, true)
  else none

/-! ### Reading tokens -/

/-- A character of a word. -/
def isWordChar (c : Char) : Bool := c.isAlphanum || c = '_' || 128 ≤ c.toNat

/-- Other forms of the letters of the word `set`, which stand for the letters themselves. -/
def letterForms : List (Char × List Nat) :=
  [('s', [0x17f, 0x2e2, 0x209b, 0xff53, 0x1d42c, 0x1d460, 0x1d494, 0x1d4c8, 0x1d4fc, 0x1d530, 0x1d564,
     0x1d598, 0x1d5cc, 0x1d600, 0x1d634, 0x1d668, 0x1d69c]),
   ('e', [0x1d49, 0x2091, 0x212f, 0x2147, 0xff45, 0x1d41e, 0x1d452, 0x1d486, 0x1d4ee, 0x1d522, 0x1d556,
     0x1d58a, 0x1d5be, 0x1d5f2, 0x1d626, 0x1d65a, 0x1d68e]),
   ('t', [0x1d57, 0x209c, 0xff54, 0x1d42d, 0x1d461, 0x1d495, 0x1d4c9, 0x1d4fd, 0x1d531, 0x1d565,
     0x1d599, 0x1d5cd, 0x1d601, 0x1d635, 0x1d669, 0x1d69d])]

/-- The letter that a character is a form of. -/
def plainLetter (c : Char) : Char :=
  ((letterForms.find? fun (_, forms) => forms.contains c.toNat).map Prod.fst).getD c

/-- Reads a word, or a quoted text with the word in front of it. -/
def readWord? (t : Text) : Option (Token × Text) :=
  let word := t.takeWhile isWordChar
  let rest := t.dropWhile isWordChar
  if rest.head? = some '\'' || rest.head? = some '"' then
    match quoteWord? word with
    | some (raw, bytes) => (afterQuoted? raw bytes rest).map fun after => (.quoted bytes, after)
    | none => none
  else if word = ("None" : Text) || word = ("True" : Text) || word = ("False" : Text) then
    some (.constant, rest)
  else if word.map plainLetter = ("set" : Text) then some (.setWord, rest)
  else none

/-- Reads a token that is neither blank nor a line break, inside `depth` brackets, and gives the
depth behind it. -/
def readToken? (depth : Nat) : Text → Option (Token × Nat × Text)
  | [] => none
  | c :: rest =>
    if c = '(' || c = '\x7b' then some (.mark c, depth + 1, rest)
    else if c = ')' || c = '\x7d' then if depth = 0 then none else some (.mark c, depth - 1, rest)
    else if c = ',' || c = ':' || c = '+' || c = '-' then some (.mark c, depth, rest)
    else if c = '.' && rest.take 2 = ("..": Text) then some (.constant, depth, rest.drop 2)
    else if c.isDigit || (c = '.' && rest.head?.any Char.isDigit) then
      (readNumber? (c :: rest)).map fun (imaginary, after) => (.number imaginary, depth, after)
    else (readWord? (c :: rest)).map fun (token, after) => (token, depth, after)

/-- Where a token stands on its line. -/
inductive Margin where
  /-- Only blanks come before it.  `indented` says that there are any, and `fixed` that the line goes
  on from one that has. -/
  | front (indented fixed : Bool)
  /-- Another token comes before it. -/
  | inside
  deriving DecidableEq, Repr

namespace Margin

/-- The margin at the front of a line. -/
def start : Margin := .front false false

/-- The margin behind a blank; a form feed starts the line anew. -/
def afterBlank (c : Char) : Margin → Margin
  | .front _ fixed => .front (c ≠ '\x0c') fixed
  | .inside => .inside

/-- The margin on a line that goes on from the one before. -/
def continued : Margin → Margin
  | .front indented fixed => .front indented (fixed || indented)
  | .inside => .inside

/-- A token can stand here: no line outside brackets is indented. -/
def allowsToken (depth : Nat) : Margin → Bool
  | .front indented fixed => depth ≠ 0 || !(indented || fixed)
  | .inside => true

end Margin

/-- How deep brackets may be nested. -/
def bracketRoom : Nat := 200

/-- The tokens of a text, inside `depth` brackets. -/
def tokensFrom (fuel depth : Nat) (margin : Margin) (t : Text) : Option (List Token) :=
  match fuel, t with
  | 0, _ => none
  | _ + 1, [] => if depth = 0 then some [] else none
  | fuel + 1, c :: rest =>
    if c = ' ' || c = '\t' || c = '\x0c' then tokensFrom fuel depth (margin.afterBlank c) rest
    else if c = '\n' then
      if depth = 0 then (tokensFrom fuel depth .start rest).map (Token.lineEnd :: ·)
      else tokensFrom fuel depth .inside rest
    else if c = '#' then tokensFrom fuel depth margin (rest.dropWhile (· ≠ '\n'))
    else if c = '\\' then
      match rest with
      | '\n' :: d :: behind => tokensFrom fuel depth margin.continued (d :: behind)
      | _ => none
    else if !margin.allowsToken depth then none
    else
      match readToken? depth (c :: rest) with
      | none => none
      | some (token, next, after) =>
        if bracketRoom < next then none
        else (tokensFrom fuel next .inside after).map (token :: ·)

/-- The tokens of a text. -/
def tokens? (t : Text) : Option (List Token) :=
  if t.contains '\x00' then none else tokensFrom (t.length + 1) 0 .start (unifyBreaks t)

/-! ### Shapes -/

/-- What the tokens at the front can be part of. -/
inductive Shape where
  | number (imaginary : Bool)
  | signed (imaginary : Bool)
  | setWord
  /-- Any other value. -/
  | value (hashable : Bool)
  deriving DecidableEq, Repr

namespace Shape

/-- The word `set` alone is no value. -/
def isValue (s : Shape) : Bool := s ≠ .setWord

/-- A value that a set can hold. -/
def isHashable (s : Shape) : Bool := s.isValue && s ≠ .value false

/-- A number that an imaginary one can be added to. -/
def isReal (s : Shape) : Bool := s = .number false || s = .signed false

/-- The pair of values between round brackets; a single value without a comma is itself. -/
def ofRound? : List Shape → Bool → Option Shape
  | [s], false => some s
  | shapes, _ => if shapes.all isValue then some (.value (shapes.all isHashable)) else none

end Shape

/-! ### Levels

The reader of literals goes down through many levels of its grammar, and there is an end to them. -/

/-- The levels that there are. -/
def levelRoom : Nat := 6000

/-- The levels from a literal down to its first token. -/
def levelsDown : Nat := 23

/-- The levels from a literal down to the first part of a quoted text. -/
def levelsToQuote : Nat := 25

/-- The levels from round brackets down to their first literal. -/
def levelsToFirst : Nat := 28

/-- The levels from round brackets down to their second literal. -/
def levelsToSecond : Nat := 30

/-- The levels from round brackets down to the literals after the second. -/
def levelsToLater : Nat := 31

/-- The levels from curly brackets down to their first entry. -/
def levelsToEntry : Nat := 29

/-- The levels from curly brackets down to the entries after the first. -/
def levelsToNextEntry : Nat := 30

/-- The levels from the word `set` down to what could stand in its brackets. -/
def levelsToArgument : Nat := 27

/-- There is room for a literal that starts at a level. -/
def hasLevels (level : Nat) : Bool := level + levelsDown ≤ levelRoom

/-- The word `set` with empty brackets behind it is the empty set. -/
def Shape.withCall? (level : Nat) (s : Shape) (rest : List Token) : Option (Shape × List Token) :=
  match s, rest with
  | .setWord, .mark '(' :: .mark ')' :: after =>
    if hasLevels (level + levelsToArgument) then some (.value false, after) else none
  | s, rest => some (s, rest)

mutual

/-- Reads a literal that starts at a level: a number, signed or not, with an imaginary number added to
it, or an operand. -/
def readLiteral? (fuel level : Nat) (tokens : List Token) : Option (Shape × List Token) :=
  match fuel with
  | 0 => none
  | fuel + 1 =>
    if !hasLevels level then none
    else
      match readSigned? fuel level tokens with
      | none => none
      | some (left, .mark c :: rest) =>
        if c = '+' || c = '-' then
          match readOperand? fuel level rest with
          | some (.number true, after) => if left.isReal then some (.value true, after) else none
          | _ => none
        else some (left, .mark c :: rest)
      | some (left, rest) => some (left, rest)

/-- Reads an operand, or a number with one sign. -/
def readSigned? (fuel level : Nat) (tokens : List Token) : Option (Shape × List Token) :=
  match fuel with
  | 0 => none
  | fuel + 1 =>
    match tokens with
    | .mark c :: rest =>
      if c = '+' || c = '-' then
        if !hasLevels (level + 1) then none
        else
          match readOperand? fuel (level + 1) rest with
          | some (.number imaginary, after) => some (.signed imaginary, after)
          | _ => none
      else readOperand? fuel level tokens
    | _ => readOperand? fuel level tokens

/-- Reads what has no sign: quoted texts in a row are one text. -/
def readOperand? (fuel level : Nat) (tokens : List Token) : Option (Shape × List Token) :=
  match fuel with
  | 0 => none
  | fuel + 1 =>
    match tokens with
    | .number imaginary :: rest => some (.number imaginary, rest)
    | .constant :: rest => some (.value true, rest)
    | .quoted bytes :: rest =>
      if level + levelsToQuote ≤ levelRoom then
        some (.value true, rest.dropWhile (· = .quoted bytes))
      else none
    | .setWord :: rest => Shape.setWord.withCall? level rest
    | .mark '(' :: .mark ')' :: rest =>
      if hasLevels (level + levelsToFirst) then some (.value true, rest) else none
    | .mark '(' :: rest =>
      match readLiteral? fuel (level + levelsToFirst) rest with
      | none => none
      | some (first, after) =>
        match readMore? fuel (level + levelsToSecond) (level + levelsToLater) ')' after with
        | none => none
        | some (shapes, comma, behind) =>
          (Shape.ofRound? (first :: shapes) comma).bind (·.withCall? level behind)
    | .mark '\x7b' :: .mark '\x7d' :: rest =>
      if hasLevels (level + levelsToEntry) then some (.value false, rest) else none
    | .mark '\x7b' :: rest =>
      match readLiteral? fuel (level + levelsToEntry) rest with
      | none => none
      | some (first, .mark ':' :: after) =>
        if first.isHashable then
          (readEntries? fuel (level + levelsToEntry) (level + levelsToNextEntry) after).map
            fun behind => (.value false, behind)
        else none
      | some (first, after) =>
        let next := level + levelsToNextEntry
        match readMore? fuel next next '\x7d' after with
        | some (shapes, _, behind) =>
          if (first :: shapes).all Shape.isHashable then some (.value false, behind) else none
        | none => none
    | _ => none

/-- Reads the literals after the first one, with commas between them, up to a closing bracket, and
tells whether a comma stands before the bracket.  The first of them is at level `next`, and the others
at level `later`. -/
def readMore? (fuel next later : Nat) (close : Char) (tokens : List Token) :
    Option (List Shape × Bool × List Token) :=
  match fuel with
  | 0 => none
  | fuel + 1 =>
    if tokens.head? = some (.mark close) then some ([], false, tokens.drop 1)
    else if tokens.take 2 = [.mark ',', .mark close] then
      if hasLevels next then some ([], true, tokens.drop 2) else none
    else if tokens.head? = some (.mark ',') then
      match readLiteral? fuel next (tokens.drop 1) with
      | none => none
      | some (shape, rest) =>
        (readMore? fuel later later close rest).map fun (shapes, comma, after) =>
          (shape :: shapes, comma, after)
    else none

/-- Reads the entries of a mapping from the value of the first one on, and gives the tokens after the
closing bracket.  The first value is at level `first`, and all after it at level `next`. -/
def readEntries? (fuel first next : Nat) (tokens : List Token) : Option (List Token) :=
  match fuel with
  | 0 => none
  | fuel + 1 =>
    match readLiteral? fuel first tokens with
    | some (value, rest) =>
      if !value.isValue then none
      else if rest.head? = some (.mark '\x7d') then some (rest.drop 1)
      else if rest.take 2 = [.mark ',', .mark '\x7d'] then
        if hasLevels next then some (rest.drop 2) else none
      else if rest.head? = some (.mark ',') then
        match readLiteral? fuel next (rest.drop 1) with
        | some (key, .mark ':' :: after) =>
          if key.isHashable then readEntries? fuel next next after else none
        | _ => none
      else none
    | none => none

end

/-! ### Parameters -/

/-- The level of a literal that stands alone, and that of the literals after it. -/
def outerLevels : Nat × Nat := (2, 4)

/-- The text is a literal, or several with commas between them. -/
def isLiteral (t : Text) : Bool :=
  match tokens? t with
  | none => false
  | some tokens =>
    let trimmed := (tokens.dropWhile (· = .lineEnd)).reverse.dropWhile (· = .lineEnd)
    let fuel := 4 * tokens.length + 8
    match readLiteral? fuel outerLevels.1 (Token.mark ')' :: trimmed).reverse with
    | none => false
    | some (first, rest) =>
      match readMore? fuel outerLevels.2 outerLevels.2 ')' rest with
      | some (shapes, comma, []) => (Shape.ofRound? (first :: shapes) comma).any Shape.isValue
      | _ => false

/-- A character of the name of a handler. -/
def isHandlerChar (c : Char) : Bool := Text.isAlphanumeric c || c = '_' || c = '.'

/-- The parameters can be read: they are a handler, one with values in brackets behind it, or
literals. -/
def isReadable (parameters : Text) : Bool :=
  let trimmed := Text.trimBlanks parameters
  let values := trimmed.dropWhile isHandlerChar
  if values.isEmpty then true
  else if values.head? = some '(' && values.getLast? = some ')' && !values.contains '\n' then
    isLiteral values
  else isLiteral trimmed

example : isReadable "app.open('a', -1, \x7b1: None\x7d)" = true := by decide +kernel

example : isReadable "open(\x7b\x7b1\x7d\x7d)" = false := by decide +kernel

end SpecifierLint.Console.Parameter
