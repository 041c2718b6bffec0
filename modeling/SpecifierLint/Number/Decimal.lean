/-
Decimal texts of binary floating numbers.

A number that is written with a point or an exponent is kept with 53 significant binary digits, as
double precision does.  It is shown by the fewest decimal digits that read back to the same number,
so it is stored as that decimal.  Everything here is exact arithmetic on natural numbers:

* `Binary.ofDecimal` rounds a decimal to the nearest double, an exact half to the even neighbour;
* `Binary.shortest` finds the shortest decimal in the interval of numbers that round to a double;
* `Floating.text` writes a number, positionally for exponents from -4 to 15.
-/
import SpecifierLint.Text.Basic

namespace SpecifierLint

/-- The most decimal digits that an integer may be written with. -/
def integerDigits : Nat := 4300

/-- The least natural number with more digits than that. -/
def integerLimit : Nat := Nat.pow 10 integerDigits

/-- The number `digits * 10 ^ exponent`, with its sign. -/
structure Decimal where
  negative : Bool
  digits : Nat
  exponent : Int
  deriving DecidableEq, Repr

/-- A number in double precision, as its shortest decimal. -/
inductive Floating where
  | finite (value : Decimal)
  | infinite (negative : Bool)
  | undefined
  deriving DecidableEq, Repr

/-- The number `significand * 2 ^ exponent`. -/
structure Binary where
  significand : Nat
  exponent : Int
  deriving DecidableEq, Repr

namespace Binary

/-- The quotient of two numbers rounded to the nearest, an exact half to the even neighbour. -/
def roundedQuotient (num den : Nat) : Nat :=
  let q := num / den
  let twice := 2 * (num % den)
  if den < twice || (twice == den && q % 2 == 1) then q + 1 else q

/-- Numerator and denominator of `num / den / 2 ^ e`. -/
def scaleDown (num den : Nat) (e : Int) : Nat × Nat :=
  if 0 ≤ e then (num, den * Nat.pow 2 e.toNat) else (num * Nat.pow 2 (-e).toNat, den)

/-- The least exponent of a double and the greatest. -/
def leastExponent : Int := -1074

/-- See `leastExponent`. -/
def greatestExponent : Int := 971

/-- The double nearest to a positive fraction, or none if it is too large. -/
def ofFraction (num den : Nat) : Option Binary :=
  let guess : Int := (Nat.log2 num : Int) - Nat.log2 den - 53
  let atGuess := scaleDown num den guess
  let fitted := if Nat.pow 2 53 ≤ atGuess.1 / atGuess.2 then guess + 1 else guess
  let e := max fitted leastExponent
  let scaled := scaleDown num den e
  let m := roundedQuotient scaled.1 scaled.2
  let result : Binary := if m = Nat.pow 2 53 then ⟨Nat.pow 2 52, e + 1⟩ else ⟨m, e⟩
  if greatestExponent < result.exponent then none else some result

/-- Numerator and denominator of `n * 10 ^ e`. -/
def decimalFraction (n : Nat) (e : Int) : Nat × Nat :=
  if 0 ≤ e then (n * Nat.pow 10 e.toNat, 1) else (n, Nat.pow 10 (-e).toNat)

/-- The exponent `e` with `10 ^ e ≤ num / den < 10 ^ (e + 1)`. -/
def decimalExponent (num den : Nat) : Int :=
  let guess : Int := (Nat.toDigits 10 num).length - (Nat.toDigits 10 den).length
  let power := decimalFraction 1 guess
  if power.1 * den ≤ num * power.2 then guess else guess - 1

/-- Whether `n * 10 ^ e` rounds to the double `b`: it lies between the midpoints to the neighbours,
and a midpoint itself counts if the significand is even. -/
def roundsTo (b : Binary) (n : Nat) (e : Int) : Bool :=
  let lowest : Nat :=
    if b.significand = Nat.pow 2 52 && leastExponent < b.exponent then 4 * b.significand - 1
    else 4 * b.significand - 2
  let highest : Nat := 4 * b.significand + 2
  let candidate := decimalFraction n e
  let scaled := scaleDown candidate.1 candidate.2 (b.exponent - 2)
  let above := lowest * scaled.2
  let below := highest * scaled.2
  if b.significand % 2 = 0 then above ≤ scaled.1 && scaled.1 ≤ below
  else above < scaled.1 && scaled.1 < below

/-- The value of a positive double as a fraction. -/
def fraction (b : Binary) : Nat × Nat :=
  if 0 ≤ b.exponent then (b.significand * Nat.pow 2 b.exponent.toNat, 1)
  else (b.significand, Nat.pow 2 (-b.exponent).toNat)

/-- The decimal with the given number of digits that is nearest to the double among those that read
back to it, if there is one. -/
def withDigits (b : Binary) (count : Nat) : Option (Nat × Int) :=
  let value := b.fraction
  let e := decimalExponent value.1 value.2 - (count - 1 : Nat)
  let unit := decimalFraction 1 e
  let num := value.1 * unit.2
  let den := value.2 * unit.1
  let nearest := roundedQuotient num den
  let floor := num / den
  let other := if nearest = floor then floor + 1 else floor
  if b.roundsTo nearest e then some (nearest, e)
  else if b.roundsTo other e then some (other, e)
  else none

/-- The shortest decimal that reads back to the double; seventeen digits always do. -/
def shortest (b : Binary) : Nat × Int :=
  ((List.range 17).findSome? fun i => b.withDigits (i + 1)).getD (b.significand, 0)

end Binary

namespace Floating

/-- Drops zeros at the end of the digits. -/
def stripZeros (fuel : Nat) (digits : Nat) (exponent : Int) : Nat × Int :=
  match fuel with
  | 0 => (digits, exponent)
  | fuel + 1 =>
    if digits ≠ 0 && digits % 10 = 0 then stripZeros fuel (digits / 10) (exponent + 1)
    else (digits, exponent)

/-- The double nearest to a decimal. -/
def ofDecimal (negative : Bool) (digits : Nat) (exponent : Int) : Floating :=
  let magnitude : Int := (Nat.toDigits 10 digits).length + exponent
  if digits = 0 || magnitude < -330 then .finite ⟨negative, 0, 0⟩
  else if 320 < magnitude then .infinite negative
  else
    let f := Binary.decimalFraction digits exponent
    match Binary.ofFraction f.1 f.2 with
    | none => .infinite negative
    | some b =>
      if b.significand = 0 then .finite ⟨negative, 0, 0⟩
      else
        let s := b.shortest
        let stripped := stripZeros 17 s.1 s.2
        .finite ⟨negative, stripped.1, stripped.2⟩

/-- The number is zero, with either sign. -/
def isZero : Floating → Bool
  | .finite d => d.digits == 0
  | _ => false

/-- The integer that a number is, if it is one: the double itself, not its decimal. -/
def integer? : Floating → Option Int
  | .finite d =>
    if d.digits = 0 then some 0
    else
      let f := Binary.decimalFraction d.digits d.exponent
      match Binary.ofFraction f.1 f.2 with
      | none => none
      | some b =>
        let value := b.fraction
        let sign : Int := if d.negative then -1 else 1
        if value.1 % value.2 = 0 then some (sign * (value.1 / value.2 : Nat)) else none
  | _ => none

/-- A decimal number: positional while its leading digit stands for a power of ten from -4 to 15,
always with a digit after the point; otherwise with an exponent of two digits or more. -/
def decimalText (d : Decimal) : Text :=
  let digits := Text.ofNat d.digits
  let lead : Int := digits.length - 1 + d.exponent
  let magnitude : Text :=
    if d.digits = 0 then "0.0"
    else if -4 ≤ lead && lead < 16 then
      if 0 ≤ d.exponent then digits ++ List.replicate d.exponent.toNat '0' ++ ".0"
      else if 0 ≤ lead then
        digits.take (lead.toNat + 1) ++ "." ++ digits.drop (lead.toNat + 1)
      else "0." ++ List.replicate (-lead - 1).toNat '0' ++ digits
    else
      let fractionPart : Text := if digits.length ≤ 1 then [] else '.' :: digits.drop 1
      let sign : Char := if lead < 0 then '-' else '+'
      let power := Text.ofNat lead.natAbs
      let padding : Text := if power.length < 2 then ['0'] else []
      digits.take 1 ++ fractionPart ++ ['e', sign] ++ padding ++ power
  (if d.negative then ['-'] else []) ++ magnitude

/-- The text of a number, where `names` are the words for a missing number and for infinity. -/
def text (undefinedWord infiniteWord : Text) : Floating → Text
  | .finite d => decimalText d
  | .infinite negative => (if negative then ['-'] else []) ++ infiniteWord
  | .undefined => undefinedWord

end Floating

example : (Floating.ofDecimal false 1 (-1)).text "nan" "inf" = ("0.1" : Text) := by decide +kernel

end SpecifierLint
