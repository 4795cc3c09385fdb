import TableQuery.Decimal.Literal

/-!
# Numbers in JSON text

A number is read with the arithmetic of floating-point numbers: the digits are
collected in a significand of at most 64 bits, which is then multiplied or
divided by a power of ten.  The outcome is the nearest number wherever both are
exact, and it may be off by a little elsewhere.  A number that grows beyond the
finite ones has no value.
-/

namespace TableQuery
namespace Json

/-- What a significand stays below: it has 64 bits. -/
def significandBound : Nat :=
  0x10000000000000000

/-- Appends decimal digits to a significand while it fits 64 bits, and counts the
digits from the first one that does not fit. -/
def absorb (significand : Nat) : List Char → Nat × Nat
  | [] => (significand, 0)
  | c :: cs =>
      let next := 10 * significand + (c.toNat - '0'.toNat)
      if next < significandBound then absorb next cs else (significand, (c :: cs).length)

/-- A magnitude times a power of ten, if that is finite.  The power is applied at
once if it is itself a number, and in steps if it is smaller than all numbers. -/
def scale? (x : Float) (exponent : Int) : Option Float :=
  if exponent.natAbs ≤ 308 then
    let power := Decimal.nearest 1 exponent.natAbs
    if 0 ≤ exponent then
      (some (x * power)).filter Decimal.isFinite
    else
      some (x / power)
  else if x == 0.0 then
    some x
  else if 0 ≤ exponent then
    none
  else
    scale? (x / Decimal.nearest 1 308) (exponent + 308)
termination_by exponent.natAbs
decreasing_by omega

structure Numeral where
  negative : Bool
  whole : List Char
  fraction : Option (List Char)
  exponent : Option Int
  deriving Repr, DecidableEq

namespace Numeral

def magnitude? (n : Numeral) : Option Float :=
  let (significand, dropped) := absorb 0 n.whole
  match n.fraction, n.exponent, dropped with
  | none, none, 0 => some (Float.ofNat significand)
  | fraction, exponent, _ =>
      let digits := fraction.getD []
      let (significand, ignored) := absorb significand digits
      scale? (Float.ofNat significand)
        (exponent.getD 0 + dropped - (digits.length - ignored : Nat))

def value? (n : Numeral) : Option Float :=
  n.magnitude?.map fun x => if n.negative then -x else x

end Numeral

/-!
## The form of a number
-/

/-- At least one digit, and what follows. -/
def takeDigits? (cs : List Char) : Option (List Char × List Char) :=
  let (digits, rest) := Decimal.takeDigits cs
  if digits.isEmpty then none else some (digits, rest)

/-- Digits without a leading zero, and what follows. -/
def takeWhole? (cs : List Char) : Option (List Char × List Char) := do
  let (digits, rest) ← takeDigits? cs
  if digits.head? = some '0' && digits.length ≠ 1 then none else some (digits, rest)

def takeFraction? : List Char → Option (Option (List Char) × List Char)
  | '.' :: cs => (takeDigits? cs).map fun (digits, rest) => (some digits, rest)
  | cs => some (none, cs)

def takeExponent? : List Char → Option (Option Int × List Char)
  | [] => some (none, [])
  | c :: cs =>
      if c = 'e' || c = 'E' then
        let (negative, cs) := Decimal.takeSign cs
        (takeDigits? cs).map fun (digits, rest) =>
          let n : Int := Decimal.digitsValue digits
          (some (if negative then -n else n), rest)
      else
        some (none, c :: cs)

def takeNumeral? (cs : List Char) : Option (Numeral × List Char) := do
  let (negative, cs) :=
    match cs with
    | '-' :: cs => (true, cs)
    | cs => (false, cs)
  let (whole, cs) ← takeWhole? cs
  let (fraction, cs) ← takeFraction? cs
  let (exponent, cs) ← takeExponent? cs
  pure ({ negative, whole, fraction, exponent }, cs)

end Json
end TableQuery
