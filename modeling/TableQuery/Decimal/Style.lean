import TableQuery.Decimal.Shortest

/-!
# Number text

How chosen digits are laid out: with a point between them, or with a power of
ten behind them.  A style fixes every decision, so that two formats that differ
only in these are two values of one type.
-/

namespace TableQuery
namespace Decimal

/-- The decisions of a number format. -/
structure Style where
  /-- Which of two equally near shortest decimals is written. -/
  tie : Tie
  /-- The least and the greatest exponent of the first digit that are written
  without a power of ten; all of them if there are no bounds. -/
  positional : Option (Int × Int)
  /-- Whether an integer ends in a point and a zero. -/
  marksIntegers : Bool
  deriving Repr, DecidableEq

namespace Style

/-- Digits with a point after the first `point` of them, filled up with zeros. -/
def writePositional (s : Style) (digits : List Char) (point : Int) : List Char :=
  if point ≤ 0 then
    '0' :: '.' :: (List.replicate point.natAbs '0' ++ digits)
  else if digits.length ≤ point.toNat then
    digits ++ List.replicate (point.toNat - digits.length) '0' ++
      (if s.marksIntegers then ['.', '0'] else [])
  else
    digits.take point.toNat ++ '.' :: digits.drop point.toNat

/-- One digit before the point, the others behind it, and a signed power of ten. -/
def writeScientific (digits : List Char) (exponent : Int) : List Char :=
  let mantissa :=
    match digits with
    | first :: second :: more => first :: '.' :: second :: more
    | few => few
  mantissa ++ 'e' :: (if exponent < 0 then '-' else '+') :: Nat.toDigits 10 exponent.natAbs

def writeScaled (s : Style) (d : Scaled) : List Char :=
  let digits := Nat.toDigits 10 d.coefficient
  let point := d.exponent + digits.length
  let isPositional :=
    match s.positional with
    | none => true
    | some (least, greatest) => least ≤ point - 1 && point - 1 ≤ greatest
  if isPositional then
    s.writePositional digits point
  else
    writeScientific digits (point - 1)

def write (s : Style) (b : Binary) : List Char :=
  (if b.negative then ['-'] else []) ++ s.writeScaled (b.shortest s.tie)

end Style

def writeInteger (n : Int) : List Char :=
  (if n < 0 then ['-'] else []) ++ Nat.toDigits 10 n.natAbs

end Decimal
end TableQuery
