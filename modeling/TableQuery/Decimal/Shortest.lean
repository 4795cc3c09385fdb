import TableQuery.Decimal.Binary

/-!
# Shortest digits

The fewest decimal digits that read back as a given binary number, and among
those the nearest to it.  All arithmetic is on natural numbers: a magnitude is
counted in quarters of the gap to its upper neighbour, so that the borders of
the interval that rounds to it are whole counts.
-/

namespace TableQuery
namespace Decimal

/-- The value `coefficient * 10 ^ exponent`. -/
structure Scaled where
  coefficient : Nat
  exponent : Int
  deriving Repr, DecidableEq

inductive Tie where
  | away
  | even
  deriving Repr, DecidableEq

/-- The number of decimal digits; zero has one. -/
def digitCount (n : Nat) : Nat :=
  (Nat.toDigits 10 n).length

/-!
## The interval of a number
-/

/-- The reals that round to a magnitude: those from `low` to `high`, in units of
`2 ^ exponent`, where `value` is the magnitude itself.  The ends belong to the
interval exactly for an even significand. -/
structure Interval where
  low : Nat
  value : Nat
  high : Nat
  exponent : Int
  closed : Bool
  deriving Repr, DecidableEq

/-- Below a power of two the gap is half as wide, except at the smallest one. -/
def Binary.interval (b : Binary) : Interval :=
  let narrow := b.significand == leadingBit && b.exponent != -1074
  { low := 4 * b.significand - (if narrow then 1 else 2)
    value := 4 * b.significand
    high := 4 * b.significand + 2
    exponent := b.exponent - 2
    closed := b.significand % 2 == 0 }

namespace Interval

/-- The two factors that bring a count of `10 ^ k` and a count of the interval's
unit to a common unit. -/
def factors (i : Interval) (k : Int) : Nat × Nat :=
  (Nat.pow 10 k.toNat * Nat.pow 2 (-i.exponent).toNat,
    Nat.pow 2 i.exponent.toNat * Nat.pow 10 (-k).toNat)

def contains (i : Interval) (k : Int) (d : Nat) : Bool :=
  let (ten, two) := i.factors k
  if i.closed then
    i.low * two ≤ d * ten && d * ten ≤ i.high * two
  else
    i.low * two < d * ten && d * ten < i.high * two

def floorAt (i : Interval) (k : Int) : Nat :=
  let (ten, two) := i.factors k
  i.value * two / ten

def nearer (i : Interval) (tie : Tie) (k : Int) (d : Nat) : Nat :=
  let (ten, two) := i.factors k
  let below := i.value * two - d * ten
  let above := (d + 1) * ten - i.value * two
  if below < above then d
  else if above < below then d + 1
  else
    match tie with
    | .away => d + 1
    | .even => if d % 2 = 0 then d else d + 1

/-- The multiple of `10 ^ k` in the interval that is nearest to the value. -/
def candidate? (i : Interval) (tie : Tie) (k : Int) : Option Nat :=
  let d := i.floorAt k
  match i.contains k d, i.contains k (d + 1) with
  | true, true => some (i.nearer tie k d)
  | true, false => some d
  | false, true => some (d + 1)
  | false, false => none

/-- The position of the first digit: the value is below `10 ^ magnitude`, and at
least a tenth of that. -/
def magnitude (i : Interval) : Int :=
  let (ten, two) := i.factors (-400)
  digitCount (i.value * two / ten) - 400

end Interval

/-!
## Choosing the digits
-/

def Scaled.normalize (d : Scaled) : Scaled :=
  if _h : d.coefficient ≠ 0 ∧ d.coefficient % 10 = 0 then
    normalize { coefficient := d.coefficient / 10, exponent := d.exponent + 1 }
  else
    d
termination_by d.coefficient
decreasing_by
  have : d.coefficient / 10 < d.coefficient := Nat.div_lt_self (by omega) (by decide)
  simpa using this

/-- The shortest decimal that rounds to the magnitude of `b`, found on the first
of the grids of one, two, ... seventeen digits that has a point in the interval. -/
def Binary.shortest (tie : Tie) (b : Binary) : Scaled :=
  if b.significand = 0 then
    { coefficient := 0, exponent := 0 }
  else
    let i := b.interval
    let top := i.magnitude
    let found := (List.range 17).findSome? fun (n : Nat) =>
      let k := top - ((n : Int) + 1)
      (i.candidate? tie k).map fun d => Scaled.mk d k
    match found with
    | some d => d.normalize
    | none => { coefficient := i.floorAt (top - 17), exponent := top - 17 }

end Decimal
end TableQuery
