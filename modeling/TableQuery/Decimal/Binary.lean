/-!
# The parts of a binary number

A finite floating-point number is a sign, a natural number and a power of two.
Everything that is exact about a number, its digits and whether it is an
integer, is computed from these parts.
-/

namespace TableQuery
namespace Decimal

/-- The magnitude `significand * 2 ^ exponent` with a sign. -/
structure Binary where
  negative : Bool
  significand : Nat
  exponent : Int
  deriving Repr, DecidableEq

inductive Kind where
  | finite (parts : Binary)
  | infinite (negative : Bool)
  | notANumber
  deriving Repr, DecidableEq

def signBit : Nat :=
  0x8000000000000000

/-- The bit in front of the fraction, which is not among the 64. -/
def leadingBit : Nat :=
  0x10000000000000

/-- The fields of the 64 bits: sign, eleven bits of exponent, 52 of fraction. -/
def kindOfBits (bits : Nat) : Kind :=
  let negative := bits / signBit == 1
  let field : Nat := bits / leadingBit % 0x800
  let fraction := bits % leadingBit
  if field = 2047 then
    if fraction = 0 then .infinite negative else .notANumber
  else if field = 0 then
    .finite { negative, significand := fraction, exponent := -1074 }
  else
    .finite { negative, significand := fraction + leadingBit, exponent := (field : Int) - 1075 }

def kind (x : Float) : Kind :=
  kindOfBits x.toBits.toNat

/-- Neither infinite nor undefined. -/
def isFinite (x : Float) : Bool :=
  match kind x with
  | .finite _ => true
  | _ => false

namespace Binary

def natural? (b : Binary) : Option Nat :=
  if 0 ≤ b.exponent then
    some (b.significand * Nat.pow 2 b.exponent.toNat)
  else if b.significand % Nat.pow 2 b.exponent.natAbs = 0 then
    some (b.significand / Nat.pow 2 b.exponent.natAbs)
  else
    none

/-- The number as an integer, if it is one.  Both zeros are the integer zero. -/
def integer? (b : Binary) : Option Int :=
  b.natural?.map fun n => if b.negative then -(n : Int) else n

end Binary

end Decimal
end TableQuery
