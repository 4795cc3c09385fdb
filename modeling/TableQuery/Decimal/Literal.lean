import TableQuery.Decimal.Binary

/-!
# Reading numbers

A number is written as an optional sign, digits with at most one point among
them and at least one digit, and an optional power of ten; or it is one of the
words for infinity and for an undefined number.  The value is the nearest
floating-point number.
-/

namespace TableQuery
namespace Decimal

def digitsValue (cs : List Char) : Nat :=
  cs.foldl (fun n c => 10 * n + (c.toNat - '0'.toNat)) 0

/-- The longest beginning made of digits, and what follows it. -/
def takeDigits (cs : List Char) : List Char × List Char :=
  (cs.takeWhile Char.isDigit, cs.dropWhile Char.isDigit)

/-- The nearest floating-point number to `coefficient * 10 ^ exponent`.  Beyond
the bounds the value is too large or too small for every digit count. -/
def nearest (coefficient : Nat) (exponent : Int) : Float :=
  if coefficient = 0 then
    0.0
  else
    let magnitude := exponent + (Nat.toDigits 10 coefficient).length
    if 400 < magnitude then
      1.0 / 0.0
    else if magnitude < -400 then
      0.0
    else
      Float.ofScientific coefficient (exponent < 0) exponent.natAbs

/-- An optional sign: whether it is a minus, and what follows. -/
def takeSign : List Char → Bool × List Char
  | '-' :: cs => (true, cs)
  | '+' :: cs => (false, cs)
  | cs => (false, cs)

/-- The power of ten at the end of a number. -/
def exponent? : List Char → Option Int
  | [] => some 0
  | c :: cs =>
      if c = 'e' || c = 'E' then
        let (negative, digits) := takeSign cs
        if digits.isEmpty || !digits.all Char.isDigit then
          none
        else
          let n : Int := digitsValue digits
          some (if negative then -n else n)
      else
        none

def magnitude? (cs : List Char) : Option Float :=
  let (whole, rest) := takeDigits cs
  let (fraction, rest) :=
    match rest with
    | '.' :: rest => takeDigits rest
    | rest => ([], rest)
  if whole.isEmpty && fraction.isEmpty then
    none
  else
    (exponent? rest).map fun e =>
      nearest (digitsValue (whole ++ fraction)) (e - fraction.length)

def word? (cs : List Char) : Option Float :=
  let word := String.ofList (cs.map Char.toLower)
  if word = "inf" || word = "infinity" then some (1.0 / 0.0)
  else if word = "nan" then some (0.0 / 0.0)
  else none

/-- The number that the whole text is written for. -/
def read? (cs : List Char) : Option Float :=
  let (negative, rest) := takeSign cs
  let magnitude := (word? rest).or (magnitude? rest)
  magnitude.map fun x => if negative then -x else x

def readFinite? (cs : List Char) : Option Float :=
  (read? cs).filter isFinite

end Decimal
end TableQuery
