import TableQuery.Text.Composites
import TableQuery.Text.Marks

/-!
# Composed texts

One text can be written in several ways: with composites, or with the characters that
they are the same as, and with its marks in several orders.  The composed form is the
same for all of them.  It is found by taking composites apart, putting marks in the
order of their classes, and putting characters together again.
-/

namespace TableQuery
namespace Text

/-!
## Taking apart
-/

/-- Syllables with all combinations of 19 initials, 21 vowels and 27 finals or none. -/
def isSyllable (n : Nat) : Bool :=
  0xAC00 ≤ n && n ≤ 0xD7A3

def syllableParts (n : Nat) : List Nat :=
  let k := n - 0xAC00
  let two := [0x1100 + k / 588, 0x1161 + k % 588 / 28]
  if k % 28 = 0 then two else two ++ [0x11A7 + k % 28]

/-- The characters that a character is the same as, where composites are taken apart
as many times as given. -/
def parts : Nat → Nat → List Nat
  | 0, n => [n]
  | depth + 1, n =>
      if isSyllable n then
        syllableParts n
      else
        match (runOf? composites n).map Run.values with
        | some [a, b] => parts depth a ++ [b]
        | _ => [n]

/-- Taken apart as many times, no composite is left. -/
def compositeDepth : Nat := 3

/-!
## Marks in order
-/

/-- Puts a character in front, behind the marks of lower classes if it is a mark. -/
def putMark (n : Nat) : List Nat → List Nat
  | [] => [n]
  | m :: rest =>
      if 0 < markClass m && markClass m < markClass n then m :: putMark n rest
      else n :: m :: rest

def orderMarks (ns : List Nat) : List Nat :=
  ns.foldr putMark []

/-!
## Putting together
-/

def composite? (a b : Nat) : Option Nat :=
  if 0x1100 ≤ a && a ≤ 0x1112 && 0x1161 ≤ b && b ≤ 0x1175 then
    some (0xAC00 + ((a - 0x1100) * 21 + (b - 0x1161)) * 28)
  else if isSyllable a && (a - 0xAC00) % 28 == 0 && 0x11A8 ≤ b && b ≤ 0x11C2 then
    some (a + (b - 0x11A7))
  else
    (composites.find? fun run => run.values == [a, b]).map Run.first

/-- Puts what follows a character together with it, as far as the marks between them
let it through: they are of lower classes.  The marks that stay are given in reverse. -/
def gather (base : Nat) (marks : List Nat) : List Nat → List Nat
  | [] => base :: marks.reverse
  | n :: rest =>
      let isNear := (marks.head?.map fun m => markClass m < markClass n : Option Bool).getD true
      match if isNear then composite? base n else none with
      | some joined => gather joined marks rest
      | none =>
          if markClass n = 0 then
            base :: marks.reverse ++ gather n [] rest
          else
            gather base (n :: marks) rest

def putTogether : List Nat → List Nat
  | [] => []
  | n :: rest => if markClass n = 0 then gather n [] rest else n :: putTogether rest

def composed (ns : List Nat) : List Nat :=
  putTogether (orderMarks (ns.flatMap (parts compositeDepth)))

end Text
end TableQuery
