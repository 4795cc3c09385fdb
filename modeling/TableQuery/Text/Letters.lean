/-!
# Letter case

Two ways to ignore the case of letters.  Keywords ignore the case of the
letters `A` to `Z` only.  Names of functions and joins are compared by their
upper-case form in full, which also reads a few letters outside ASCII as ASCII
ones: the long s is an `S`, and a ligature is the letters that it joins.
-/

namespace TableQuery
namespace Text

/-- Equality up to the case of the ASCII letters. -/
def sameWord (s t : List Char) : Bool :=
  s.map Char.toLower == t.map Char.toLower

/-!
## Upper case

The table holds every character outside ASCII whose upper-case form is made of
ASCII letters.  All other characters outside ASCII have an upper-case form that
is not, so they may stand for themselves: no name that the library looks for
contains either.
-/

/-- The upper-case form of one character, exact wherever it is ASCII. -/
def upperChar (c : Char) : List Char :=
  match c.toNat with
  | 0x00DF => ['S', 'S']
  | 0x0131 => ['I']
  | 0x017F => ['S']
  | 0xFB00 => ['F', 'F']
  | 0xFB01 => ['F', 'I']
  | 0xFB02 => ['F', 'L']
  | 0xFB03 => ['F', 'F', 'I']
  | 0xFB04 => ['F', 'F', 'L']
  | 0xFB05 => ['S', 'T']
  | 0xFB06 => ['S', 'T']
  | _ => [c.toUpper]

def upper (cs : List Char) : List Char :=
  cs.flatMap upperChar

@[simp]
theorem upper_cons (c : Char) (cs : List Char) :
    upper (c :: cs) = upperChar c ++ upper cs :=
  rfl

end Text
end TableQuery
