/-!
# Punycode

A text written with ASCII letters and digits alone.  The ASCII characters of the
text come first, before the last hyphen.  Behind it stand numbers, each of which
says which character comes next in the order of code points, and where it goes in
among those that are there.  The digits of a number weigh more or less with what
the numbers before it were.
-/

namespace TableQuery
namespace Web
namespace Punycode

/-!
## Numbers
-/

/-- The value of a digit: letters come before the decimal digits. -/
def digit? (c : Char) : Option Nat :=
  if 'a' ≤ c && c ≤ 'z' then some (c.toNat - 'a'.toNat)
  else if '0' ≤ c && c ≤ '9' then some (c.toNat - '0'.toNat + 26)
  else none

/-- A digit below this one ends its number. -/
def threshold (bias position : Nat) : Nat :=
  min 26 (max 1 (position - bias))

/-- Weights from this one on are not read. -/
def weightLimit : Nat := 0x100000000

/-- A number off the front, from the digit with the given position and weight on. -/
def takeNumber? (bias position weight : Nat) : List Char → Option (Nat × List Char)
  | [] => none
  | c :: cs =>
      match digit? c with
      | none => none
      | some d =>
          let t := threshold bias position
          if d < t then
            some (d * weight, cs)
          else if weightLimit ≤ weight * (36 - t) then
            none
          else
            (takeNumber? bias (position + 36) (weight * (36 - t)) cs).map fun more =>
              (d * weight + more.1, more.2)

theorem takeNumber?_shorter {bias position weight n : Nat} {cs rest : List Char}
    (h : takeNumber? bias position weight cs = some (n, rest)) : rest.length < cs.length := by
  induction cs generalizing position weight n rest with
  | nil =>
      simp [takeNumber?] at h
  | cons c cs ih =>
      simp only [takeNumber?] at h
      split at h
      · cases h
      · split at h
        · simp only [Option.some.injEq, Prod.mk.injEq] at h
          simp [h.2]
        · split at h
          · cases h
          · simp only [Option.map_eq_some_iff, Prod.mk.injEq] at h
            obtain ⟨⟨m, tail⟩, hmore, _, hrest⟩ := h
            have hlt : tail.length < cs.length := ih hmore
            have heq : tail.length = rest.length := congrArg List.length hrest
            simp only [List.length_cons]
            omega

/-- The steps of 36 that a bias gains from a number, and what remains of it. -/
def shrink (n steps : Nat) : Nat × Nat :=
  if 455 < n then shrink (n / 35) (steps + 36) else (n, steps)
termination_by n
decreasing_by omega

/-- The bias after a number, with the count of characters that there are then. -/
def adapt (number count : Nat) (isFirst : Bool) : Nat :=
  let damped := if isFirst then number / 700 else number / 2
  let (n, steps) := shrink (damped + damped / count) 0
  steps + 36 * n / (n + 38)

/-!
## Reading texts
-/

/-- Puts characters in among those of `found`: the next one is at least `code`, and
goes in `place` characters from the start or further on. -/
def fill? (bias code place : Nat) (found : List Nat) (isFirst : Bool) (cs : List Char) :
    Option (List Nat) :=
  if cs.isEmpty then
    some found
  else
    match _h : takeNumber? bias 36 1 cs with
    | none => none
    | some (number, rest) =>
        let count := found.length + 1
        let code := code + (place + number) / count
        let place := (place + number) % count
        if code.isValidChar then
          fill? (adapt number count isFirst) code (place + 1) (found.insertIdx place code)
            false rest
        else
          none
termination_by cs.length
decreasing_by exact takeNumber?_shorter _h

/-- The code points of a written text, whose letters are in lower case.  A hyphen in
front is not one that ends the ASCII characters. -/
def decode? (cs : List Char) : Option (List Nat) :=
  let ends := cs.reverse.takeWhile (· != '-')
  let before := (cs.reverse.dropWhile (· != '-')).drop 1
  if cs.head? = some '-' && before.isEmpty then
    none
  else
    fill? 72 0x80 0 (before.reverse.map Char.toNat) true ends.reverse

/-!
## Writing texts
-/

def digitChar (d : Nat) : Char :=
  if d < 26 then Char.ofNat ('a'.toNat + d) else Char.ofNat ('0'.toNat + (d - 26))

theorem threshold_bounds (bias position : Nat) :
    1 ≤ threshold bias position ∧ threshold bias position ≤ 26 := by
  unfold threshold
  omega

def writeNumber (bias position n : Nat) : List Char :=
  let t := threshold bias position
  if n < t then
    [digitChar n]
  else
    digitChar (t + (n - t) % (36 - t)) :: writeNumber bias (position + 36) ((n - t) / (36 - t))
termination_by n
decreasing_by
  have hbounds := threshold_bounds bias position
  have hdiv := Nat.div_le_self (n - threshold bias position) (36 - threshold bias position)
  omega

/-- What is written so far, and how many characters of the text it stands for.  The
number that comes next is counted up in `skipped`. -/
structure Written where
  digits : List Char
  count : Nat
  skipped : Nat
  bias : Nat
  isFirst : Bool
  deriving Repr, DecidableEq

namespace Written

/-- Passes a character of the text, where those below `code` are written already. -/
def pass (code : Nat) (w : Written) (n : Nat) : Written :=
  if n < code then
    { w with skipped := w.skipped + 1 }
  else if n = code then
    { digits := w.digits ++ writeNumber w.bias 36 w.skipped, count := w.count + 1, skipped := 0
      bias := adapt w.skipped (w.count + 1) w.isFirst, isFirst := false }
  else
    w

/-- Writes where the characters with each of the given code points go, which are in
rising order and at least `low`. -/
def writeAll (text : List Nat) (low : Nat) (w : Written) : List Nat → Written
  | [] => w
  | code :: codes =>
      let w := { w with skipped := w.skipped + (code - low) * (w.count + 1) }
      let w := text.foldl (pass code) w
      writeAll text (code + 1) { w with skipped := w.skipped + 1 } codes

end Written

def encode (text : List Nat) : List Char :=
  let plain := text.filter (· < 0x80)
  let codes := ((text.filter (0x80 ≤ ·)).mergeSort fun a b => Nat.ble a b).eraseDups
  let start : Written :=
    { digits := [], count := plain.length, skipped := 0, bias := 72, isFirst := true }
  plain.map Char.ofNat ++ (if plain.isEmpty then [] else ['-']) ++
    (Written.writeAll text 0x80 start codes).digits

end Punycode
end Web
end TableQuery
