import TableQuery.Text.Blank
import TableQuery.Text.Hexadecimal

/-!
# Items of patterns

The single things that a pattern is made of, outside brackets and between them, and the
ways in which its characters are read.
-/

namespace TableQuery
namespace Journal
namespace Pattern

/-- How characters are read: with all of them known or ASCII alone, in either case of
letters or as they are, and with blanks that count or do not. -/
structure Mode where
  isWide : Bool
  isCaseless : Bool
  isSpaced : Bool
  deriving Repr, DecidableEq

/-- Patterns begin with all characters known, and with case and blanks that count. -/
def Mode.start : Mode :=
  { isWide := true, isCaseless := false, isSpaced := false }

/-- The text without the blanks and remarks in front, in a remark or not. -/
def skipRemarks (inRemark : Bool) : List Char → List Char
  | [] => []
  | c :: cs =>
      if inRemark then skipRemarks (c != '\n') cs
      else if Text.isBlank c then skipRemarks false cs
      else if c = '#' then skipRemarks true cs
      else c :: cs

namespace Mode

def skip (m : Mode) (cs : List Char) : List Char :=
  if m.isSpaced then skipRemarks false cs else cs

end Mode

/-!
## Single items
-/

/-- What stands for characters or for a place between them. -/
inductive Item where
  | letter (code : Nat) (isByte : Bool)
  | group (isNegated : Bool)
  | place
  | wordEnd
  deriving Repr, DecidableEq

/-- The code point in the given number of hexadecimal digits, and what follows. -/
def takeHex? (m : Mode) (digits : List Char) : Nat → List Char → Option (Nat × List Char)
  | 0, cs =>
      let n := Text.hexValue digits.reverse
      if n.isValidChar then some (n, cs) else none
  | count + 1, cs =>
      match cs with
      | [] => none
      | c :: cs =>
          if Text.isHexDigit c then takeHex? m (c :: digits) count (m.skip cs) else none

def controlLetters : List (Char × Nat) :=
  [('a', 0x07), ('f', 0x0C), ('t', 0x09), ('n', 0x0A), ('r', 0x0D), ('v', 0x0B)]

/-- What a backslash and the following characters are, if they are anything. -/
def takeEscape? (m : Mode) : List Char → Option (Item × List Char)
  | [] => none
  | c :: cs =>
      let hex (count : Nat) : Option (Item × List Char) :=
        (takeHex? m [] count (m.skip cs)).map fun found =>
          (.letter found.1 (c = 'x' && 0x7F < found.1), found.2)
      if c = 'x' then hex 2
      else if c = 'u' then hex 4
      else if c = 'U' then hex 8
      else if c = 'd' || c = 's' || c = 'w' then some (.group false, cs)
      else if c = 'D' || c = 'S' || c = 'W' then some (.group true, cs)
      else if c = 'A' || c = 'z' then some (.place, cs)
      else if c = 'b' || c = 'B' || c = '<' || c = '>' then some (.wordEnd, cs)
      else
        match controlLetters.lookup c with
        | some code => some (.letter code false, cs)
        | none =>
            if c.toNat < 0x80 && !c.isAlphanum then some (.letter c.toNat false, cs) else none

def Item.isRead (m : Mode) : Item → Bool
  | letter _ isByte => if m.isWide then !m.isCaseless else !isByte
  | group isNegated => !m.isWide && !isNegated
  | place => true
  | wordEnd => !m.isWide

def Item.isReadInside (m : Mode) : Item → Bool
  | letter code _ => m.isWide || code < 0x80
  | group isNegated => !m.isWide && !isNegated
  | place => false
  | wordEnd => false

end Pattern
end Journal
end TableQuery
