/-!
# Strings in JSON text

A string is written between double quotes.  A quote, a backslash and the control
characters are escaped, and nothing else is.  A string that is read may escape
any character, also as one or two units of four hexadecimal digits; units that
do not pair up stand for no text.
-/

namespace TableQuery
namespace Json

/-!
## Writing
-/

def hexDigit (n : Nat) : Char :=
  Nat.digitChar (n % 16)

def writeChar (c : Char) : List Char :=
  if c = '\x22' then ['\\', '\x22']
  else if c = '\\' then ['\\', '\\']
  else if c.toNat = 0x08 then ['\\', 'b']
  else if c.toNat = 0x09 then ['\\', 't']
  else if c.toNat = 0x0A then ['\\', 'n']
  else if c.toNat = 0x0C then ['\\', 'f']
  else if c.toNat = 0x0D then ['\\', 'r']
  else if c.toNat < 0x20 then
    ['\\', 'u', '0', '0', hexDigit (c.toNat / 16), hexDigit c.toNat]
  else [c]

def writeString (s : String) : List Char :=
  '\x22' :: s.toList.flatMap writeChar ++ ['\x22']

/-!
## Reading

The inside of a string is first read as numbers: a code point for each character
that stands for itself, and a unit for each escape.
-/

def hexValue? (c : Char) : Option Nat :=
  if '0' ≤ c && c ≤ '9' then some (c.toNat - 0x30)
  else if 'a' ≤ c && c ≤ 'f' then some (c.toNat - 0x57)
  else if 'A' ≤ c && c ≤ 'F' then some (c.toNat - 0x37)
  else none

def escapeUnit? (c : Char) : Option Nat :=
  if c = '\x22' || c = '\\' || c = '/' then some c.toNat
  else if c = 'b' then some 0x08
  else if c = 'f' then some 0x0C
  else if c = 'n' then some 0x0A
  else if c = 'r' then some 0x0D
  else if c = 't' then some 0x09
  else none

def hexUnit? (a b c d : Char) : Option Nat := do
  let a ← hexValue? a
  let b ← hexValue? b
  let c ← hexValue? c
  let d ← hexValue? d
  pure (((a * 16 + b) * 16 + c) * 16 + d)

/-- The units up to the closing quote, and what follows it. -/
def takeUnits? : List Char → Option (List Nat × List Char)
  | [] => none
  | '\\' :: 'u' :: a :: b :: c :: d :: cs => do
      let unit ← hexUnit? a b c d
      let (units, rest) ← takeUnits? cs
      pure (unit :: units, rest)
  | '\\' :: c :: cs => do
      let unit ← escapeUnit? c
      let (units, rest) ← takeUnits? cs
      pure (unit :: units, rest)
  | c :: cs =>
      if c = '\x22' then
        some ([], cs)
      else if c = '\\' || c.toNat < 0x20 then
        none
      else do
        let (units, rest) ← takeUnits? cs
        pure (c.toNat :: units, rest)

def isLeading (n : Nat) : Bool :=
  0xD800 ≤ n && n ≤ 0xDBFF

def isTrailing (n : Nat) : Bool :=
  0xDC00 ≤ n && n ≤ 0xDFFF

/-- The text of the units, if every leading unit stands before a trailing one and
every trailing unit behind a leading one. -/
def textOfUnits? : List Nat → Option (List Char)
  | [] => some []
  | n :: rest =>
      if isLeading n then
        match rest with
        | m :: rest =>
            if isTrailing m then
              (textOfUnits? rest).map
                (Char.ofNat (0x10000 + (n - 0xD800) * 0x400 + (m - 0xDC00)) :: ·)
            else
              none
        | [] => none
      else if isTrailing n then
        none
      else
        (textOfUnits? rest).map (Char.ofNat n :: ·)

end Json
end TableQuery
