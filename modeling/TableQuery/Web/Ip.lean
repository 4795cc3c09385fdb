import TableQuery.Decimal.Literal
import TableQuery.Text.Hexadecimal

/-!
# Internet addresses

The two kinds of internet addresses, how they are read and how they are written.
A longer address may leave out one run of zero groups, and may end in a shorter
address; in writing, the first longest run of at least two zeros is left out.
-/

namespace TableQuery
namespace Web

/-- Four numbers below 256. -/
structure Ip4 where
  a : Nat
  b : Nat
  c : Nat
  d : Nat
  deriving Repr, DecidableEq

/-- Eight groups of sixteen bits. -/
structure Ip6 where
  groups : List Nat
  deriving Repr, DecidableEq

/-!
## Reading

A reader takes what it reads off the front and leaves the rest.
-/

/-- The digits off the front that belong to the class. -/
def takeRun (p : Char → Bool) (cs : List Char) : List Char × List Char :=
  (cs.takeWhile p, cs.dropWhile p)

/-- A number of at most three digits below 256, without leading zeros. -/
def takeOctet? (cs : List Char) : Option (Nat × List Char) :=
  let (digits, rest) := takeRun Char.isDigit cs
  let n := Decimal.digitsValue digits
  if digits.isEmpty || 3 < digits.length || 255 < n then none
  else if digits.head? = some '0' && 1 < digits.length then none
  else some (n, rest)

def takeChar? (c : Char) : List Char → Option (List Char)
  | [] => none
  | d :: cs => if d = c then some cs else none

def takeIp4? (cs : List Char) : Option (Ip4 × List Char) := do
  let (a, cs) ← takeOctet? cs
  let cs ← takeChar? '.' cs
  let (b, cs) ← takeOctet? cs
  let cs ← takeChar? '.' cs
  let (c, cs) ← takeOctet? cs
  let cs ← takeChar? '.' cs
  let (d, cs) ← takeOctet? cs
  pure ({ a, b, c, d }, cs)

/-- A group of one to four hexadecimal digits. -/
def takeGroup? (cs : List Char) : Option (Nat × List Char) :=
  let (digits, rest) := takeRun Text.isHexDigit cs
  if digits.isEmpty || 4 < digits.length then none else some (Text.hexValue digits, rest)

/-- What follows a colon, or everything at the start. -/
def afterColon? (isFirst : Bool) (cs : List Char) : Option (List Char) :=
  if isFirst then some cs else takeChar? ':' cs

/-- At most `n` groups with colons between them, as far as they go, and whether
they end in a shorter address, which stands for two groups. -/
def takeGroups (isFirst : Bool) : Nat → List Char → List Nat × Bool × List Char
  | 0, cs => ([], false, cs)
  | n + 1, cs =>
      let short := if n = 0 then none else (afterColon? isFirst cs).bind takeIp4?
      match short with
      | some (ip, rest) => ([ip.a * 256 + ip.b, ip.c * 256 + ip.d], true, rest)
      | none =>
          match (afterColon? isFirst cs).bind takeGroup? with
          | some (group, rest) =>
              let (groups, isShort, rest) := takeGroups false n rest
              (group :: groups, isShort, rest)
          | none => ([], false, cs)

def takeIp6? (cs : List Char) : Option (Ip6 × List Char) :=
  let (front, isShort, rest) := takeGroups true 8 cs
  if front.length = 8 then
    some ({ groups := front }, rest)
  else if isShort then
    none
  else
    match rest with
    | ':' :: ':' :: rest =>
        let (back, _, rest) := takeGroups true (7 - front.length) rest
        let zeros := List.replicate (8 - front.length - back.length) 0
        some ({ groups := front ++ zeros ++ back }, rest)
    | _ => none

/-!
## Writing
-/

namespace Ip4

def text (ip : Ip4) : String :=
  String.intercalate "." ([ip.a, ip.b, ip.c, ip.d].map toString)

end Ip4

namespace Ip6

def zeroRun (groups : List Nat) : Nat :=
  (groups.takeWhile (· == 0)).length

/-- The start and the length of the first longest run of zeros, where the groups
start at position `start`. -/
def longestRun (start : Nat) : List Nat → Nat × Nat
  | [] => (start, 0)
  | group :: groups =>
      let here := zeroRun (group :: groups)
      let later := longestRun (start + 1) groups
      if later.2 ≤ here then (start, here) else later

def groupText (group : Nat) : String :=
  String.ofList (Nat.toDigits 16 group)

def joinGroups (groups : List Nat) : String :=
  String.intercalate ":" (groups.map groupText)

/-- The groups in hexadecimal form, without the longest run of zeros. -/
def groupsText (ip : Ip6) : String :=
  let (start, length) := longestRun 0 ip.groups
  if 2 ≤ length then
    joinGroups (ip.groups.take start) ++ "::" ++ joinGroups (ip.groups.drop (start + length))
  else
    joinGroups ip.groups

def mapped? (ip : Ip6) : Option Ip4 :=
  match ip.groups with
  | [0, 0, 0, 0, 0, 0xFFFF, high, low] =>
      some { a := high / 256, b := high % 256, c := low / 256, d := low % 256 }
  | _ => none

/-- The text of an address; one that stands for a shorter address shows it. -/
def text (ip : Ip6) : String :=
  match ip.mapped? with
  | some short => "::ffff:" ++ short.text
  | none => ip.groupsText

end Ip6

end Web
end TableQuery
