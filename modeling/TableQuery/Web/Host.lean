import TableQuery.Web.Domain
import TableQuery.Web.Ip

/-!
# Hosts

A host in a web address is a domain or an internet address.  A domain is given by its
name; one that ends in a number must be an internet address, whose parts may be
written in decimal, octal or hexadecimal form.
-/

namespace TableQuery
namespace Web

inductive Fault where
  | relative
  | badPort
  | badIp4
  | badIp6
  | badDomain
  | emptyHost
  | badHostChar
  deriving Repr, DecidableEq

namespace Fault

def message : Fault → String
  | relative => "relative URL without a base"
  | badPort => "invalid port number"
  | badIp4 => "invalid IPv4 address"
  | badIp6 => "invalid IPv6 address"
  | badDomain => "invalid international domain name"
  | emptyHost => "empty host"
  | badHostChar => "invalid domain character"

end Fault

/-!
## Percent encoding
-/

def hexUpper (n : Nat) : Char :=
  (Nat.digitChar (n % 16)).toUpper

def encodeByte (b : UInt8) : List Char :=
  ['%', hexUpper (b.toNat / 16), hexUpper b.toNat]

/-- Controls and characters outside ASCII are always encoded, others if they belong
to the given ones. -/
def percentEncode (others : List Char) (cs : List Char) : List Char :=
  cs.flatMap fun c =>
    if c.toNat < 0x20 || 0x7F ≤ c.toNat || others.contains c then
      (Text.Utf8.encode [c]).flatMap encodeByte
    else
      [c]

def percentDecode : List Char → List UInt8
  | [] => []
  | '%' :: a :: b :: cs =>
      if Text.isHexDigit a && Text.isHexDigit b then
        (Text.hexValue [a, b]).toUInt8 :: percentDecode cs
      else
        0x25 :: percentDecode (a :: b :: cs)
  | c :: cs => Text.Utf8.encode [c] ++ percentDecode cs
termination_by cs => cs.length
decreasing_by all_goals (simp only [List.length_cons]; omega)

/-!
## Internet addresses as hosts
-/

/-- The value of digits to a base, if all of them are digits to it. -/
def baseValue? (base : Nat) (digits : List Char) : Option Nat :=
  if digits.all fun c => Text.isHexDigit c && Text.hexDigitValue c < base then
    some (digits.foldl (fun n c => base * n + Text.hexDigitValue c) 0)
  else
    none

/-- A part of an address: hexadecimal behind `0x`, octal behind `0`, else decimal. -/
def part? : List Char → Option Nat
  | [] => none
  | '0' :: 'x' :: digits => baseValue? 16 digits
  | '0' :: 'X' :: digits => baseValue? 16 digits
  | ['0'] => some 0
  | '0' :: digits => baseValue? 8 digits
  | digits => baseValue? 10 digits

/-- The parts of a domain between dots, without an empty one at the end. -/
def labels (domain : List Char) : List (List Char) :=
  let parts := Text.pieces '.' domain
  if parts.getLast? = some [] then parts.dropLast else parts

def endsInNumber (domain : List Char) : Bool :=
  match (labels domain).getLast? with
  | none => false
  | some label => (!label.isEmpty && label.all Char.isDigit) || (part? label).isSome

def byteValues (bytes : Nat) : Nat :=
  Nat.pow 256 bytes

/-- The address that a domain which ends in a number stands for: all parts but the
last are one byte, and the last fills the bytes that remain. -/
def ip4OfDomain (domain : List Char) : Except Fault Ip4 :=
  match (labels domain).mapM part? with
  | none => .error .badIp4
  | some parts =>
      let bytes := parts.dropLast
      let last := parts.getLast?.getD 0
      if 4 < parts.length || bytes.any (255 < ·) || byteValues (4 - bytes.length) ≤ last then
        .error .badIp4
      else
        let weighted := (List.range bytes.length).zipWith
          (fun i byte => byte * byteValues (3 - i)) bytes
        let value := weighted.foldl (· + ·) last
        .ok
          { a := value / byteValues 3, b := value / byteValues 2 % 256,
            c := value / 256 % 256, d := value % 256 }

def bracketed (inside : List Char) : Except Fault String :=
  match takeIp6? inside with
  | some (ip, []) => .ok ("[" ++ ip.groupsText ++ "]")
  | _ => .error .badIp6

/-- The inside of the brackets around a host that begins with one. -/
def inBrackets? (host : List Char) : Option (Except Fault (List Char)) :=
  match host with
  | '[' :: rest =>
      if rest.getLast? = some ']' then some (.ok rest.dropLast) else some (.error .badIp6)
  | _ => none

/-!
## Hosts of both kinds
-/

def webHost (host : List Char) : Except Fault String :=
  match inBrackets? host with
  | some inside => do bracketed (← inside)
  | none =>
      match (Text.Utf8.decode? (percentDecode host)).bind Domain.name? with
      | none => .error .badDomain
      | some name =>
          if name.isEmpty then .error .emptyHost
          else if endsInNumber name then do
            let ip ← ip4OfDomain name
            pure ip.text
          else .ok (String.ofList name)

/-- The text of a host in an address of another kind, which is not looked into. -/
def otherHost (host : List Char) : Except Fault String :=
  match inBrackets? host with
  | some inside => do bracketed (← inside)
  | none =>
      if host.any fun c => c.toNat = 0 || c = ' ' || hostMarks.contains c then
        .error .badHostChar
      else
        .ok (String.ofList (percentEncode [] host))

end Web
end TableQuery
