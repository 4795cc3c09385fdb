import TableQuery.Web.Ip

/-!
# Addresses to listen on

An address is an internet address and a port.  A longer internet address stands in
brackets and may name the interface that it belongs to.
-/

namespace TableQuery
namespace Settings

inductive Address where
  | short (ip : Web.Ip4) (port : Nat)
  | long (ip : Web.Ip6) (scope port : Nat)
  deriving Repr, DecidableEq

namespace Address

/-- A number below the bound, with any number of leading zeros. -/
def takeNumber? (bound : Nat) (cs : List Char) : Option (Nat × List Char) :=
  let (digits, rest) := Web.takeRun Char.isDigit cs
  let n := Decimal.digitsValue digits
  if digits.isEmpty || bound ≤ n then none else some (n, rest)

def takePort? (cs : List Char) : Option (Nat × List Char) := do
  let cs ← Web.takeChar? ':' cs
  takeNumber? 0x10000 cs

def takeShort? (cs : List Char) : Option (Address × List Char) := do
  let (ip, cs) ← Web.takeIp4? cs
  let (port, cs) ← takePort? cs
  pure (short ip port, cs)

/-- The number of an interface after a percent sign; zero without one. -/
def takeScope (cs : List Char) : Nat × List Char :=
  match (Web.takeChar? '%' cs).bind (takeNumber? 0x100000000) with
  | some (scope, rest) => (scope, rest)
  | none => (0, cs)

def takeLong? (cs : List Char) : Option (Address × List Char) := do
  let cs ← Web.takeChar? '[' cs
  let (ip, cs) ← Web.takeIp6? cs
  let (scope, cs) := takeScope cs
  let cs ← Web.takeChar? ']' cs
  let (port, cs) ← takePort? cs
  pure (long ip scope port, cs)

def read? (text : String) : Option Address :=
  match (takeShort? text.toList).or (takeLong? text.toList) with
  | some (address, []) => some address
  | _ => none

def text : Address → String
  | short ip port => ip.text ++ ":" ++ toString port
  | long ip scope port =>
      let scopeText := if scope = 0 then "" else "%" ++ toString scope
      "[" ++ ip.text ++ scopeText ++ "]:" ++ toString port

end Address
end Settings
end TableQuery
