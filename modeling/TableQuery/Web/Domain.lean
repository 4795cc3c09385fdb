import TableQuery.Text.Composition
import TableQuery.Text.Utf8
import TableQuery.Web.Domain.Direction
import TableQuery.Web.Domain.Joiners
import TableQuery.Web.Domain.Spelling
import TableQuery.Web.Punycode

/-!
# Domains

A domain may be written with the letters of any script.  Its name is what all its
spellings have in common, as far as it has one, and it is written with ASCII letters
alone: a label that needs other characters has an encoded form.
-/

namespace TableQuery
namespace Web

def hostMarks : List Char :=
  "#/:<>?@[\\]^|".toList

namespace Domain

open Text

/-- The characters that no domain contains, however its characters are spelled. -/
def isForbidden (c : Char) : Bool :=
  c.toNat ≤ 0x20 || c.toNat = 0x7F || c = '%' || hostMarks.contains c

/-- The one spelling of a domain, if all its characters have a place in it. -/
def spelled? (domain : List Char) : Option (List Char) :=
  match domain.mapM fun c => spelling? c.toNat with
  | none => none
  | some spellings =>
      let cs := (composed spellings.flatten).map Char.ofNat
      if cs.any isForbidden then none else some cs

/-!
## Labels
-/

def encodedMark : List Char :=
  "xn--".toList

/-- Encoded forms from this length on are not read. -/
def decodeLimit : Nat := 2001

/-- Labels from this length on are not encoded. -/
def encodeLimit : Nat := 1001

def isSpelled (ns : List Nat) : Bool :=
  ns.all (fun n => spelling? n == some [n]) && composed ns == ns

/-- The characters that an encoded form stands for: it stands for some outside ASCII,
and for nothing that is spelled otherwise. -/
def decoded? (encoded : List Char) : Option (List Nat) :=
  if encoded.any (fun c => 0x7F < c.toNat) || encoded.getLast?.getD '-' = '-' ||
      decodeLimit ≤ encoded.length then
    none
  else
    match Punycode.decode? encoded with
    | none => none
    | some ns => if isSpelled ns then some ns else none

/-- A label in its written form, with the characters that it stands for. -/
structure Label where
  written : List Char
  codes : List Nat
  deriving Repr, DecidableEq

/-- Whether a label begins with a character of its own, and its joiners have a place. -/
def isWellFormed (ns : List Nat) : Bool :=
  (ns.head?.map fun n => !isMark n : Option Bool).getD true && placeJoiners [] ns &&
    (ns.all (· < 0x80) || ns.length < encodeLimit)

def Label.ofSpelled? (cs : List Char) : Option Label := do
  let codes ←
    if encodedMark.isPrefixOf cs then decoded? (cs.drop encodedMark.length)
    else some (cs.map Char.toNat)
  if !isWellFormed codes then none
  else if cs.all fun c => c.toNat < 0x80 then some { written := cs, codes }
  else some { written := encodedMark ++ Punycode.encode codes, codes }

/-!
## Names
-/

def name? (domain : List Char) : Option (List Char) := do
  let cs ← spelled? domain
  let labels ← (pieces '.' cs).mapM Label.ofSpelled?
  if keepDirections (labels.map Label.codes) then
    some (List.intercalate ['.'] (labels.map Label.written))
  else
    none

end Domain
end Web
end TableQuery
