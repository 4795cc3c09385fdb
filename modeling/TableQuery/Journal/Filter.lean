import TableQuery.Journal.Directive

/-!
# Filters of notes

A filter is a list of directives.  For each note, one of those that speak of it
decides: the one that names the part of the program most closely.
-/

namespace TableQuery
namespace Journal

/-- The directives of a filter: one that lets errors pass if there are none, and
nothing if one of them is not understood. -/
def filter? (text : String) : Option (List Directive) :=
  let parts := (Text.pieces ',' text.toList).filter fun part => !part.isEmpty
  if parts.isEmpty then some [Directive.all errorLevel] else parts.mapM directive?

/-- What passes without a filter, or with one that is not understood. -/
def usualFilter : List Directive :=
  [Directive.all infoLevel]

def filterOf (text : Option String) : List Directive :=
  (text.bind filter?).getD usualFilter

namespace Directive

def concerns (d : Directive) (note : Note) : Bool :=
  !d.isConditional && ((d.target.map fun t => t.toList.isPrefixOf note.source.toList).getD true) &&
    d.names.all note.names.contains

def weight (d : Directive) : Nat × Nat :=
  ((d.target.map fun t => t.utf8ByteSize + 1).getD 0, d.names.length)

/-- Whether a text comes behind another in the order of code points. -/
def isBehind : List Char → List Char → Bool
  | [], _ => false
  | _ :: _, [] => true
  | c :: cs, d :: ds => if c = d then isBehind cs ds else d.toNat < c.toNat

/-- Whether a directive decides before another one: it names a longer target, or more
values, or values whose names come behind. -/
def precedes (d e : Directive) : Bool :=
  if d.weight.1 = e.weight.1 then
    if d.weight.2 = e.weight.2 then
      isBehind (d.names.flatMap String.toList) (e.names.flatMap String.toList)
    else
      e.weight.2 < d.weight.2
  else
    e.weight.1 < d.weight.1

end Directive

/-- The one of two directives that decides: the later one if they name the same. -/
def closer (d e : Directive) : Directive :=
  if d.precedes e then d else e

def decisive? (directives : List Directive) (note : Note) : Option Directive :=
  match directives.filter fun d => d.concerns note with
  | [] => none
  | d :: ds => some (ds.foldl closer d)

def passes (directives : List Directive) (note : Note) : Bool :=
  match decisive? directives note with
  | none => false
  | some d => note.level ≤ d.level

end Journal
end TableQuery
