import TableQuery.Journal.Pattern.Bracket
import TableQuery.Text.Alphanumeric

/-!
# Patterns

A filter may hold patterns for the values of a note.  Only their form matters here: a
pattern that is malformed or nested too deeply, or asks for what is not known of
characters outside ASCII, makes its filter one that is not understood.  Within a filter a
pattern holds no closing brace, so there are no counted repetitions in it.
-/

namespace TableQuery
namespace Journal
namespace Pattern

/-!
## Parentheses
-/

/-- What an opening parenthesis begins: a part of the pattern, which may have a name, or
a change of the mode for the rest of the part that it stands in. -/
inductive Opening where
  | part (mode : Mode) (name : List Char)
  | change (mode : Mode)
  deriving Repr, DecidableEq

/-- The mode after the flags, of which none is given twice; those behind a hyphen are
taken back. -/
def Mode.withFlags? (m : Mode) (flags : List Char) : Option Mode :=
  let names := "imsRUux".toList
  let given := flags.takeWhile (· != '-')
  let taken := (flags.dropWhile (· != '-')).drop 1
  let isDangling := flags.contains '-' && taken.isEmpty
  if (given ++ taken).all names.contains && (given ++ taken).eraseDups == given ++ taken &&
      !isDangling then
    let set (flag : Char) (old : Bool) : Bool :=
      if given.contains flag then true else if taken.contains flag then false else old
    some { isWide := set 'u' m.isWide, isCaseless := set 'i' m.isCaseless
           isSpaced := set 'x' m.isSpaced }
  else
    none

def startsName (c : Char) : Bool :=
  c = '_' || Text.isAlphabetic c

def isNameChar (c : Char) : Bool :=
  c = '_' || c = '.' || c = '[' || c = ']' || Text.isAlphanumeric c

def takeName? (cs : List Char) : Option (List Char × List Char) := do
  let (name, rest) ← Text.cut? '>' cs
  let first ← name.head?
  if startsName first && name.all isNameChar then some (name, rest) else none

/-- What an opening parenthesis begins, from behind it on.  A part that only looks
around, and flags that are none, are not understood. -/
def takeOpening? (m : Mode) (cs : List Char) : Option (Opening × List Char) :=
  let named (cs : List Char) : Option (Opening × List Char) :=
    (takeName? cs).map fun found => (.part m found.1, found.2)
  match m.skip cs with
  | '?' :: 'P' :: '<' :: rest => named rest
  | '?' :: '<' :: rest => named rest
  | '?' :: rest =>
      let isEnd (c : Char) : Bool := c = ':' || c = ')'
      let flags := rest.takeWhile fun c => !isEnd c
      match rest.dropWhile fun c => !isEnd c with
      | ':' :: rest => (m.withFlags? flags).map fun mode => (.part mode [], rest)
      | ')' :: rest =>
          if flags.isEmpty then none
          else (m.withFlags? flags).map fun mode => (.change mode, rest)
      | _ => none
  | rest => some (.part m [], rest)

/-!
## Whole patterns
-/

/-- A part of a pattern that is being read: its mode, the branches that are finished, the
things in the branch at hand, and the depth of the last of them if it can be repeated. -/
structure Part where
  mode : Mode
  branches : Series
  things : Series
  last : Option Nat
  deriving Repr, DecidableEq

namespace Part

def opened (m : Mode) : Part :=
  { mode := m, branches := Series.empty, things := Series.empty, last := none }

def add (p : Part) (depth : Nat) : Part :=
  { p with things := p.things.add depth, last := some depth }

/-- A part with a change of its mode, which is a thing that cannot be repeated. -/
def changed (p : Part) (m : Mode) : Part :=
  { p with mode := m, things := p.things.add 0, last := none }

/-- A part whose last thing is repeated, which is one level deeper. -/
def repeated? (p : Part) : Option Part :=
  p.last.map fun depth =>
    { p with
      things := { p.things with deepest := max p.things.deepest (depth + 1) }
      last := some (depth + 1) }

def branched (p : Part) : Part :=
  { p with branches := p.branches.add p.things.depth, things := Series.empty, last := none }

def depth (p : Part) : Nat :=
  p.branched.branches.depth

end Part

/-- The state of a reader: the part that it is in, the parts around, and the names given
to parts. -/
structure Reader where
  part : Part
  outer : List Part
  names : List (List Char)
  deriving Repr, DecidableEq

namespace Reader

def start : Reader :=
  { part := Part.opened Mode.start, outer := [], names := [] }

def add (r : Reader) (depth : Nat) : Reader :=
  { r with part := r.part.add depth }

/-- A reader behind an opening parenthesis, if the name is not given yet. -/
def opened? (r : Reader) : Opening → Option Reader
  | .part mode name =>
      if r.names.contains name then none
      else
        some
          { part := Part.opened mode, outer := r.part :: r.outer
            names := if name.isEmpty then r.names else name :: r.names }
  | .change mode => some { r with part := r.part.changed mode }

/-- A reader behind a closing parenthesis, if a part is open. -/
def closed? (r : Reader) : Option Reader :=
  match r.outer with
  | [] => none
  | around :: outer => some { r with part := around.add (r.part.depth + 1), outer }

def step? (r : Reader) : List Char → Option (Reader × List Char)
  | [] => none
  | '(' :: cs => do
      let (opening, rest) ← takeOpening? r.part.mode cs
      let r ← r.opened? opening
      some (r, rest)
  | ')' :: cs => r.closed?.map fun r => (r, cs)
  | '|' :: cs => some ({ r with part := r.part.branched }, cs)
  | '[' :: cs =>
      (takeBrackets? r.part.mode cs).map fun (depth, rest) => (r.add depth, rest)
  | '\x7b' :: _ => none
  | '.' :: cs => if r.part.mode.isWide then some (r.add 0, cs) else none
  | '\\' :: cs => do
      let (item, rest) ← takeEscape? r.part.mode cs
      if item.isRead r.part.mode then some (r.add 0, rest) else none
  | c :: cs =>
      if c = '?' || c = '*' || c = '+' then
        r.part.repeated?.map fun part =>
          ({ r with part }, if cs.head? = some '?' then cs.drop 1 else cs)
      else if c = '^' || c = '$' || (Item.letter c.toNat false).isRead r.part.mode then
        some (r.add 0, cs)
      else
        none

/-- Whether a reader comes to the end within the given number of steps, with all parts
closed and none of them too deep. -/
def readsAll (r : Reader) : Nat → List Char → Bool
  | 0, _ => false
  | steps + 1, cs =>
      match r.part.mode.skip cs with
      | [] => r.outer.isEmpty && r.part.depth ≤ depthLimit
      | cs =>
          match r.step? cs with
          | none => false
          | some (r, rest) => r.readsAll steps rest

end Reader

def isPattern (cs : List Char) : Bool :=
  Reader.start.readsAll (cs.length + 1) cs

end Pattern
end Journal
end TableQuery
