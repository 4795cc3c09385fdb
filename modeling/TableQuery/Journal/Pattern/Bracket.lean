import TableQuery.Journal.Pattern.Item
import TableQuery.Journal.Pattern.Nesting
import TableQuery.Text.Cut

/-!
# Brackets

Brackets stand for one of several characters.  Between them are characters, ranges and
named groups, further brackets, and operators that join what stands on either side.
-/

namespace TableQuery
namespace Journal
namespace Pattern

def groupNames : List String :=
  ["alnum", "alpha", "ascii", "blank", "cntrl", "digit", "graph", "lower", "print", "punct",
   "space", "upper", "word", "xdigit"]

/-- A named group behind a bracket: whether it is negated, and what follows it. -/
def takeGroup? : List Char → Option (Bool × List Char)
  | ':' :: cs =>
      let isNegated := cs.head? = some '^'
      let cs := if isNegated then cs.drop 1 else cs
      let name := String.ofList (cs.takeWhile (· != ':'))
      match cs.dropWhile (· != ':') with
      | ':' :: ']' :: rest => if groupNames.contains name then some (isNegated, rest) else none
      | _ => none
  | _ => none

/-- An open bracket: the items since the last operator, and the depth of what stands
before that operator. -/
structure Bracket where
  items : Series
  before : Option Nat
  deriving Repr, DecidableEq

namespace Bracket

def add (b : Bracket) (depth : Nat) : Bracket :=
  { b with items := b.items.add depth }

/-- The depth of what a bracket holds.  An operator stands one level above its sides. -/
def depth (b : Bracket) : Nat :=
  match b.before with
  | none => b.items.depth
  | some before => max before b.items.depth + 1

/-- A bracket behind one more operator, which takes all so far as its left side. -/
def operated (b : Bracket) : Bracket :=
  { items := Series.empty, before := some b.depth }

end Bracket

/-- The hyphens in front, which stand for themselves, as items of a bracket, and what
follows them. -/
def takeHyphens (m : Mode) (items : Series) : Nat → List Char → Series × List Char
  | 0, cs => (items, cs)
  | limit + 1, cs =>
      match cs with
      | '-' :: cs => takeHyphens m (items.add 0) limit (m.skip cs)
      | cs => (items, cs)

/-- A bracket with what is special only right behind the opening sign, and what follows:
a sign that negates, hyphens, and a closing sign that stands for itself. -/
def openBracket? (m : Mode) (cs : List Char) : Option (Bracket × List Char) :=
  let cs := m.skip cs
  let isNegated := cs.head? = some '^'
  let cs := if isNegated then m.skip (cs.drop 1) else cs
  let (items, rest) :=
    if cs.head? = some ']' then (Series.empty.add 0, m.skip (cs.drop 1))
    else takeHyphens m Series.empty cs.length cs
  if rest.isEmpty || isNegated && !m.isWide then none
  else some ({ items, before := none }, rest)

def takeItem? (m : Mode) : List Char → Option (Item × List Char)
  | [] => none
  | '\\' :: cs => takeEscape? m cs
  | c :: cs => some (.letter c.toNat false, cs)

def takeRange? (m : Mode) (cs : List Char) : Option (List Char) := do
  let (first, rest) ← takeItem? m cs
  let rest := m.skip rest
  let isReadable := first.isReadInside m
  match rest with
  | [] => none
  | '-' :: more =>
      let more := m.skip more
      if more.head? = some ']' || more.head? = some '-' then
        if isReadable then some rest else none
      else
        let (last, after) ← takeItem? m more
        match first, last with
        | .letter a _, .letter b _ =>
            if isReadable && last.isReadInside m && a ≤ b then some after else none
        | _, _ => none
  | _ => if isReadable then some rest else none

/-- The depth of a bracket inside those around it, and what follows the sign that closes
the outermost, within the given number of steps. -/
def closeBrackets? (m : Mode) :
    Nat → Bracket → List Bracket → List Char → Option (Nat × List Char)
  | 0, _, _, _ => none
  | steps + 1, b, outer, cs =>
      match m.skip cs with
      | [] => none
      | '[' :: rest =>
          match takeGroup? rest with
          | some (isNegated, rest) =>
              if isNegated && !m.isWide then none
              else closeBrackets? m steps (b.add 0) outer rest
          | none =>
              (openBracket? m rest).bind fun opened =>
                closeBrackets? m steps opened.1 (b :: outer) opened.2
      | ']' :: rest =>
          match outer with
          | [] => some (b.depth + 1, rest)
          | around :: outer => closeBrackets? m steps (around.add (b.depth + 1)) outer rest
      | '&' :: '&' :: rest => closeBrackets? m steps b.operated outer rest
      | '-' :: '-' :: rest => closeBrackets? m steps b.operated outer rest
      | '~' :: '~' :: rest => closeBrackets? m steps b.operated outer rest
      | cs => (takeRange? m cs).bind (closeBrackets? m steps (b.add 0) outer)

/-- The depth of a bracket, from behind the opening sign on, and what follows it.  Letters
of either case cannot be told among all characters. -/
def takeBrackets? (m : Mode) (cs : List Char) : Option (Nat × List Char) :=
  if m.isWide && m.isCaseless then none
  else
    (openBracket? m cs).bind fun opened =>
      closeBrackets? m (cs.length + 1) opened.1 [] opened.2

end Pattern
end Journal
end TableQuery
