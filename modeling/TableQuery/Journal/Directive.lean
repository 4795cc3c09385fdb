import TableQuery.Decimal.Literal
import TableQuery.Journal.Note
import TableQuery.Journal.Pattern
import TableQuery.Text.Letters

/-!
# Directives

A directive allows a level of detail for the notes of some parts of the program.  It
is a level alone, or the name that such parts begin with, then in brackets the activity
that a note is made in and a value that it holds, and then a level behind an equals
sign.  Blanks around a directive do not count for its form; its parts are nevertheless
cut out of the text with the blanks, by their distance from its start.
-/

namespace TableQuery
namespace Journal

/-- What is said of some notes.  A directive with conditions on the activity that a note
is made in never allows a note outside all of them. -/
structure Directive where
  target : Option String
  level : Level
  names : List String
  isConditional : Bool
  deriving Repr, DecidableEq

def Directive.all (level : Level) : Directive :=
  { target := none, level, names := [], isConditional := false }

/-!
## Levels
-/

def levelWord? (word : List Char) : Option Level :=
  if Text.sameWord word "off".toList then some 0
  else if Text.sameWord word "error".toList then some 1
  else if Text.sameWord word "warn".toList then some 2
  else if Text.sameWord word "info".toList then some 3
  else if Text.sameWord word "debug".toList then some 4
  else if Text.sameWord word "trace".toList then some 5
  else none

/-- A level is a word or a number up to five, which may have a plus sign. -/
def level? (cs : List Char) : Option Level :=
  let digits := if cs.head? = some '+' then cs.drop 1 else cs
  let n := Decimal.digitsValue digits
  if !digits.isEmpty && digits.all Char.isDigit && n ≤ 5 then some n else levelWord? cs

/-- The level behind an equals sign: all details if there is none. -/
def givenLevel? (cs : List Char) : Option Level :=
  if cs.isEmpty then some fullLevel else level? cs

/-!
## Parts of a text
-/

/-- The characters that begin at the given distances in bytes, where the text itself
begins at a distance. -/
def cutOut (start stop distance : Nat) : List Char → List Char
  | [] => []
  | c :: cs =>
      let rest := cutOut start stop (distance + c.utf8Size) cs
      if start ≤ distance && distance < stop then c :: rest else rest

def size : List Char → Nat
  | [] => 0
  | c :: cs => c.utf8Size + size cs

/-- A place in a directive: the text with the blanks around it, and what follows the
place in the text without them, at a distance in bytes from its start. -/
structure Place where
  whole : List Char
  distance : Nat
  rest : List Char
  deriving Repr, DecidableEq

namespace Place

def start (whole : List Char) : Place :=
  { whole, distance := 0, rest := Text.trim whole }

def next (p : Place) : Place :=
  { p with distance := p.distance + size (p.rest.take 1), rest := p.rest.drop 1 }

def takeUntil (p : Place) (marks : List Char) : List Char × Place :=
  let isPart (c : Char) : Bool := !marks.contains c
  let stop := p.distance + size (p.rest.takeWhile isPart)
  (cutOut p.distance stop 0 p.whole, { p with distance := stop, rest := p.rest.dropWhile isPart })

/-- All that follows the place, with the blanks at the end. -/
def remainder (p : Place) : List Char :=
  cutOut p.distance (size p.whole) 0 p.whole

end Place

/-!
## Reading directives
-/

def startsTarget (c : Char) : Bool :=
  c = '-' || c = ':' || c = '_' || Text.isAlphanumeric c

/-- What a value can be compared with: a number or a pattern. -/
def isValue (cs : List Char) : Bool :=
  (Decimal.read? cs).isSome || Pattern.isPattern cs

/-- A directive whose last part is a level behind the place of an equals sign. -/
def withLevel? (d : Directive) (p : Place) : Option Directive :=
  (givenLevel? p.next.remainder).map fun level => { d with level }

/-- What may follow the brackets: nothing, or a level. -/
def afterBrackets? (d : Directive) (p : Place) : Option Directive :=
  match p.rest with
  | [] => some d
  | '=' :: _ => withLevel? d p
  | _ => none

/-- A condition on a value: its name alone, or what it is compared with, which only an
activity can meet. -/
def withField? (d : Directive) (field : List Char) : Option Directive :=
  match Text.pieces '=' field with
  | [name] => if name.isEmpty then none else some { d with names := [String.ofList name] }
  | _ :: value :: _ => if isValue value then some { d with isConditional := true } else none
  | [] => none

/-- Conditions from behind the opening bracket on: the name of an activity, and a
condition on a value in braces. -/
def brackets? (d : Directive) (p : Place) : Option Directive :=
  let (activity, p) := p.takeUntil [']', '\x7b']
  match p.rest with
  | ']' :: _ => afterBrackets? { d with isConditional := true } p.next
  | '\x7b' :: _ =>
      let (field, p) := p.next.takeUntil ['\x7d']
      match p.rest with
      | '\x7d' :: ']' :: _ => do
          let d ← withField? { d with isConditional := !activity.isEmpty } field
          afterBrackets? d p.next.next
      | _ => none
  | _ => none

def directive? (text : List Char) : Option Directive :=
  let p := Place.start text
  match p.rest with
  | [] => none
  | '[' :: _ => brackets? (Directive.all fullLevel) p.next
  | first :: _ =>
      if !startsTarget first then
        none
      else
        let (front, p) := p.takeUntil ['=', '[']
        let d := { Directive.all fullLevel with target := some (String.ofList front) }
        match p.rest with
        | '=' :: _ => withLevel? d p
        | '[' :: _ => brackets? d p.next
        | _ =>
            match level? text with
            | some level => some (Directive.all level)
            | none => some { d with target := some (String.ofList text) }

end Journal
end TableQuery
