import TableQuery.Query.Basic
import TableQuery.Query.Layout

/-!
# The written form of queries

A query is written clause by clause.  The letters of a keyword may have any case,
there may be any blanks between tokens, and a semicolon ends the whole.  Queries
whose names are words that no clause is mistaken for have a written form that says
what they ask for.
-/

namespace TableQuery

/-- A part of a written query: a keyword, or a token that stands as it is. -/
inductive Piece where
  | keyword (word : String)
  | fixed (token : Token)
  deriving Repr, DecidableEq

namespace Piece

def admits : Piece → Token → Bool
  | keyword word, token => token.isWord word
  | fixed token, other => token == other

def admitsAll : List Piece → List Token → Bool
  | [], [] => true
  | piece :: pieces, token :: tokens => piece.admits token && admitsAll pieces tokens
  | _, _ => false

def name (text : String) : Piece :=
  fixed (.word text)

def listed : List (List Piece) → List Piece
  | [] => []
  | [pieces] => pieces
  | pieces :: rest => pieces ++ fixed .comma :: listed rest

end Piece

open Piece

/-!
## Clauses
-/

/-- The token of a literal: quotes around it are quotes. -/
def Token.ofLiteral (literal : String) : Token :=
  match Text.Quote.single.inside? literal.toList, Text.Quote.double.inside? literal.toList with
  | some inside, _ => .quoted .single (String.ofList inside)
  | none, some inside => .quoted .double (String.ofList inside)
  | none, none => .word literal

def Argument.piece : Argument → Piece
  | star => name "*"
  | column text => name text

def Field.pieces : Field → List Piece
  | column text => [name text]
  | aggregate f argument =>
      [keyword f.name, fixed .openParen, argument.piece, fixed .closeParen]

/-- What may stand before `JOIN`: an inner join needs no name. -/
def JoinKind.leads (k : JoinKind) : List (List Piece) :=
  let named := [[keyword k.name], [keyword k.name, keyword "OUTER"]]
  match k with
  | inner => [] :: named
  | left => named
  | right => named

def Join.pieces (lead : List Piece) (j : Join) : List Piece :=
  lead ++ [keyword "JOIN", name j.table, keyword "ON", name j.link.left,
    fixed (.operator "="), name j.link.right]

def Condition.pieces (c : Condition) : List Piece :=
  [name c.field, fixed (.operator c.op.symbol), fixed (.ofLiteral c.literal)]

/-- Conditions behind the word that begins them, or that joins them to others. -/
def conditionPieces (word : String) : List Condition → List Piece
  | [] => []
  | condition :: rest => keyword word :: condition.pieces ++ conditionPieces "AND" rest

def groupPieces : Option (List String) → List Piece
  | none => []
  | some names =>
      keyword "GROUP" :: keyword "BY" :: listed (names.map fun text => [name text])

namespace Query

def pieces (lead : List Piece) (q : Query) : List Piece :=
  keyword "SELECT" :: (listed (q.fields.map Field.pieces) ++
    keyword "FROM" :: name q.table :: ((q.join.map (Join.pieces lead)).getD [] ++
      conditionPieces "WHERE" q.conditions ++ groupPieces q.groupBy))

def IsWritten (q : Query) (text : List Char) : Prop :=
  ∃ lead tokens body gap, (∀ j ∈ q.join, lead ∈ j.kind.leads) ∧
    admitsAll (q.pieces lead) tokens = true ∧ Token.Laid tokens body ∧
    (∀ c ∈ gap, Text.isBlank c = true) ∧ text = body ++ gap ++ [';']

end Query

/-!
## Plain names
-/

/-- A name that can be written as one word, other than the given keywords. -/
def IsPlain (keywords : List String) (text : String) : Prop :=
  (Token.word text).WellFormed ∧
    ∀ word ∈ keywords, (Token.word text).isWord word = false

instance (keywords : List String) (text : String) : Decidable (IsPlain keywords text) :=
  inferInstanceAs (Decidable (_ ∧ _))

def Field.IsPlain : Field → Prop
  | column text => TableQuery.IsPlain ["*", "FROM"] text
  | aggregate _ .star => True
  | aggregate _ (.column text) => TableQuery.IsPlain ["*", "FROM"] text

structure Join.IsPlain (j : Join) : Prop where
  table : TableQuery.IsPlain [] j.table
  left : TableQuery.IsPlain [] j.link.left
  right : TableQuery.IsPlain [] j.link.right

/-- A literal is a word, or any text in quotes. -/
structure Condition.IsPlain (c : Condition) : Prop where
  field : TableQuery.IsPlain ["GROUP"] c.field
  literal : TableQuery.IsPlain ["GROUP"] c.literal ∨
    ∃ (q : Text.Quote) (inside : List Char), c.literal = String.ofList (q.enclose inside)

/-- The queries that their written form determines: no name is mistaken for a clause. -/
structure Query.IsPlain (q : Query) : Prop where
  fields_ne_nil : q.fields ≠ []
  fields : ∀ field ∈ q.fields, field.IsPlain
  table : TableQuery.IsPlain ["WHERE", "GROUP", "JOIN", "ON"] q.table
  join : ∀ j ∈ q.join, j.IsPlain
  conditions : ∀ condition ∈ q.conditions, condition.IsPlain
  groupBy_ne_nil : q.groupBy ≠ some []
  groupBy : ∀ names ∈ q.groupBy, ∀ text ∈ names, TableQuery.IsPlain [] text

end TableQuery
