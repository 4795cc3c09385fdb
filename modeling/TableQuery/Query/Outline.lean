import TableQuery.Query.Basic
import TableQuery.Text.Hidden

/-!
# Outlines of queries

An outline shows every part of a query on lines of its own.  The parts of a part
are indented by four blanks and each ends in a comma.
-/

namespace TableQuery
namespace Outline

/-!
## Texts
-/

def escapeHidden (c : Char) : List Char :=
  ['\\', 'u', '\x7b'] ++ Nat.toDigits 16 c.toNat ++ ['\x7d']

def writeChar (c : Char) : List Char :=
  if c.toNat = 0 then ['\\', '0']
  else if c = '\t' then ['\\', 't']
  else if c = '\r' then ['\\', 'r']
  else if c = '\n' then ['\\', 'n']
  else if c = '\\' then ['\\', '\\']
  else if c = '\x22' then ['\\', '\x22']
  else if Text.isHidden c then escapeHidden c
  else [c]

def textItem (s : String) : String :=
  String.ofList ('\x22' :: s.toList.flatMap writeChar ++ ['\x22'])

/-!
## Layout

The outline of a part is a list of lines.
-/

def indent (lines : List String) : List String :=
  lines.map fun line => "    " ++ line

def endItem : List String → List String
  | [] => []
  | [last] => [last ++ ","]
  | line :: lines => line :: endItem lines

def lead (text : String) : List String → List String
  | [] => [text]
  | line :: lines => (text ++ line) :: lines

/-- Items between an opening and a closing text. -/
def block (opening closing : String) (items : List (List String)) : List String :=
  opening :: items.flatMap (fun item => indent (endItem item)) ++ [closing]

def listLines (items : List (List String)) : List String :=
  if items.isEmpty then ["[]"] else block "[" "]" items

def callLines (name : String) (argument : List String) : List String :=
  block (name ++ "(") ")" [argument]

def recordLines (name : String) (members : List (String × List String)) : List String :=
  block (name ++ " \x7b") "\x7d" (members.map fun member => lead (member.1 ++ ": ") member.2)

def optionLines : Option (List String) → List String
  | none => ["None"]
  | some lines => callLines "Some" lines

def boolLines (b : Bool) : List String :=
  [if b then "true" else "false"]

/-!
## Parts of a query
-/

def comparisonName : Comparison → String
  | .equal => "Eq"
  | .notEqual => "Ne"
  | .less => "Lt"
  | .greater => "Gt"
  | .atMost => "Lte"
  | .atLeast => "Gte"

def aggregateName : Aggregate → String
  | .count => "Count"
  | .sum => "Sum"
  | .avg => "Avg"
  | .min => "Min"
  | .max => "Max"

def joinKindName : JoinKind → String
  | .inner => "Inner"
  | .left => "Left"
  | .right => "Right"

def textLines (s : String) : List String :=
  [textItem s]

def argumentLines : Argument → List String
  | .star => ["Star"]
  | .column name => callLines "Column" (textLines name)

def fieldLines : Field → List String
  | .column name => callLines "Column" (textLines name)
  | .aggregate f argument =>
      recordLines "Aggregate" [("func", [aggregateName f]), ("arg", argumentLines argument)]

def conditionLines (c : Condition) : List String :=
  recordLines "WhereClause"
    [("field", textLines c.field), ("op", [comparisonName c.op]),
      ("value", textLines c.literal)]

def linkLines (link : Link) : List String :=
  recordLines "JoinCondition" [("left", textLines link.left), ("right", textLines link.right)]

def joinLines (join : Join) : List String :=
  recordLines "JoinDescriptor"
    [("join_type", [joinKindName join.kind]), ("table", textLines join.table),
      ("condition", linkLines join.link)]

def queryLines (q : Query) : List String :=
  recordLines "QueryDescriptor"
    [("fields", listLines (q.fields.map fieldLines)),
      ("table", textLines q.table),
      ("where_clauses", listLines (q.conditions.map conditionLines)),
      ("join", optionLines (q.join.map joinLines)),
      ("group_by", optionLines (q.groupBy.map fun names => listLines (names.map textLines))),
      ("has_aggregate_without_group_by", boolLines q.isSummary)]

end Outline

def Query.outline (q : Query) : String :=
  String.intercalate "\n" (Outline.queryLines q)

end TableQuery
