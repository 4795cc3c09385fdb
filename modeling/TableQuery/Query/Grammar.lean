import TableQuery.Query.Basic
import TableQuery.Query.Token

/-!
# Reading queries

A query has the form

  select fields from table
    [[inner | left | right] [outer] join table on name = name]
    [where name op value [and name op value] ...]
    [group by name [, name] ...]

and may end in one semicolon.  Each clause is read off the front of the tokens
that the clause before it left.
-/

namespace TableQuery

inductive QueryFault where
  | token (fault : TokenFault)
  | empty
  | unknownCommand (word : String)
  | usage
  | noFields
  | starField
  | badCall
  | badFieldList
  | trailingComma
  | noTable
  | joinUsage
  | linkNotEqual (op : String)
  | unknownJoin (kind : String)
  | conditionUsage
  | unknownOperator (op : String)
  | disjunction
  | noGroupName
  | badGroupName
  deriving Repr, DecidableEq

namespace QueryFault

def message : QueryFault → String
  | token fault => fault.message
  | empty => "Empty query"
  | unknownCommand word => "Unknown command '" ++ word ++ "'. Only SELECT is supported"
  | usage =>
      "Usage: select <field1,field2> from <table> [[inner|left|right] join <table2> on <a.col> = <b.col>] [where <field> <op> <value> [and ...]] [group by <field1,field2>]"
  | noFields => "SELECT field list cannot be empty. Use comma-separated field names."
  | starField => "SELECT * is not supported. List the fields explicitly."
  | badCall => "Bad SELECT function syntax. Use fn(col) or fn(*)"
  | badFieldList => "Bad SELECT field list. Use comma-separated field names."
  | trailingComma => "SELECT field list cannot end with comma"
  | noTable => "SELECT missing table name after FROM"
  | joinUsage => "Usage: [inner|left|right] join <table2> on <a.col> = <b.col>"
  | linkNotEqual op => "JOIN ON only supports equality, got '" ++ op ++ "'"
  | unknownJoin kind => "Unsupported JOIN type: " ++ kind
  | conditionUsage =>
      "Usage: ... where <field> <op> <value> [and <field> <op> <value> ...]"
  | unknownOperator op => "Unsupported operator: " ++ op
  | disjunction => "OR is not supported in WHERE. Clauses can only be combined with AND"
  | noGroupName => "GROUP BY requires at least one field"
  | badGroupName => "Bad GROUP BY field list"

/-- The kinds of faults that a caller can tell apart without the message. -/
inductive Kind where
  | operator
  | joinKind
  | malformed
  deriving Repr, DecidableEq

def kind : QueryFault → Kind
  | unknownOperator _ => .operator
  | unknownJoin _ => .joinKind
  | _ => .malformed

end QueryFault

namespace Query

/-!
## Fields
-/

/-- The tokens of an argument, one or more, and what follows the parenthesis behind them. -/
def takeArgument (tokens : List Token) : Except QueryFault (List Token × List Token) :=
  let argument := tokens.takeWhile (· != .closeParen)
  match tokens.dropWhile (· != .closeParen) with
  | [] => .error .badCall
  | _ :: rest => if argument.isEmpty then .error .badCall else .ok (argument, rest)

theorem takeArgument_shorter {ts argument rest : List Token}
    (h : takeArgument ts = .ok (argument, rest)) : rest.length < ts.length := by
  have hle : (ts.dropWhile (· != Token.closeParen)).length ≤ ts.length :=
    (List.dropWhile_sublist _).length_le
  unfold takeArgument at h
  dsimp only at h
  split at h
  · cases h
  · rename_i heq
    rw [heq, List.length_cons] at hle
    split at h
    · cases h
    · cases h
      omega

/-- The text of a call, with one space between the tokens of its argument. -/
def callText (name : Token) (argument : List Token) : String :=
  name.text ++ "(" ++ String.intercalate " " (argument.map Token.text) ++ ")"

/-- A field off the front: a call up to its closing parenthesis, or one token. -/
def takeField : Token → List Token → Except QueryFault (Field × List Token)
  | .comma, _ => .error .noFields
  | name, .openParen :: rest =>
      if name.isWord "*" then
        .error .starField
      else do
        let (argument, rest) ← takeArgument rest
        pure (Field.ofText (callText name argument), rest)
  | name, rest =>
      if name.isWord "*" then .error .starField else .ok (Field.ofText name.text, rest)

theorem takeField_shorter {t : Token} {ts rest : List Token} {f : Field}
    (h : takeField t ts = .ok (f, rest)) : rest.length ≤ ts.length := by
  unfold takeField at h
  split at h
  · cases h
  · rename_i name tail _
    split at h
    · cases h
    · cases hargument : takeArgument tail with
      | error fault =>
          rw [hargument] at h
          cases h
      | ok read =>
          rw [hargument] at h
          cases h
          have hshorter := takeArgument_shorter hargument
          simp only [List.length_cons]
          omega
  · split at h
    · cases h
    · cases h
      exact Nat.le_refl _

def readFields : List Token → Except QueryFault (List Field)
  | [] => .ok []
  | token :: tokens =>
      match _h : takeField token tokens with
      | .error fault => .error fault
      | .ok (field, []) => .ok [field]
      | .ok (_, [.comma]) => .error .trailingComma
      | .ok (field, .comma :: rest) => do
          let fields ← readFields rest
          pure (field :: fields)
      | .ok _ => .error .badFieldList
termination_by tokens => tokens.length
decreasing_by
  have := takeField_shorter _h
  simp only [List.length_cons] at this ⊢
  omega

/-!
## Join
-/

def joinKind? (token : Token) : Except QueryFault JoinKind :=
  match JoinKind.ofName? token.text with
  | some kind => .ok kind
  | none => .error (.unknownJoin token.text)

/-- What stands before `join`: nothing, a kind, or a kind and `outer`. -/
def takeJoinKind (tokens : List Token) : Except QueryFault (JoinKind × List Token) :=
  match tokens with
  | [] => .error .usage
  | first :: rest =>
      if first.isWord "join" then
        .ok (.inner, rest)
      else
        match rest with
        | [] => .error .usage
        | second :: rest =>
            if second.isWord "join" then do
              let kind ← joinKind? first
              pure (kind, rest)
            else
              match rest with
              | [] => .error .usage
              | third :: rest =>
                  if second.isWord "outer" && third.isWord "join" then do
                    let kind ← joinKind? first
                    pure (kind, rest)
                  else
                    .error .usage

def takeJoined (kind : JoinKind) : List Token → Except QueryFault (Join × List Token)
  | table :: on :: left :: equals :: right :: rest =>
      if !on.isWord "on" then
        .error .joinUsage
      else if equals.text ≠ "=" then
        .error (.linkNotEqual equals.text)
      else
        let link : Link := { left := left.text, right := right.text }
        .ok ({ kind, table := table.text, link }, rest)
  | _ => .error .joinUsage

def takeJoin (tokens : List Token) : Except QueryFault (Join × List Token) := do
  let (kind, rest) ← takeJoinKind tokens
  takeJoined kind rest

/-!
## Conditions
-/

def takeCondition : List Token → Except QueryFault (Condition × List Token)
  | field :: op :: value :: rest =>
      if field.isPunctuation then
        .error .conditionUsage
      else
        match Comparison.ofSymbol? op.text with
        | none => .error (.unknownOperator op.text)
        | some comparison =>
            if value.isPunctuation then
              .error .conditionUsage
            else
              .ok ({ field := field.text, op := comparison, literal := value.text }, rest)
  | _ => .error .conditionUsage

theorem takeCondition_shorter {ts rest : List Token} {condition : Condition}
    (h : takeCondition ts = .ok (condition, rest)) : rest.length < ts.length := by
  unfold takeCondition at h
  split at h
  · split at h
    · cases h
    · split at h
      · cases h
      · split at h
        · cases h
        · cases h
          simp only [List.length_cons]
          omega
  · cases h

def readConditions (tokens : List Token) : Except QueryFault (List Condition) :=
  match _h : takeCondition tokens with
  | .error fault => .error fault
  | .ok (condition, []) => .ok [condition]
  | .ok (condition, next :: rest) =>
      if next.isWord "and" then do
        let conditions ← readConditions rest
        pure (condition :: conditions)
      else if next.isWord "or" then
        .error .disjunction
      else
        .error .conditionUsage
termination_by tokens.length
decreasing_by
  have := takeCondition_shorter _h
  simp only [List.length_cons] at this
  omega

/-- The conditions after `where`, which reach up to `group`; none without `where`. -/
def takeConditions : List Token → Except QueryFault (List Condition × List Token)
  | [] => .ok ([], [])
  | first :: rest =>
      if first.isWord "where" then
        let conditions := rest.takeWhile fun t => !t.isWord "group"
        if conditions.isEmpty then
          .error .usage
        else do
          let read ← readConditions conditions
          pure (read, rest.dropWhile fun t => !t.isWord "group")
      else
        .ok ([], first :: rest)

/-!
## Groups
-/

def takeNames : List Token → Except QueryFault (List String × List Token)
  | [] => .error .noGroupName
  | name :: rest =>
      if name.isPunctuation then
        .error .badGroupName
      else
        match rest with
        | .comma :: rest => do
            let (names, rest) ← takeNames rest
            pure (name.text :: names, rest)
        | rest => .ok ([name.text], rest)

/-- The names after `group by`; none without `group`. -/
def takeGroupBy : List Token → Except QueryFault (Option (List String) × List Token)
  | [] => .ok (none, [])
  | first :: rest =>
      if first.isWord "group" then
        match rest with
        | second :: rest =>
            if second.isWord "by" then do
              let (names, rest) ← takeNames rest
              pure (some names, rest)
            else
              .error .usage
        | [] => .error .usage
      else
        .ok (none, first :: rest)

/-!
## The whole query
-/

/-- A keyword that cannot be the name of the main table. -/
def isClauseWord (token : Token) : Bool :=
  token.isWord "where" || token.isWord "group" || token.isWord "join" || token.isWord "on"

def startsJoin : List Token → Bool
  | [] => false
  | first :: _ => !first.isWord "where" && !first.isWord "group"

/-- The join after the main table; none if another clause follows, or nothing. -/
def takeJoinClause (tokens : List Token) : Except QueryFault (Option Join × List Token) :=
  if startsJoin tokens then do
    let (join, rest) ← takeJoin tokens
    pure (some join, rest)
  else
    .ok (none, tokens)

def readClauses (fields : List Field) (table : String) (tokens : List Token) :
    Except QueryFault Query := do
  let (join, tokens) ← takeJoinClause tokens
  let (conditions, tokens) ← takeConditions tokens
  let (groupBy, tokens) ← takeGroupBy tokens
  if tokens.isEmpty then
    pure { fields, table, conditions, join, groupBy }
  else
    .error .usage

/-- The query after `select`: fields up to the first `from`, then a table. -/
def readSelect (tokens : List Token) : Except QueryFault Query :=
  let requested := tokens.takeWhile fun t => !t.isWord "from"
  match tokens.dropWhile fun t => !t.isWord "from" with
  | [] => .error .usage
  | _ :: rest =>
      if requested.isEmpty then
        .error .noFields
      else do
        let fields ← readFields requested
        match rest with
        | [] => .error .noTable
        | table :: rest =>
            if isClauseWord table then
              .error .noTable
            else
              readClauses fields table.text rest

def ofTokens (tokens : List Token) : Except QueryFault Query :=
  match tokens with
  | [] => .error .empty
  | command :: rest =>
      if command.isWord "select" then
        readSelect rest
      else
        .error (.unknownCommand command.text)

/-- The text between the blanks at its ends, without one semicolon that ends it. -/
def strip (cs : List Char) : List Char :=
  let cs := Text.trim cs
  (Text.stripEnd? [';'] cs).getD cs

def parse (text : String) : Except QueryFault Query :=
  match Token.scan (strip text.toList) with
  | .error fault => .error (.token fault)
  | .ok tokens => ofTokens tokens

end Query
end TableQuery
