import TableQuery.Json.Number
import TableQuery.Json.Text

/-!
# JSON tokens

JSON text is cut into tokens as far as it can be.  Where it cannot, the tokens end
with one that says so: a reader that stops earlier has not met the fault.
-/

namespace TableQuery
namespace Json

inductive Token where
  | openBrace
  | closeBrace
  | openBracket
  | closeBracket
  | colon
  | comma
  | null
  | bool (value : Bool)
  /-- A number, without a value if it is too large. -/
  | number (value : Option Float)
  /-- A string, without a text if its units do not pair up. -/
  | string (text : Option String)
  | malformed
  deriving Repr

def isSpace (c : Char) : Bool :=
  c = ' ' || c = '\t' || c = '\n' || c = '\r'

def mark? (c : Char) : Option Token :=
  if c = '\x7b' then some .openBrace
  else if c = '\x7d' then some .closeBrace
  else if c = '[' then some .openBracket
  else if c = ']' then some .closeBracket
  else if c = ':' then some .colon
  else if c = ',' then some .comma
  else none

/-- A token of more than one character, which starts with `c`, and what follows. -/
def takeLong? (c : Char) (cs : List Char) : Option (Token × List Char) :=
  if c = '\x22' then do
    let (units, rest) ← takeUnits? cs
    pure (.string ((textOfUnits? units).map String.ofList), rest)
  else if c = '-' || c.isDigit then do
    let (numeral, rest) ← takeNumeral? (c :: cs)
    pure (.number numeral.value?, rest)
  else
    match c, cs with
    | 'n', 'u' :: 'l' :: 'l' :: rest => some (.null, rest)
    | 't', 'r' :: 'u' :: 'e' :: rest => some (.bool true, rest)
    | 'f', 'a' :: 'l' :: 's' :: 'e' :: rest => some (.bool false, rest)
    | _, _ => none

/-- The tokens of a text, with at most `fuel` of them.  Every token takes at least
one character, so the length of the text is fuel enough. -/
def tokensUpTo : Nat → List Char → List Token
  | 0, _ => []
  | fuel + 1, cs =>
      match cs.dropWhile isSpace with
      | [] => []
      | c :: cs =>
          match mark? c with
          | some token => token :: tokensUpTo fuel cs
          | none =>
              match takeLong? c cs with
              | some (token, rest) => token :: tokensUpTo fuel rest
              | none => [.malformed]

def tokens (text : String) : List Token :=
  tokensUpTo text.toList.length text.toList

/-!
## Reading values off the front of tokens
-/

/-- Why a text is not read: it is no JSON, or it is JSON of another shape.  The
first fault in the order of the text counts. -/
inductive Fault where
  | malformed
  | mismatch
  deriving Repr, DecidableEq

/-- The fault at a place where a value of another kind is wanted. -/
def faultAt : List Token → Fault
  | [] => .malformed
  | token :: _ =>
      match token with
      | .null | .bool _ | .number (some _) | .string (some _) => .mismatch
      | .openBrace | .openBracket => .mismatch
      | _ => .malformed

def takeString : List Token → Except Fault (String × List Token)
  | .string (some text) :: rest => .ok (text, rest)
  | tokens => .error (faultAt tokens)

/-- What may stand next inside a value that is passed over. -/
inductive Place where
  | value
  | firstItem
  | firstKey
  | key
  | colon
  | afterValue
  deriving Repr, DecidableEq

/-- Passes over the rest of a value: `inObject` says of each open bracket, from the
innermost, whether it is a brace.  Numbers and strings need no value here. -/
def skipFrom : Place → List Bool → List Token → Except Fault (List Token)
  | _, _, [] => .error .malformed
  | place, inObject, token :: rest =>
      let closed (outer : List Bool) :=
        if outer.isEmpty then .ok rest else skipFrom .afterValue outer rest
      match place, token, inObject with
      | .firstItem, .closeBracket, _ :: outer => closed outer
      | .firstKey, .closeBrace, _ :: outer => closed outer
      | .afterValue, .closeBracket, false :: outer => closed outer
      | .afterValue, .closeBrace, true :: outer => closed outer
      | .afterValue, .comma, false :: _ => skipFrom .value inObject rest
      | .afterValue, .comma, true :: _ => skipFrom .key inObject rest
      | .firstKey, .string _, _ => skipFrom .colon inObject rest
      | .key, .string _, _ => skipFrom .colon inObject rest
      | .colon, .colon, _ => skipFrom .value inObject rest
      | .value, token, _ | .firstItem, token, _ =>
          match token with
          | .null | .bool _ | .number _ | .string _ => closed inObject
          | .openBracket => skipFrom .firstItem (false :: inObject) rest
          | .openBrace => skipFrom .firstKey (true :: inObject) rest
          | _ => .error .malformed
      | _, _, _ => .error .malformed

def skipValue (tokens : List Token) : Except Fault (List Token) :=
  skipFrom .value [] tokens

end Json
end TableQuery
