import TableQuery.Text.Blank
import TableQuery.Text.Letters
import TableQuery.Text.Quoted

/-!
# Tokens

A query is cut into words, quoted texts, runs of operator characters, commas and
parentheses.  Blanks separate tokens and mean nothing else.  A quoted text stands
alone: no word may touch it, and no other quoted text.
-/

namespace TableQuery

inductive Token where
  | word (text : String)
  | quoted (quote : Text.Quote) (inside : String)
  | operator (text : String)
  | comma
  | openParen
  | closeParen
  deriving Repr, DecidableEq

inductive TokenFault where
  | badEscape (quote : Text.Quote)
  | quoteAfterQuote
  | quoteInWord
  | wordAfterQuote
  | unclosedQuote
  deriving Repr, DecidableEq

namespace TokenFault

def message : TokenFault → String
  | badEscape quote =>
      "Invalid escape sequence in quotes. Use \\" ++ String.singleton quote.char ++
        " for a quote or \\\\ for a backslash."
  | quoteAfterQuote =>
      "Unexpected quote after closing quote. Add whitespace between tokens."
  | quoteInWord =>
      "Quote cannot start in the middle of a token. Add whitespace before the quote."
  | wordAfterQuote =>
      "Characters found immediately after a closing quote. Add whitespace after the quoted string."
  | unclosedQuote => "Unclosed quote in input"

end TokenFault

namespace Token

/-- The text of a token, with the quotes around a quoted one and without escapes. -/
def text : Token → String
  | word s => s
  | quoted q s => String.ofList (q.enclose s.toList)
  | operator s => s
  | comma => ","
  | openParen => "("
  | closeParen => ")"

/-- The text that reads back as the token. -/
def write : Token → List Char
  | quoted q s => q.enclose (q.escape s.toList)
  | token => token.text.toList

/-- The given keyword, in any case of its ASCII letters. -/
def isWord (keyword : String) : Token → Bool
  | word s => Text.sameWord s.toList keyword.toList
  | _ => false

def isPunctuation : Token → Bool
  | comma => true
  | openParen => true
  | closeParen => true
  | _ => false

/-!
## Classes of characters
-/

def isOperatorChar (c : Char) : Bool :=
  c = '<' || c = '>' || c = '=' || c = '!'

def punctuation? (c : Char) : Option Token :=
  if c = ',' then some comma
  else if c = '(' then some openParen
  else if c = ')' then some closeParen
  else none

/-- The characters that a word is made of: all that mean nothing else. -/
def isWordChar (c : Char) : Bool :=
  !Text.isBlank c && (Text.Quote.ofChar? c).isNone && (punctuation? c).isNone &&
    !isOperatorChar c

/-!
## Cutting
-/

/-- The inside of a quoted text up to its closing quote, and what follows that. -/
def takeQuoted (q : Text.Quote) : List Char → Except TokenFault (List Char × List Char)
  | [] => .error .unclosedQuote
  | '\\' :: c :: cs =>
      if c = q.char || c = '\\' then
        (takeQuoted q cs).map fun parts => (c :: parts.1, parts.2)
      else
        .error (.badEscape q)
  | c :: cs =>
      if c = '\\' then
        .error (.badEscape q)
      else if c = q.char then
        .ok ([], cs)
      else
        (takeQuoted q cs).map fun parts => (c :: parts.1, parts.2)

/-- The inside of a quoted text is read back, whatever follows it. -/
theorem takeQuoted_escape (q : Text.Quote) (inside rest : List Char) :
    takeQuoted q (q.escape inside ++ q.char :: rest) = .ok (inside, rest) := by
  induction inside with
  | nil =>
      have hq := q.char_ne_backslash
      rw [Text.Quote.escape_nil, List.nil_append, takeQuoted.eq_def]
      split
      · rename_i heq
        simp at heq
      · rename_i heq
        simp only [List.cons.injEq] at heq
        exact absurd heq.1 hq
      · rename_i heq
        simp only [List.cons.injEq] at heq
        obtain ⟨rfl, rfl⟩ := heq
        simp [hq]
  | cons c inside ih =>
      rw [Text.Quote.escape_cons]
      by_cases hc : (c = q.char || c = '\\') = true
      · rw [if_pos hc]
        simp only [List.cons_append, List.nil_append, takeQuoted]
        rw [if_pos hc, ih]
        rfl
      · rw [if_neg hc]
        have hne : c ≠ q.char ∧ c ≠ '\\' := by
          simpa using hc
        simp only [List.cons_append, List.nil_append]
        rw [takeQuoted.eq_def]
        split
        · rename_i heq
          simp at heq
        · rename_i heq
          simp only [List.cons.injEq] at heq
          exact absurd heq.1 hne.2
        · rename_i heq
          simp only [List.cons.injEq] at heq
          obtain ⟨rfl, rfl⟩ := heq
          rw [if_neg hne.2, if_neg hne.1, ih]
          rfl

/-- What is read is the written form of the inside, and then a closing quote. -/
theorem eq_escape_of_takeQuoted {q : Text.Quote} {cs inside rest : List Char}
    (h : takeQuoted q cs = .ok (inside, rest)) :
    cs = q.escape inside ++ q.char :: rest := by
  fun_induction takeQuoted q cs generalizing inside rest with
  | case1 =>
      cases h
  | case2 c cs hc ih =>
      cases hq : takeQuoted q cs with
      | error fault =>
          rw [hq] at h
          cases h
      | ok parts =>
          rw [hq] at h
          cases h
          rw [Text.Quote.escape_cons, if_pos hc, ih hq]
          rfl
  | case3 =>
      cases h
  | case4 =>
      cases h
  | case5 =>
      cases h
      rfl
  | case6 c cs _ hslash hquote ih =>
      cases hq : takeQuoted q cs with
      | error fault =>
          rw [hq] at h
          cases h
      | ok parts =>
          rw [hq] at h
          cases h
          rw [Text.Quote.escape_cons, if_neg (by simp [hslash, hquote]), ih hq]
          rfl

theorem takeQuoted_shorter {q : Text.Quote} {cs inside rest : List Char}
    (h : takeQuoted q cs = .ok (inside, rest)) : rest.length < cs.length := by
  rw [eq_escape_of_takeQuoted h, List.length_append, List.length_cons]
  omega

/-- What may follow a closing quote: the end, a blank, punctuation or an operator. -/
def checkAfterQuote : List Char → Except TokenFault Unit
  | [] => .ok ()
  | c :: _ =>
      if (Text.Quote.ofChar? c).isSome then .error .quoteAfterQuote
      else if isWordChar c then .error .wordAfterQuote
      else .ok ()

/-- A word ends anywhere but at a quote. -/
def checkAfterWord : List Char → Except TokenFault Unit
  | [] => .ok ()
  | c :: _ =>
      if (Text.Quote.ofChar? c).isSome then .error .quoteInWord else .ok ()

theorem length_dropWhile_le (p : Char → Bool) (cs : List Char) :
    (cs.dropWhile p).length ≤ cs.length :=
  (List.dropWhile_sublist p).length_le

def scan : List Char → Except TokenFault (List Token)
  | [] => .ok []
  | c :: cs =>
      if Text.isBlank c then
        scan cs
      else
        match Text.Quote.ofChar? c with
        | some q =>
            match _h : takeQuoted q cs with
            | .error fault => .error fault
            | .ok (inside, rest) => do
                checkAfterQuote rest
                let tokens ← scan rest
                pure (quoted q (String.ofList inside) :: tokens)
        | none =>
            match punctuation? c with
            | some token => do
                let tokens ← scan cs
                pure (token :: tokens)
            | none =>
                if isOperatorChar c then do
                  let tokens ← scan (cs.dropWhile isOperatorChar)
                  pure (operator (String.ofList (c :: cs.takeWhile isOperatorChar)) :: tokens)
                else do
                  let rest := cs.dropWhile isWordChar
                  checkAfterWord rest
                  let tokens ← scan rest
                  pure (word (String.ofList (c :: cs.takeWhile isWordChar)) :: tokens)
termination_by cs => cs.length
decreasing_by
  · simp
  · have := takeQuoted_shorter _h
    simp only [List.length_cons]
    omega
  · simp
  · have := length_dropWhile_le isOperatorChar cs
    simp only [List.length_cons]
    omega
  · have := length_dropWhile_le isWordChar cs
    simp only [List.length_cons]
    omega

end Token
end TableQuery
