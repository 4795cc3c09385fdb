import TableQuery.Query.Token

/-!
# Layout of tokens

Tokens are laid out with blanks between them.  Which blanks, and how many, does not
matter: all that a text says outside its quotes is left when its blanks are dropped.
-/

namespace TableQuery
namespace Token

/-- The tokens that a text can be cut into: a word and a run of operators have
characters, and all of them are of its own kind. -/
def WellFormed : Token → Prop
  | word s => s.toList ≠ [] ∧ ∀ c ∈ s.toList, isWordChar c = true
  | operator s => s.toList ≠ [] ∧ ∀ c ∈ s.toList, isOperatorChar c = true
  | quoted _ _ => True
  | comma => True
  | openParen => True
  | closeParen => True

instance : DecidablePred WellFormed
  | word s =>
      decidable_of_iff (s.toList ≠ [] ∧ s.toList.all isWordChar = true)
        (and_congr_right fun _ => List.all_eq_true)
  | operator s =>
      decidable_of_iff (s.toList ≠ [] ∧ s.toList.all isOperatorChar = true)
        (and_congr_right fun _ => List.all_eq_true)
  | quoted _ _ => inferInstanceAs (Decidable True)
  | comma => inferInstanceAs (Decidable True)
  | openParen => inferInstanceAs (Decidable True)
  | closeParen => inferInstanceAs (Decidable True)

/-- Blanks that keep two tokens apart. -/
def IsGap (cs : List Char) : Prop :=
  cs ≠ [] ∧ ∀ c ∈ cs, Text.isBlank c = true

/-- The texts in which the tokens stand in order, with a gap between any two. -/
inductive Laid : List Token → List Char → Prop where
  | nil : Laid [] []
  | last (t : Token) : Laid [t] t.write
  | cons {t u : Token} {ts : List Token} {gap cs : List Char} :
      IsGap gap → Laid (u :: ts) cs → Laid (t :: u :: ts) (t.write ++ gap ++ cs)

/-!
## Texts without blanks
-/

/-- The text without the blanks that stand outside quotes, from a place inside the
given quote or outside all. -/
def squeeze : Option Text.Quote → List Char → List Char
  | _, [] => []
  | none, c :: cs =>
      if Text.isBlank c then squeeze none cs else c :: squeeze (Text.Quote.ofChar? c) cs
  | some q, '\\' :: c :: cs => '\\' :: c :: squeeze (some q) cs
  | some q, c :: cs => c :: squeeze (if c = q.char then none else some q) cs

theorem squeeze_blank {c : Char} (h : Text.isBlank c = true) (cs : List Char) :
    squeeze none (c :: cs) = squeeze none cs := by
  simp [squeeze, h]

end Token
end TableQuery
