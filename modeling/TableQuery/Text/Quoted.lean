/-!
# Quoted text

A text between two equal quotes.  Inside, a backslash stands before every
backslash and before every quote of the surrounding kind; the other kind of
quote needs none.
-/

namespace TableQuery
namespace Text

inductive Quote where
  | single
  | double
  deriving Repr, DecidableEq

namespace Quote

def char : Quote → Char
  | single => '\x27'
  | double => '\x22'

theorem char_ne_backslash (q : Quote) : q.char ≠ '\\' := by
  cases q <;> decide

def ofChar? (c : Char) : Option Quote :=
  if c = '\x27' then some single
  else if c = '\x22' then some double
  else none

@[simp]
theorem ofChar?_char (q : Quote) : ofChar? q.char = some q := by
  cases q <;> rfl

theorem ofChar?_eq_some_iff {c : Char} {q : Quote} :
    ofChar? c = some q ↔ c = q.char := by
  constructor
  · intro h
    unfold ofChar? at h
    split at h
    · cases h
      assumption
    · split at h
      · cases h
        assumption
      · cases h
  · rintro rfl
    exact ofChar?_char q

/-- The text with its backslashes and its quotes of this kind escaped. -/
def escape (q : Quote) (cs : List Char) : List Char :=
  cs.flatMap fun c => if c = q.char || c = '\\' then ['\\', c] else [c]

@[simp]
theorem escape_nil (q : Quote) : q.escape [] = [] :=
  rfl

theorem escape_cons (q : Quote) (c : Char) (cs : List Char) :
    q.escape (c :: cs) = (if c = q.char || c = '\\' then ['\\', c] else [c]) ++ q.escape cs :=
  rfl

/-- The text between two quotes of this kind, as it stands. -/
def enclose (q : Quote) (cs : List Char) : List Char :=
  q.char :: cs ++ [q.char]

/-- The inside of a text that begins and ends with a quote of this kind. -/
def inside? (q : Quote) : List Char → Option (List Char)
  | [] => none
  | c :: cs =>
      if c = q.char && cs.getLast? = some q.char then some cs.dropLast else none

@[simp]
theorem inside?_enclose (q : Quote) (cs : List Char) :
    q.inside? (q.enclose cs) = some cs := by
  simp [inside?, enclose]

theorem inside?_eq_some_iff {q : Quote} {cs inside : List Char} :
    q.inside? cs = some inside ↔ cs = q.enclose inside := by
  constructor
  · intro h
    unfold inside? at h
    split at h
    · cases h
    · rename_i c cs
      split at h
      · rename_i hquotes
        cases h
        simp only [Bool.and_eq_true, decide_eq_true_eq, List.getLast?_eq_some_iff] at hquotes
        rcases hquotes with ⟨hc, before, hbefore⟩
        rw [hc, hbefore, List.dropLast_concat]
        rfl
      · cases h
  · rintro rfl
    exact inside?_enclose q inside

theorem inside?_enclose_of_ne {p q : Quote} (h : p ≠ q) (cs : List Char) :
    p.inside? (q.enclose cs) = none := by
  cases p <;> cases q <;> simp_all [inside?, enclose, char]

/-- A text that does not begin with a quote stands in no quotes. -/
theorem inside?_of_head (q : Quote) {cs : List Char} (h : cs.head?.bind ofChar? = none) :
    q.inside? cs = none := by
  cases hinside : q.inside? cs with
  | none =>
      rfl
  | some inside =>
      rw [inside?_eq_some_iff.mp hinside, enclose, List.cons_append, List.head?_cons,
        Option.bind_some, ofChar?_char] at h
      cases h

end Quote

/-- The text stands in quotes, of either kind. -/
def IsEnclosed (cs : List Char) : Prop :=
  ∃ q inside, cs = Quote.enclose q inside

instance (cs : List Char) : Decidable (IsEnclosed cs) :=
  decidable_of_iff ((Quote.single.inside? cs).isSome = true ∨ (Quote.double.inside? cs).isSome = true)
    (by
      constructor
      · intro h
        rcases h with h | h <;>
          exact ⟨_, _, Quote.inside?_eq_some_iff.mp (Option.some_get h).symm⟩
      · intro h
        rcases h with ⟨q, inside, rfl⟩
        cases q <;> simp)

theorem not_isEnclosed_iff {cs : List Char} :
    ¬IsEnclosed cs ↔ ∀ q : Quote, q.inside? cs = none := by
  constructor
  · intro h q
    cases hinside : q.inside? cs with
    | none =>
        rfl
    | some inside =>
        exact absurd ⟨q, inside, Quote.inside?_eq_some_iff.mp hinside⟩ h
  · intro h henclosed
    rcases henclosed with ⟨q, inside, rfl⟩
    simpa using h q

/-- The text without quotes around it; a text that is not quoted stays as it is. -/
def stripQuotes (cs : List Char) : List Char :=
  ((Quote.single.inside? cs).or (Quote.double.inside? cs)).getD cs

theorem stripQuotes_enclose (q : Quote) (cs : List Char) : stripQuotes (q.enclose cs) = cs := by
  cases q with
  | single =>
      rw [stripQuotes, Quote.inside?_enclose]
      rfl
  | double =>
      rw [stripQuotes, Quote.inside?_enclose_of_ne (by decide), Quote.inside?_enclose]
      rfl

theorem stripQuotes_of_not_isEnclosed {cs : List Char} (h : ¬IsEnclosed cs) :
    stripQuotes cs = cs := by
  have hinside := not_isEnclosed_iff.mp h
  rw [stripQuotes, hinside, hinside]
  rfl

end Text
end TableQuery
