import TableQuery.Proofs.Json.Numbers
import TableQuery.Proofs.Json.Strings

/-!
# Results cut into tokens

What is written for a value is cut into the tokens of the value, whatever stands behind
it; behind a number there must be nothing that goes on with it.  So the tokens of an array
or an object are made up of the tokens of its parts.
-/

namespace TableQuery
namespace Json

/-- The text is cut into the tokens, and what follows it is cut after them.  Fuel is spent
on tokens alone, so that a text spells its tokens with whatever fuel there is for the rest. -/
structure Spells (cs : List Char) (ts : List Token) : Prop where
  length_le : ts.length ≤ cs.length
  cut : ∀ fuel rest, StopsAt isNumberChar rest →
    tokensUpTo (ts.length + fuel) (cs ++ rest) = ts ++ tokensUpTo fuel rest

/-!
## Parts of a text
-/

section Parts

variable {cs ds : List Char} {ts us : List Token} {c : Char} {token : Token}

theorem tokensUpTo_nil (fuel : Nat) : tokensUpTo fuel [] = [] := by
  cases fuel <;> rfl

theorem Spells.tokens_eq (h : Spells cs ts) : tokens (String.ofList cs) = ts := by
  have hfuel : ts.length + (cs.length - ts.length) = cs.length :=
    Nat.add_sub_of_le h.length_le
  have hcut := h.cut (cs.length - ts.length) [] (stopsAt_nil _)
  rw [hfuel, List.append_nil, tokensUpTo_nil, List.append_nil] at hcut
  rw [tokens, String.toList_ofList, hcut]

theorem spells_nil : Spells [] [] :=
  ⟨Nat.le_refl 0, fun fuel rest _ => by simp⟩

theorem StopsAt.append_stopsAt {p : Char → Bool} (hds : StopsAt p ds) (hcs : StopsAt p cs) :
    StopsAt p (ds ++ cs) := by
  cases ds with
  | nil => exact hcs
  | cons d ds => exact hds

theorem Spells.append (hcs : Spells cs ts) (hds : Spells ds us)
    (hstop : StopsAt isNumberChar ds) : Spells (cs ++ ds) (ts ++ us) := by
  constructor
  · rw [List.length_append, List.length_append]
    exact Nat.add_le_add hcs.length_le hds.length_le
  · intro fuel rest hrest
    rw [List.length_append, Nat.add_assoc, List.append_assoc,
      hcs.cut _ _ (StopsAt.append_stopsAt hstop hrest), hds.cut _ _ hrest, List.append_assoc]

theorem classes_of_mark? (h : mark? c = some token) :
    isSpace c = false ∧ isNumberChar c = false := by
  unfold mark? at h
  repeat' split at h
  case isFalse =>
      cases h
  all_goals
    rename_i hc
    subst hc
    decide

theorem stopsAt_of_mark? (h : mark? c = some token) (rest : List Char) :
    StopsAt isNumberChar (c :: rest) := by
  intro d hd
  cases hd
  exact (classes_of_mark? h).2

theorem Spells.cons_mark (h : mark? c = some token) (hcs : Spells cs ts) :
    Spells (c :: cs) (token :: ts) := by
  have hspace : isSpace c = false := (classes_of_mark? h).1
  constructor
  · exact Nat.succ_le_succ hcs.length_le
  · intro fuel rest hrest
    rw [List.length_cons, Nat.add_right_comm, List.cons_append, tokensUpTo,
      List.dropWhile_cons_of_neg (by simp [hspace])]
    simp only [h, hcs.cut fuel rest hrest, List.cons_append]

/-- A token of more than one character. -/
theorem spells_long (hspace : isSpace c = false) (hmark : mark? c = none)
    (hlong : ∀ rest, StopsAt isNumberChar rest → takeLong? c (cs ++ rest) = some (token, rest)) :
    Spells (c :: cs) [token] := by
  constructor
  · exact Nat.succ_le_succ (Nat.zero_le _)
  · intro fuel rest hrest
    rw [List.length_singleton, Nat.add_comm, List.cons_append, tokensUpTo,
      List.dropWhile_cons_of_neg (by simp [hspace])]
    simp only [hmark, hlong rest hrest, List.singleton_append]

theorem spells_null : Spells "null".toList [.null] :=
  spells_long (c := 'n') rfl rfl fun _ _ => rfl

theorem spells_writeString (s : String) : Spells (writeString s) [.string (some s)] := by
  apply spells_long rfl rfl
  intro rest _
  have htake := takeUnits?_written s.toList rest
  have hinside : (s.toList.flatMap writeChar).append ['\x22'] ++ rest =
      s.toList.flatMap writeChar ++ '\x22' :: rest :=
    List.append_assoc _ _ _
  unfold takeLong?
  rw [if_pos rfl, hinside, htake]
  simp [textOfUnits?_map_toNat]

theorem mark?_of_isNumberChar (h : isNumberChar c = true) : mark? c = none := by
  cases hmark : mark? c with
  | none =>
      rfl
  | some token =>
      have hnot := (classes_of_mark? hmark).2
      rw [h] at hnot
      cases hnot

theorem isSpace_of_isNumberChar (h : isNumberChar c = true) : isSpace c = false := by
  rw [Bool.eq_false_iff]
  intro hspace
  simp only [isSpace, Bool.or_eq_true, decide_eq_true_eq] at hspace
  rcases hspace with ((rfl | rfl) | rfl) | rfl <;> cases h

theorem spells_number {x : Float} (h : readNumber? cs = some x) :
    Spells cs [.number (some x)] := by
  rcases readNumber?_eq_some_iff.mp h with ⟨numeral, htake, hvalue⟩
  rcases exists_cons_of_takeNumeral? htake with ⟨c, cs, rfl, hstart⟩
  have hnumber : isNumberChar c = true := by
    rcases Bool.or_eq_true_iff.mp hstart with hminus | hdigit
    · simp [isNumberChar, hminus]
    · simp [isNumberChar, hdigit]
  have hquote : c ≠ '\x22' := by
    intro hc
    subst hc
    cases hnumber
  apply spells_long (isSpace_of_isNumberChar hnumber) (mark?_of_isNumberChar hnumber)
  intro rest hrest
  have hmore := takeNumeral?_append hrest (c :: cs)
  rw [htake, List.cons_append] at hmore
  unfold takeLong?
  rw [if_neg hquote, if_pos hstart, hmore]
  simp [hvalue]

end Parts

/-!
## Lists
-/

/-- The tokens of the items of an array, or of the members of an object. -/
def listed (items : List (List Token)) : List Token :=
  [.comma].intercalate items

theorem listed_singleton (ts : List Token) : listed [ts] = ts :=
  List.intercalate_singleton

theorem listed_cons_cons (ts next : List Token) (items : List (List Token)) :
    listed (ts :: next :: items) = ts ++ .comma :: listed (next :: items) := by
  rw [listed, List.intercalate_cons_cons, List.append_assoc]
  rfl

theorem listed_map_cons_cons {α : Type} (f : α → List Token) (a next : α) (as : List α) :
    listed ((a :: next :: as).map f) = f a ++ .comma :: listed ((next :: as).map f) :=
  listed_cons_cons (f a) (f next) (as.map f)

theorem length_le_listed (items : List (List Token)) :
    items.length ≤ (listed items).length + 1 := by
  induction items with
  | nil =>
      exact Nat.zero_le _
  | cons ts items ih =>
      cases items with
      | nil =>
          exact Nat.le_add_left 1 _
      | cons next items =>
          rw [listed_cons_cons, List.length_append]
          simp only [List.length_cons] at ih ⊢
          omega

def arrayTokens (items : List (List Token)) : List Token :=
  .openBracket :: (listed items ++ [.closeBracket])

def memberTokens (name : String) (value : List Token) : List Token :=
  .string (some name) :: .colon :: value

def objectTokens (members : List (List Token)) : List Token :=
  .openBrace :: (listed members ++ [.closeBrace])

variable {items : List (List Char)} {tss : List (List Token)}

theorem spells_separate (h : List.Forall₂ Spells items tss) :
    Spells (separate items) (listed tss) := by
  induction h with
  | nil =>
      exact spells_nil
  | cons hitem hitems ih =>
      cases hitems with
      | nil =>
          rw [separate, List.intercalate_singleton, listed_singleton]
          exact hitem
      | cons hnext hmore =>
          rw [separate, List.intercalate_cons_cons, List.append_assoc, listed_cons_cons]
          exact hitem.append (Spells.cons_mark rfl ih) (stopsAt_of_mark? rfl _)

theorem spells_enclosed {first last : Char} {start stop : Token}
    (hfirst : mark? first = some start) (hlast : mark? last = some stop)
    (h : List.Forall₂ Spells items tss) :
    Spells (first :: (separate items ++ [last])) (start :: (listed tss ++ [stop])) := by
  apply Spells.cons_mark hfirst
  apply Spells.append (spells_separate h)
  · exact Spells.cons_mark hlast spells_nil
  · exact stopsAt_of_mark? hlast []

theorem spells_writeArray (h : List.Forall₂ Spells items tss) :
    Spells (writeArray items) (arrayTokens tss) :=
  spells_enclosed rfl rfl h

theorem spells_writeObject (h : List.Forall₂ Spells items tss) :
    Spells (writeObject items) (objectTokens tss) :=
  spells_enclosed rfl rfl h

theorem spells_writeMember {value : List Char} {ts : List Token} (name : String)
    (h : Spells value ts) : Spells (writeMember name value) (memberTokens name ts) :=
  (spells_writeString name).append (Spells.cons_mark rfl h) (stopsAt_of_mark? rfl _)

end Json
end TableQuery
