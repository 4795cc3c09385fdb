import TableQuery.Proofs.Query.Scanning

/-!
# Queries apart in one literal

Two queries, or two lists, that are the same but for one place, where one has one quoted
text and the other has another.  Two readings are alike if they fail with faults of one
kind, or give results that are related.
-/

namespace TableQuery

/-!
## Lists
-/

/-- The lists are the same but for one place, where their elements are related. -/
inductive OneApart {α : Type} (R : α → α → Prop) : List α → List α → Prop where
  | here {a b : α} {as : List α} : R a b → OneApart R (a :: as) (b :: as)
  | there {a : α} {as bs : List α} : OneApart R as bs → OneApart R (a :: as) (a :: bs)

namespace OneApart

variable {α : Type} {R : α → α → Prop} {as bs : List α}

theorem append_left (h : OneApart R as bs) (cs : List α) : OneApart R (cs ++ as) (cs ++ bs) := by
  induction cs with
  | nil =>
      exact h
  | cons c cs ih =>
      exact there ih

theorem ne_nil (h : OneApart R as bs) : as ≠ [] ∧ bs ≠ [] := by
  cases h <;> simp

theorem map_eq {β : Type} {f : α → β} (h : OneApart R as bs) (hf : ∀ a b, R a b → f a = f b) :
    as.map f = bs.map f := by
  induction h with
  | here hab =>
      simp [hf _ _ hab]
  | there _ ih =>
      simp [ih]

theorem length_eq (h : OneApart R as bs) : as.length = bs.length := by
  have hmap := h.map_eq (f := fun _ => ()) fun _ _ _ => rfl
  simpa using congrArg List.length hmap

/-- The lists are exchanged within what stands around them. -/
theorem exists_eq (h : OneApart R as bs) :
    ∃ before a b after, as = before ++ a :: after ∧ bs = before ++ b :: after ∧ R a b := by
  induction h with
  | here hab =>
      exact ⟨[], _, _, _, rfl, rfl, hab⟩
  | there _ ih =>
      rename_i a as bs _
      rcases ih with ⟨before, b, c, after, rfl, rfl, hbc⟩
      exact ⟨a :: before, b, c, after, rfl, rfl, hbc⟩

/-- A cut behind a class that both elements belong to leaves the difference on one side. -/
theorem cut {p : α → Bool} (h : OneApart R as bs) (hp : ∀ a b, R a b → p a = true ∧ p b = true) :
    OneApart R (as.takeWhile p) (bs.takeWhile p) ∧ as.dropWhile p = bs.dropWhile p ∨
      as.takeWhile p = bs.takeWhile p ∧
        ∃ c cs ds, as.dropWhile p = c :: cs ∧ bs.dropWhile p = c :: ds ∧ OneApart R cs ds := by
  induction h with
  | here hab =>
      left
      rcases hp _ _ hab with ⟨ha, hb⟩
      simpa [ha, hb] using here hab
  | there hrest ih =>
      rename_i a as bs
      by_cases ha : p a = true
      · rcases ih with ⟨htake, hdrop⟩ | ⟨htake, hdrop⟩
        · left
          simpa [ha] using ⟨there htake, hdrop⟩
        · right
          simp only [List.takeWhile_cons, ha, List.dropWhile_cons, if_true, htake, true_and]
          exact hdrop
      · right
        simp only [List.takeWhile_cons, ha, List.dropWhile_cons, Bool.false_eq_true, if_false,
          true_and]
        exact ⟨a, as, bs, rfl, rfl, hrest⟩

end OneApart

/-- Both are there, and are related. -/
inductive BothApart {α : Type} (R : α → α → Prop) : Option α → Option α → Prop where
  | some {a b : α} : R a b → BothApart R (some a) (some b)

/-!
## Readings
-/

/-- Both fail with faults of one kind, or both give something and what they give is related. -/
inductive Alike {α : Type} (R : α → α → Prop) :
    Except QueryFault α → Except QueryFault α → Prop where
  | error {e f : QueryFault} : e.kind = f.kind → Alike R (.error e) (.error f)
  | ok {a b : α} : R a b → Alike R (.ok a) (.ok b)

namespace Alike

variable {α β : Type} {R : α → α → Prop} {S : β → β → Prop} {x y : Except QueryFault α}
  {f g : α → Except QueryFault β}

theorem imp {R' : α → α → Prop} (h : Alike R x y) (himp : ∀ a b, R a b → R' a b) :
    Alike R' x y := by
  cases h with
  | error hkind =>
      exact error hkind
  | ok hab =>
      exact ok (himp _ _ hab)

theorem bind (h : Alike R x y) (hfg : ∀ a b, x = .ok a → R a b → Alike S (f a) (g b)) :
    Alike S (x >>= f) (y >>= g) := by
  cases h with
  | error hkind =>
      exact error hkind
  | ok hab =>
      exact hfg _ _ rfl hab

/-- One reading, continued in two ways. -/
theorem bind_same (h : ∀ a, Alike S (f a) (g a)) : Alike S (x >>= f) (x >>= g) := by
  cases x with
  | error e =>
      exact error rfl
  | ok a =>
      exact h a

theorem map {f g : α → β} (h : Alike R x y) (hfg : ∀ a b, R a b → S (f a) (g b)) :
    Alike S (x.map f) (y.map g) := by
  cases h with
  | error hkind =>
      exact error hkind
  | ok hab =>
      exact ok (hfg _ _ hab)

theorem map_same {f g : α → β} (h : ∀ a, S (f a) (g a)) : Alike S (x.map f) (x.map g) := by
  cases x with
  | error e =>
      exact error rfl
  | ok a =>
      exact ok (h a)

end Alike

/-!
## Parts of queries
-/

section Literals

variable (q : Text.Quote) (s s' : String)

/-- The one token is a literal of the one text, the other a literal of the other. -/
inductive Token.Apart : Token → Token → Prop where
  | literal : Apart (.quoted q s) (.quoted q s')

/-- What was read is apart, or else the tokens that are left are. -/
inductive ReadApart {α : Type} (R : α → α → Prop) : α × List Token → α × List Token → Prop where
  | read {a b : α} {rest : List Token} : R a b → ReadApart R (a, rest) (b, rest)
  | rest {a : α} {ts us : List Token} : OneApart (Token.Apart q s s') ts us →
      ReadApart R (a, ts) (a, us)

inductive NameApart : String → String → Prop where
  | literal : NameApart (Token.quoted q s).text (Token.quoted q s').text

/-- The one text holds one literal where the other holds the other. -/
inductive TextApart (before after : List Char) : String → String → Prop where
  | literal : TextApart before after
      (String.ofList (before ++ q.enclose s.toList ++ after))
      (String.ofList (before ++ q.enclose s'.toList ++ after))

/-- A field is the literal, or a call with the literal somewhere in its text. -/
inductive Field.Apart : Field → Field → Prop where
  | name {a b : String} : NameApart q s s' a b → Apart (column a) (column b)
  | call {before after : List Char} {a b : String} :
      '(' ∈ before ++ after → TextApart q s s' before (after ++ [')']) a b →
        Apart (column a) (column b)
  | argument (f : Aggregate) {before after : List Char} {a b : String} :
      TextApart q s s' before after a b → Apart (aggregate f (.column a)) (aggregate f (.column b))

inductive Condition.Apart : Condition → Condition → Prop where
  | field {a b : String} (op : Comparison) (literal : String) :
      NameApart q s s' a b → Apart ⟨a, op, literal⟩ ⟨b, op, literal⟩
  | literal {a b : String} (field : String) (op : Comparison) :
      NameApart q s s' a b → Apart ⟨field, op, a⟩ ⟨field, op, b⟩

inductive Join.Apart : Join → Join → Prop where
  | table {a b : String} (kind : JoinKind) (link : Link) :
      NameApart q s s' a b → Apart ⟨kind, a, link⟩ ⟨kind, b, link⟩
  | left {a b : String} (kind : JoinKind) (table right : String) :
      NameApart q s s' a b → Apart ⟨kind, table, ⟨a, right⟩⟩ ⟨kind, table, ⟨b, right⟩⟩
  | right {a b : String} (kind : JoinKind) (table left : String) :
      NameApart q s s' a b → Apart ⟨kind, table, ⟨left, a⟩⟩ ⟨kind, table, ⟨left, b⟩⟩

/-- The queries are the same but for one field, name or value. -/
inductive Query.Apart : Query → Query → Prop where
  | fields {as bs : List Field} (query : Query) : OneApart (Field.Apart q s s') as bs →
      Apart { query with fields := as } { query with fields := bs }
  | table {a b : String} (query : Query) : NameApart q s s' a b →
      Apart { query with table := a } { query with table := b }
  | conditions {as bs : List Condition} (query : Query) : OneApart (Condition.Apart q s s') as bs →
      Apart { query with conditions := as } { query with conditions := bs }
  | join {i j : Join} (query : Query) : i.Apart q s s' j →
      Apart { query with join := some i } { query with join := some j }
  | groupBy {as bs : List String} (query : Query) : OneApart (NameApart q s s') as bs →
      Apart { query with groupBy := some as } { query with groupBy := some bs }

end Literals

/-- The queries have as many fields, conditions and names to group by, and agree in all that
is no name. -/
structure Query.SameShape (d e : Query) : Prop where
  fields : d.fields.length = e.fields.length
  operators : d.conditions.map Condition.op = e.conditions.map Condition.op
  joinKind : d.join.map Join.kind = e.join.map Join.kind
  groupBy : d.groupBy.map List.length = e.groupBy.map List.length
  isSummary : d.isSummary = e.isSummary

section Shape

variable {q : Text.Quote} {s s' : String}

theorem Field.Apart.isAggregate_eq {f g : Field} (h : f.Apart q s s' g) :
    f.isAggregate = g.isAggregate := by
  cases h <;> rfl

theorem Condition.Apart.op_eq {c d : Condition} (h : c.Apart q s s' d) : c.op = d.op := by
  cases h <;> rfl

theorem Join.Apart.kind_eq {i j : Join} (h : i.Apart q s s' j) : i.kind = j.kind := by
  cases h <;> rfl

theorem Query.Apart.sameShape {d e : Query} (h : d.Apart q s s' e) : d.SameShape e := by
  cases h with
  | fields query hfields =>
      have hany := congrArg (List.any · id) (hfields.map_eq fun _ _ h => h.isAggregate_eq)
      simp only [List.any_map] at hany
      exact ⟨hfields.length_eq, rfl, rfl, rfl, congrArg (query.groupBy.isNone && ·) hany⟩
  | table query _ =>
      exact ⟨rfl, rfl, rfl, rfl, rfl⟩
  | conditions query hconditions =>
      exact ⟨rfl, hconditions.map_eq fun _ _ h => h.op_eq, rfl, rfl, rfl⟩
  | join query hjoin =>
      exact ⟨rfl, rfl, congrArg some hjoin.kind_eq, rfl, rfl⟩
  | groupBy query hnames =>
      exact ⟨rfl, rfl, rfl, congrArg some hnames.length_eq, rfl⟩

end Shape
end TableQuery
