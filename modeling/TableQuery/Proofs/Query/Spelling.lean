import TableQuery.Proofs.Query.Scanning
import TableQuery.Proofs.Text.LetterCase

/-!
# The grammar of queries

Which tokens spell which query, clause by clause and without regard to how they are read.
Reading accepts exactly the tokens that spell a query, and gives that query.
-/

namespace TableQuery

/-!
## Tokens that spell a part of a query
-/

/-- The tokens of several things, one or more, with a separating token between any two. -/
inductive Separated {α : Type} (isSep : Token → Bool) (Spells : α → List Token → Prop) :
    List α → List Token → Prop where
  | one {a : α} {ts : List Token} : Spells a ts → Separated isSep Spells [a] ts
  | cons {a : α} {as : List α} {sep : Token} {ts us : List Token} :
      Spells a ts → isSep sep = true → Separated isSep Spells as us →
        Separated isSep Spells (a :: as) (ts ++ sep :: us)

theorem Separated.ne_nil {α : Type} {isSep : Token → Bool} {Spells : α → List Token → Prop}
    {as : List α} {ts : List Token} (h : Separated isSep Spells as ts)
    (hne : ∀ a us, Spells a us → us ≠ []) : ts ≠ [] := by
  cases h with
  | one hspells =>
      exact hne _ _ hspells
  | cons _ _ _ =>
      simp

theorem Separated.exists_of_mem {α : Type} {isSep : Token → Bool}
    {Spells : α → List Token → Prop} {as : List α} {ts : List Token}
    (h : Separated isSep Spells as ts) {a : α} (ha : a ∈ as) : ∃ us, Spells a us ∧ us ⊆ ts := by
  induction h with
  | one hspells =>
      rw [List.mem_singleton.mp ha]
      exact ⟨_, hspells, List.Subset.refl _⟩
  | cons hspells _ _ ih =>
      rcases List.mem_cons.mp ha with rfl | ha
      · exact ⟨_, hspells, List.subset_append_left _ _⟩
      · rcases ih ha with ⟨us, hus, hsub⟩
        exact ⟨us, hus, fun t ht => List.mem_append_right _ (List.mem_cons_of_mem _ (hsub ht))⟩

/-- Things that can each be spelled can be spelled together. -/
theorem exists_separated {α : Type} {isSep : Token → Bool} {Spells : α → List Token → Prop}
    {P : Token → Prop} (sep : Token) (hsep : isSep sep = true) (hP : P sep) {as : List α}
    (hne : as ≠ []) (h : ∀ a ∈ as, ∃ ts, Spells a ts ∧ ∀ t ∈ ts, P t) :
    ∃ ts, Separated isSep Spells as ts ∧ ∀ t ∈ ts, P t := by
  induction as with
  | nil =>
      exact absurd rfl hne
  | cons a as ih =>
      rw [List.forall_mem_cons] at h
      rcases h.1 with ⟨ts, hspells, hts⟩
      cases as with
      | nil =>
          exact ⟨ts, Separated.one hspells, hts⟩
      | cons b as =>
          rcases ih (List.cons_ne_nil b as) h.2 with ⟨us, hseparated, hus⟩
          refine ⟨ts ++ sep :: us, Separated.cons hspells hsep hseparated, ?_⟩
          rw [List.forall_mem_append, List.forall_mem_cons]
          exact ⟨hts, hP, hus⟩

def Token.isComma (t : Token) : Bool :=
  t == .comma

inductive Field.Spelled : Field → List Token → Prop where
  | name {t : Token} :
      t ≠ .comma → t.isWord "*" = false → Spelled (ofText t.text) [t]
  | call {t : Token} {argument : List Token} :
      t ≠ .comma → t.isWord "*" = false → argument ≠ [] →
        (∀ u ∈ argument, u ≠ .closeParen) →
          Spelled (ofText (Query.callText t argument))
            (t :: .openParen :: (argument ++ [.closeParen]))

theorem Field.Spelled.ne_nil (f : Field) (ts : List Token) (h : f.Spelled ts) : ts ≠ [] := by
  cases h <;> simp

/-- What stands before `join`. -/
inductive JoinKind.Spelled : JoinKind → List Token → Prop where
  | bare : Spelled inner []
  | named {k : JoinKind} {t : Token} : ofName? t.text = some k → Spelled k [t]
  | outer {k : JoinKind} {t u : Token} :
      ofName? t.text = some k → u.isWord "outer" = true → Spelled k [t, u]

inductive Join.Spelled : Join → List Token → Prop where
  | mk {kind : JoinKind} {lead : List Token} {join on : Token}
      (table left equals right : Token) :
      kind.Spelled lead → join.isWord "join" = true → on.isWord "on" = true →
        equals.text = "=" →
          Spelled { kind, table := table.text, link := { left := left.text, right := right.text } }
            (lead ++ [join, table, on, left, equals, right])

inductive Condition.Spelled : Condition → List Token → Prop where
  | mk (field op value : Token) {comparison : Comparison} :
      field.isPunctuation = false → Comparison.ofSymbol? op.text = some comparison →
        value.isPunctuation = false →
          Spelled { field := field.text, op := comparison, literal := value.text }
            [field, op, value]

theorem Condition.Spelled.ne_nil (c : Condition) (ts : List Token) (h : c.Spelled ts) :
    ts ≠ [] := by
  cases h
  simp

/-- A name to group by. -/
inductive GroupName : String → List Token → Prop where
  | mk (t : Token) : t.isPunctuation = false → GroupName t.text [t]

/-!
## Tokens that spell a query
-/

inductive JoinClause : Option Join → List Token → Prop where
  | none : JoinClause none []
  | some {j : Join} {ts : List Token} : j.Spelled ts → JoinClause (some j) ts

inductive ConditionClause : List Condition → List Token → Prop where
  | none : ConditionClause [] []
  | some {first : Token} {conditions : List Condition} {ts : List Token} :
      first.isWord "where" = true →
        Separated (Token.isWord "and") Condition.Spelled conditions ts →
          (∀ t ∈ ts, t.isWord "group" = false) → ConditionClause conditions (first :: ts)

inductive GroupClause : Option (List String) → List Token → Prop where
  | none : GroupClause none []
  | some {first second : Token} {names : List String} {ts : List Token} :
      first.isWord "group" = true → second.isWord "by" = true →
        Separated Token.isComma GroupName names ts →
          GroupClause (some names) (first :: second :: ts)

/-- The clauses behind the name of the main table. -/
inductive Query.Clauses (q : Query) : List Token → Prop where
  | mk {joins conditions groups : List Token} :
      JoinClause q.join joins → ConditionClause q.conditions conditions →
        GroupClause q.groupBy groups → Clauses q (joins ++ conditions ++ groups)

inductive Query.Spelled (q : Query) : List Token → Prop where
  | mk {selectWord fromWord table : Token} {fields clauses : List Token} :
      selectWord.isWord "select" = true → Separated Token.isComma Field.Spelled q.fields fields →
        (∀ t ∈ fields, t.isWord "from" = false) → fromWord.isWord "from" = true →
          isClauseWord table = false → table.text = q.table → q.Clauses clauses →
            Spelled q (selectWord :: (fields ++ fromWord :: table :: clauses))

theorem Token.isComma_iff {t : Token} : t.isComma = true ↔ t = .comma := by
  simp [isComma]

namespace Query

/-!
## Reading fields
-/

theorem takeArgument_eq_ok_iff {ts argument rest : List Token} :
    takeArgument ts = .ok (argument, rest) ↔
      ts = argument ++ .closeParen :: rest ∧ argument ≠ [] ∧ ∀ u ∈ argument, u ≠ .closeParen := by
  constructor
  · intro h
    unfold takeArgument at h
    dsimp only at h
    split at h
    · cases h
    · rename_i close rest' hclose
      split at h
      · cases h
      · rename_i hempty
        cases h
        rcases eq_of_dropWhile_eq_cons hclose with ⟨hts, hparen⟩
        have hparen : close = .closeParen := by simpa using hparen
        rw [hparen] at hts
        refine ⟨hts, by simpa using hempty, ?_⟩
        intro u hu
        simpa using forall_takeWhile (· != Token.closeParen) ts u hu
  · rintro ⟨rfl, hne, hargument⟩
    have hrun : ∀ u ∈ argument, (u != Token.closeParen) = true := by
      intro u hu
      simpa using hargument u hu
    have hstop : StopsAt (· != Token.closeParen) (.closeParen :: rest) := by
      simp [StopsAt]
    simp [takeArgument, takeWhile_run hrun hstop, dropWhile_run hrun hstop, hne]

theorem takeField_call {t : Token} (h : t ≠ .comma) (rest : List Token) :
    takeField t (.openParen :: rest) =
      if t.isWord "*" then .error .starField
      else (takeArgument rest).map fun read => (Field.ofText (callText t read.1), read.2) := by
  unfold takeField
  split
  · exact absurd rfl h
  · rename_i heq
    cases heq
    cases takeArgument rest <;> rfl
  · rename_i hparen
    exact absurd rfl (hparen _)

theorem takeField_name {t : Token} (h : t ≠ .comma) {rest : List Token}
    (hrest : rest.head? ≠ some .openParen) :
    takeField t rest =
      if t.isWord "*" then .error .starField else .ok (Field.ofText t.text, rest) := by
  unfold takeField
  split
  · exact absurd rfl h
  · exact absurd rfl hrest
  · rfl

theorem spelled_of_takeField {t : Token} {ts rest : List Token} {f : Field}
    (h : takeField t ts = .ok (f, rest)) :
    ∃ used, ts = used ++ rest ∧ f.Spelled (t :: used) := by
  unfold takeField at h
  split at h
  · cases h
  · rename_i tail hcomma
    split at h
    · cases h
    · rename_i hstar
      rcases bind_eq_ok_iff.mp h with ⟨⟨argument, rest'⟩, hargument, h⟩
      cases h
      rcases takeArgument_eq_ok_iff.mp hargument with ⟨rfl, hne, hinside⟩
      refine ⟨.openParen :: (argument ++ [.closeParen]), by simp, ?_⟩
      exact Field.Spelled.call hcomma (by simpa using hstar) hne hinside
  · rename_i hcomma hparen
    split at h
    · cases h
    · rename_i hstar
      cases h
      exact ⟨[], rfl, Field.Spelled.name hcomma (by simpa using hstar)⟩

/-- A field is read off the front, unless a name alone goes on with a parenthesis. -/
theorem takeField_of_spelled {f : Field} {used : List Token} (h : f.Spelled used)
    {rest : List Token} (hrest : rest.head? ≠ some .openParen) :
    ∃ t ts, used = t :: ts ∧ takeField t (ts ++ rest) = .ok (f, rest) := by
  cases h with
  | name hcomma hstar =>
      rename_i t
      refine ⟨t, [], rfl, ?_⟩
      rw [List.nil_append, takeField_name hcomma hrest, if_neg (by simp [hstar])]
  | call hcomma hstar hne hargument =>
      rename_i t argument
      have htake : takeArgument (argument ++ .closeParen :: rest) = .ok (argument, rest) :=
        takeArgument_eq_ok_iff.mpr ⟨rfl, hne, hargument⟩
      refine ⟨t, _, rfl, ?_⟩
      rw [List.cons_append, List.append_assoc, takeField_call hcomma, if_neg (by simp [hstar])]
      simp [htake, Except.map]

/-- What is read behind a field: nothing, or a comma and other fields. -/
def readMoreFields (field : Field) : List Token → Except QueryFault (List Field)
  | [] => .ok [field]
  | [.comma] => .error .trailingComma
  | .comma :: rest => (readFields rest).map (field :: ·)
  | _ => .error .badFieldList

theorem readMoreFields_comma (field : Field) {rest : List Token} (h : rest ≠ []) :
    readMoreFields field (.comma :: rest) = (readFields rest).map (field :: ·) := by
  cases rest with
  | nil =>
      exact absurd rfl h
  | cons t ts =>
      rfl

theorem readMoreFields_of_ne (field : Field) {t : Token} (h : t ≠ .comma) (ts : List Token) :
    readMoreFields field (t :: ts) = .error .badFieldList := by
  unfold readMoreFields
  split
  · rename_i heq
    cases heq
  · rename_i heq
    cases heq
    exact absurd rfl h
  · rename_i heq
    cases heq
    exact absurd rfl h
  · rfl

theorem readFields_cons (t : Token) (ts : List Token) :
    readFields (t :: ts) = takeField t ts >>= fun read => readMoreFields read.1 read.2 := by
  rw [readFields]
  split
  all_goals
    rename_i heq
    rw [heq]
  · rfl
  · rfl
  · rfl
  · rename_i field rest hrest
    rw [ok_bind, readMoreFields_comma field hrest]
    cases readFields rest <;> rfl
  · rename_i read hnil _ hcomma
    rcases read with ⟨field, rest⟩
    rw [ok_bind]
    cases rest with
    | nil =>
        exact (hnil field rfl).elim
    | cons u us =>
        rw [readMoreFields_of_ne field]
        rintro rfl
        exact hcomma field us rfl

theorem readFields_last {t : Token} {ts : List Token} {f : Field}
    (h : takeField t ts = .ok (f, [])) : readFields (t :: ts) = .ok [f] := by
  rw [readFields_cons, h]
  rfl

theorem readFields_comma {t : Token} {ts rest : List Token} {f : Field}
    (h : takeField t ts = .ok (f, .comma :: rest)) (hrest : rest ≠ []) :
    readFields (t :: ts) = (readFields rest).map (f :: ·) := by
  rw [readFields_cons, h, ok_bind, readMoreFields_comma f hrest]

theorem spelled_of_readFields {ts : List Token} {fields : List Field}
    (h : readFields ts = .ok fields) (hne : ts ≠ []) :
    Separated Token.isComma Field.Spelled fields ts := by
  fun_induction readFields ts generalizing fields with
  | case1 =>
      exact absurd rfl hne
  | case2 t ts fault hfield =>
      cases h
  | case3 t ts f hfield =>
      cases h
      rcases spelled_of_takeField hfield with ⟨used, rfl, hspelled⟩
      rw [List.append_nil]
      exact Separated.one hspelled
  | case4 t ts f hfield =>
      cases h
  | case5 t ts f rest hrest hfield ih =>
      rcases bind_eq_ok_iff.mp h with ⟨others, hothers, h⟩
      cases h
      rcases spelled_of_takeField hfield with ⟨used, rfl, hspelled⟩
      exact Separated.cons hspelled rfl (ih hothers hrest)
  | case6 t ts =>
      cases h

theorem readFields_of_spelled {ts : List Token} {fields : List Field}
    (h : Separated Token.isComma Field.Spelled fields ts) : readFields ts = .ok fields := by
  induction h with
  | one hfield =>
      rcases takeField_of_spelled hfield (show ([] : List Token).head? ≠ some .openParen by simp)
        with ⟨t, us, rfl, htake⟩
      rw [List.append_nil] at htake
      exact readFields_last htake
  | cons hfield hsep hothers ih =>
      rename_i f others sep used ts
      rw [Token.isComma_iff] at hsep
      subst hsep
      rcases takeField_of_spelled hfield (show (Token.comma :: ts).head? ≠ some .openParen by simp)
        with ⟨t, us, rfl, htake⟩
      rw [List.cons_append, readFields_comma htake (hothers.ne_nil Field.Spelled.ne_nil), ih]
      rfl

/-!
## Reading a join
-/

theorem ofName?_of_isWord {t : Token} {v : String} (h : t.isWord v = true)
    (hv : Text.isCapitals v.toList = true) :
    JoinKind.ofName? t.text = JoinKind.ofUpperName? v := by
  rw [JoinKind.ofName?, Token.upper_text_of_isWord h hv, String.ofList_toList]

/-- No keyword of another clause is the name of a kind of join. -/
theorem isWord_eq_false_of_ofName? {t : Token} {k : JoinKind}
    (h : JoinKind.ofName? t.text = some k) :
    t.isWord "join" = false ∧ t.isWord "where" = false ∧ t.isWord "group" = false := by
  have hcapitals : ∀ v ∈ ["JOIN", "WHERE", "GROUP"], t.isWord v = false := by
    intro v hv
    rw [Bool.eq_false_iff]
    intro hword
    have hname := ofName?_of_isWord hword
    simp only [List.mem_cons, List.not_mem_nil, or_false] at hv
    rcases hv with rfl | rfl | rfl
    all_goals
      rw [hname (by decide)] at h
      cases h
  have hlower : ∀ v w, Text.sameWord v.toList w.toList = true → t.isWord w = false →
      t.isWord v = false := by
    intro v w hsame hw
    rw [Bool.eq_false_iff] at hw ⊢
    intro hv
    rw [Token.isWord_of_isWord hv w] at hw
    exact hw hsame
  exact ⟨hlower _ "JOIN" (by decide) (hcapitals _ (by simp)),
    hlower _ "WHERE" (by decide) (hcapitals _ (by simp)),
    hlower _ "GROUP" (by decide) (hcapitals _ (by simp))⟩

theorem joinKind?_eq_ok_iff {t : Token} {k : JoinKind} :
    joinKind? t = .ok k ↔ JoinKind.ofName? t.text = some k := by
  unfold joinKind?
  cases JoinKind.ofName? t.text <;> simp

theorem takeJoinKind_eq_ok_iff {ts rest : List Token} {k : JoinKind} :
    takeJoinKind ts = .ok (k, rest) ↔
      ∃ lead join, ts = lead ++ join :: rest ∧ k.Spelled lead ∧ join.isWord "join" = true := by
  constructor
  · intro h
    unfold takeJoinKind at h
    split at h
    · cases h
    · rename_i first tail
      split at h
      · rename_i hjoin
        cases h
        exact ⟨[], first, rfl, JoinKind.Spelled.bare, hjoin⟩
      · split at h
        · cases h
        · rename_i second tail
          split at h
          · rename_i hjoin
            rcases bind_eq_ok_iff.mp h with ⟨kind, hkind, h⟩
            cases h
            exact ⟨[first], second, rfl, JoinKind.Spelled.named (joinKind?_eq_ok_iff.mp hkind),
              hjoin⟩
          · split at h
            · cases h
            · rename_i third tail
              split at h
              · rename_i houter
                rw [Bool.and_eq_true] at houter
                rcases bind_eq_ok_iff.mp h with ⟨kind, hkind, h⟩
                cases h
                exact ⟨[first, second], third, rfl,
                  JoinKind.Spelled.outer (joinKind?_eq_ok_iff.mp hkind) houter.1, houter.2⟩
              · cases h
  · rintro ⟨lead, join, rfl, hlead, hjoin⟩
    cases hlead with
    | bare =>
        simp [takeJoinKind, hjoin]
    | named hkind =>
        rw [← joinKind?_eq_ok_iff] at hkind
        have hfirst := (isWord_eq_false_of_ofName? (joinKind?_eq_ok_iff.mp hkind)).1
        simp [takeJoinKind, hfirst, hjoin, hkind]
    | outer hkind houter =>
        rw [← joinKind?_eq_ok_iff] at hkind
        have hfirst := (isWord_eq_false_of_ofName? (joinKind?_eq_ok_iff.mp hkind)).1
        rename_i first second
        have hsecond : second.isWord "join" = false :=
          Token.isWord_eq_false_of_isWord houter (by decide)
        simp [takeJoinKind, hfirst, hsecond, hjoin, hkind, houter]

theorem takeJoined_eq_ok_iff {kind : JoinKind} {ts rest : List Token} {j : Join} :
    takeJoined kind ts = .ok (j, rest) ↔
      ∃ table on left equals right, ts = [table, on, left, equals, right] ++ rest ∧
        on.isWord "on" = true ∧ equals.text = "=" ∧
        j = { kind, table := table.text, link := { left := left.text, right := right.text } } := by
  constructor
  · intro h
    unfold takeJoined at h
    split at h
    · rename_i table on left equals right tail
      split at h
      · cases h
      · rename_i hon
        split at h
        · cases h
        · rename_i hequals
          cases h
          exact ⟨table, on, left, equals, right, rfl, by simpa using hon, by simpa using hequals,
            rfl⟩
    · cases h
  · rintro ⟨table, on, left, equals, right, rfl, hon, hequals, rfl⟩
    simp [takeJoined, hon, hequals]

theorem takeJoin_eq_ok_iff {ts rest : List Token} {j : Join} :
    takeJoin ts = .ok (j, rest) ↔ ∃ used, ts = used ++ rest ∧ j.Spelled used := by
  constructor
  · intro h
    rcases bind_eq_ok_iff.mp h with ⟨⟨kind, tail⟩, hkind, hjoined⟩
    rcases takeJoinKind_eq_ok_iff.mp hkind with ⟨lead, join, rfl, hlead, hjoin⟩
    rcases takeJoined_eq_ok_iff.mp hjoined with
      ⟨table, on, left, equals, right, rfl, hon, hequals, rfl⟩
    exact ⟨lead ++ [join, table, on, left, equals, right], by simp,
      Join.Spelled.mk table left equals right hlead hjoin hon hequals⟩
  · rintro ⟨used, rfl, hspelled⟩
    cases hspelled with
    | mk table left equals right hlead hjoin hon hequals =>
        rename_i kind lead join on
        have hkind : takeJoinKind (lead ++ join :: ([table, on, left, equals, right] ++ rest)) =
            .ok (kind, [table, on, left, equals, right] ++ rest) :=
          takeJoinKind_eq_ok_iff.mpr ⟨lead, join, rfl, hlead, hjoin⟩
        rw [List.append_assoc, List.cons_append, takeJoin, hkind]
        exact takeJoined_eq_ok_iff.mpr
          ⟨table, on, left, equals, right, rfl, hon, hequals, rfl⟩

/-!
## Reading conditions
-/

theorem takeCondition_eq_ok_iff {ts rest : List Token} {condition : Condition} :
    takeCondition ts = .ok (condition, rest) ↔
      ∃ used, ts = used ++ rest ∧ condition.Spelled used := by
  constructor
  · intro h
    unfold takeCondition at h
    split at h
    · rename_i field op value tail
      split at h
      · cases h
      · rename_i hfield
        split at h
        · cases h
        · rename_i comparison hop
          split at h
          · cases h
          · rename_i hvalue
            cases h
            exact ⟨[field, op, value], rfl,
              Condition.Spelled.mk field op value (by simpa using hfield) hop
                (by simpa using hvalue)⟩
    · cases h
  · rintro ⟨used, rfl, hspelled⟩
    cases hspelled with
    | mk field op value hfield hop hvalue =>
        simp [takeCondition, hfield, hop, hvalue]

/-- What is read behind a condition: nothing, or `and` and other conditions. -/
def readMoreConditions (condition : Condition) : List Token → Except QueryFault (List Condition)
  | [] => .ok [condition]
  | next :: rest =>
      if next.isWord "and" then
        (readConditions rest).map (condition :: ·)
      else if next.isWord "or" then
        .error .disjunction
      else
        .error .conditionUsage

theorem readConditions_eq (ts : List Token) :
    readConditions ts = takeCondition ts >>= fun read => readMoreConditions read.1 read.2 := by
  rw [readConditions]
  split
  all_goals
    rename_i heq
    rw [heq]
  · rfl
  · rfl
  · rename_i condition next rest
    rw [ok_bind, readMoreConditions]
    cases readConditions rest <;> rfl

theorem readConditions_last {ts : List Token} {condition : Condition}
    (h : takeCondition ts = .ok (condition, [])) : readConditions ts = .ok [condition] := by
  rw [readConditions_eq, h]
  rfl

theorem readConditions_and {ts rest : List Token} {condition : Condition} {next : Token}
    (h : takeCondition ts = .ok (condition, next :: rest)) (hnext : next.isWord "and" = true) :
    readConditions ts = (readConditions rest).map (condition :: ·) := by
  rw [readConditions_eq, h, ok_bind, readMoreConditions, if_pos hnext]

theorem spelled_of_readConditions {ts : List Token} {conditions : List Condition}
    (h : readConditions ts = .ok conditions) :
    Separated (Token.isWord "and") Condition.Spelled conditions ts := by
  fun_induction readConditions ts generalizing conditions with
  | case1 =>
      cases h
  | case2 ts condition hcondition =>
      cases h
      rcases takeCondition_eq_ok_iff.mp hcondition with ⟨used, rfl, hspelled⟩
      rw [List.append_nil]
      exact Separated.one hspelled
  | case3 ts condition next rest hcondition hand ih =>
      rcases bind_eq_ok_iff.mp h with ⟨others, hothers, h⟩
      cases h
      rcases takeCondition_eq_ok_iff.mp hcondition with ⟨used, rfl, hspelled⟩
      exact Separated.cons hspelled hand (ih hothers)
  | case4 =>
      cases h
  | case5 =>
      cases h

theorem readConditions_of_spelled {ts : List Token} {conditions : List Condition}
    (h : Separated (Token.isWord "and") Condition.Spelled conditions ts) :
    readConditions ts = .ok conditions := by
  induction h with
  | one hcondition =>
      exact readConditions_last
        (takeCondition_eq_ok_iff.mpr ⟨_, (List.append_nil _).symm, hcondition⟩)
  | cons hcondition hand _ ih =>
      rw [readConditions_and (takeCondition_eq_ok_iff.mpr ⟨_, rfl, hcondition⟩) hand, ih]
      rfl

theorem spelled_of_takeConditions {ts rest : List Token} {conditions : List Condition}
    (h : takeConditions ts = .ok (conditions, rest)) :
    ∃ used, ts = used ++ rest ∧ ConditionClause conditions used := by
  unfold takeConditions at h
  split at h
  · cases h
    exact ⟨[], rfl, ConditionClause.none⟩
  · rename_i first tail
    split at h
    · rename_i hwhere
      dsimp only at h
      split at h
      · cases h
      · rcases bind_eq_ok_iff.mp h with ⟨read, hread, h⟩
        cases h
        refine ⟨first :: tail.takeWhile fun t => !t.isWord "group", by simp, ?_⟩
        refine ConditionClause.some hwhere (spelled_of_readConditions hread) ?_
        intro t ht
        simpa using forall_takeWhile (fun t => !Token.isWord "group" t) tail t ht
    · cases h
      exact ⟨[], rfl, ConditionClause.none⟩

/-- Conditions reach up to the word that begins the groups. -/
theorem takeConditions_of_spelled {used rest : List Token} {conditions : List Condition}
    (h : ConditionClause conditions used) (hrest : StopsAt (fun t => !t.isWord "group") rest) :
    takeConditions (used ++ rest) = .ok (conditions, rest) := by
  cases h with
  | none =>
      cases rest with
      | nil =>
          rfl
      | cons t rest =>
          have hgroup : t.isWord "group" = true := by
            simpa using hrest t rfl
          have hwhere : t.isWord "where" = false :=
            Token.isWord_eq_false_of_isWord hgroup (by decide)
          simp [takeConditions, hwhere]
  | some hwhere hconditions hgroup =>
      rename_i ts
      have hrun : ∀ t ∈ ts, (!t.isWord "group") = true := by
        intro t ht
        rw [hgroup t ht]
        rfl
      rw [List.cons_append, takeConditions, if_pos hwhere]
      simp only [takeWhile_run hrun hrest, dropWhile_run hrun hrest, List.isEmpty_iff,
        if_neg (hconditions.ne_nil Condition.Spelled.ne_nil), readConditions_of_spelled hconditions]
      rfl

/-!
## Reading groups
-/

theorem spelled_of_takeNames {ts rest : List Token} {names : List String}
    (h : takeNames ts = .ok (names, rest)) :
    ∃ used, ts = used ++ rest ∧ Separated Token.isComma GroupName names used := by
  fun_induction takeNames ts generalizing names rest with
  | case1 => cases h
  | case2 => cases h
  | case3 t hplain ts ih =>
      rcases bind_eq_ok_iff.mp h with ⟨⟨others, tail⟩, hothers, h⟩
      cases h
      rcases ih hothers with ⟨used, rfl, hspelled⟩
      exact ⟨t :: .comma :: used, rfl,
        Separated.cons (GroupName.mk t (by simpa using hplain)) rfl hspelled⟩
  | case4 t hplain ts _ =>
      cases h
      exact ⟨[t], rfl, Separated.one (GroupName.mk t (by simpa using hplain))⟩

theorem takeNames_of_spelled {ts : List Token} {names : List String}
    (h : Separated Token.isComma GroupName names ts) : takeNames ts = .ok (names, []) := by
  induction h with
  | one hname =>
      cases hname with
      | mk t hplain =>
          simp [takeNames, hplain]
  | cons hname hsep _ ih =>
      cases hname with
      | mk t hplain =>
          rw [Token.isComma_iff] at hsep
          simp [takeNames, hplain, hsep, ih]

theorem spelled_of_takeGroupBy {ts : List Token} {groupBy : Option (List String)}
    (h : takeGroupBy ts = .ok (groupBy, [])) : GroupClause groupBy ts := by
  unfold takeGroupBy at h
  split at h
  · cases h
    exact GroupClause.none
  · split at h
    · rename_i hgroup
      split at h
      · split at h
        · rename_i hby
          rcases bind_eq_ok_iff.mp h with ⟨⟨names, tail⟩, hnames, h⟩
          cases h
          rcases spelled_of_takeNames hnames with ⟨used, rfl, hspelled⟩
          rw [List.append_nil]
          exact GroupClause.some hgroup hby hspelled
        · cases h
      · cases h
    · cases h

theorem takeGroupBy_of_spelled {ts : List Token} {groupBy : Option (List String)}
    (h : GroupClause groupBy ts) : takeGroupBy ts = .ok (groupBy, []) := by
  cases h with
  | none =>
      rfl
  | some hgroup hby hnames =>
      simp [takeGroupBy, hgroup, hby, takeNames_of_spelled hnames]

theorem stopsAt_group_of_groupClause {ts : List Token} {groupBy : Option (List String)}
    (h : GroupClause groupBy ts) : StopsAt (fun t => !t.isWord "group") ts := by
  cases h with
  | none =>
      exact stopsAt_nil _
  | some hgroup _ _ =>
      intro t ht
      cases ht
      simp [hgroup]

/-!
## Reading a query
-/

theorem startsJoin_of_spelled {j : Join} {used : List Token} (h : j.Spelled used)
    (rest : List Token) : startsJoin (used ++ rest) = true := by
  cases h with
  | mk table left equals right hlead hjoin hon hequals =>
      rename_i kind lead join on
      cases hlead with
      | bare =>
          have hwhere : join.isWord "where" = false :=
            Token.isWord_eq_false_of_isWord hjoin (by decide)
          have hgroup : join.isWord "group" = false :=
            Token.isWord_eq_false_of_isWord hjoin (by decide)
          simp [startsJoin, hwhere, hgroup]
      | named hkind =>
          rcases isWord_eq_false_of_ofName? hkind with ⟨_, hwhere, hgroup⟩
          simp [startsJoin, hwhere, hgroup]
      | outer hkind _ =>
          rcases isWord_eq_false_of_ofName? hkind with ⟨_, hwhere, hgroup⟩
          simp [startsJoin, hwhere, hgroup]

theorem spelled_of_takeJoinClause {ts rest : List Token} {join : Option Join}
    (h : takeJoinClause ts = .ok (join, rest)) :
    ∃ used, ts = used ++ rest ∧ JoinClause join used := by
  unfold takeJoinClause at h
  split at h
  · rcases bind_eq_ok_iff.mp h with ⟨⟨j, tail⟩, hjoin, h⟩
    cases h
    rcases takeJoin_eq_ok_iff.mp hjoin with ⟨used, rfl, hspelled⟩
    exact ⟨used, rfl, JoinClause.some hspelled⟩
  · cases h
    exact ⟨[], rfl, JoinClause.none⟩

theorem takeJoinClause_of_spelled {used rest : List Token} {join : Option Join}
    (h : JoinClause join used) (hrest : startsJoin rest = false) :
    takeJoinClause (used ++ rest) = .ok (join, rest) := by
  cases h with
  | none =>
      simp [takeJoinClause, hrest]
  | some hspelled =>
      rename_i j
      have htake : takeJoin (used ++ rest) = .ok (j, rest) :=
        takeJoin_eq_ok_iff.mpr ⟨used, rfl, hspelled⟩
      simp [takeJoinClause, startsJoin_of_spelled hspelled, htake]

theorem startsJoin_eq_false {conditions : List Condition} {groupBy : Option (List String)}
    {ts us : List Token} (hconditions : ConditionClause conditions ts)
    (hgroups : GroupClause groupBy us) : startsJoin (ts ++ us) = false := by
  cases hconditions with
  | none =>
      cases hgroups with
      | none =>
          rfl
      | some hgroup _ _ =>
          simp [startsJoin, hgroup]
  | some hwhere _ _ =>
      simp [startsJoin, hwhere]

theorem readClauses_eq_ok_iff {fields : List Field} {table : String} {ts : List Token}
    {q : Query} :
    readClauses fields table ts = .ok q ↔ q.fields = fields ∧ q.table = table ∧ q.Clauses ts := by
  constructor
  · intro h
    rcases bind_eq_ok_iff.mp h with ⟨⟨join, tail⟩, hjoin, h⟩
    rcases bind_eq_ok_iff.mp h with ⟨⟨conditions, tail'⟩, hconditions, h⟩
    rcases bind_eq_ok_iff.mp h with ⟨⟨groupBy, tail''⟩, hgroupBy, h⟩
    dsimp only at h hconditions hgroupBy
    split at h
    · rename_i hempty
      cases h
      rw [List.isEmpty_iff] at hempty
      subst hempty
      rcases spelled_of_takeJoinClause hjoin with ⟨joins, rfl, hjoins⟩
      rcases spelled_of_takeConditions hconditions with ⟨used, rfl, hused⟩
      rw [← List.append_assoc]
      exact ⟨rfl, rfl, Clauses.mk hjoins hused (spelled_of_takeGroupBy hgroupBy)⟩
    · cases h
  · rintro ⟨rfl, rfl, hclauses⟩
    cases hclauses with
    | mk hjoins hconditions hgroups =>
        have hjoin := takeJoinClause_of_spelled hjoins (startsJoin_eq_false hconditions hgroups)
        have hcondition := takeConditions_of_spelled hconditions
          (stopsAt_group_of_groupClause hgroups)
        rw [List.append_assoc]
        simp [readClauses, hjoin, hcondition, takeGroupBy_of_spelled hgroups]
        rfl

/-- Behind the fields and the name of the main table, the clauses are read. -/
theorem readSelect_of_spelled {fields : List Field} {ts : List Token} {fromWord table : Token}
    (hfields : Separated Token.isComma Field.Spelled fields ts)
    (hnone : ∀ t ∈ ts, t.isWord "from" = false) (hfromWord : fromWord.isWord "from" = true)
    (htable : isClauseWord table = false) (clauses : List Token) :
    readSelect (ts ++ fromWord :: table :: clauses) = readClauses fields table.text clauses := by
  have hrun : ∀ t ∈ ts, (!t.isWord "from") = true := by
    intro t ht
    rw [hnone t ht]
    rfl
  have hstop : StopsAt (fun t => !Token.isWord "from" t) (fromWord :: table :: clauses) := by
    intro t ht
    cases ht
    simp [hfromWord]
  unfold readSelect
  simp [takeWhile_run hrun hstop, dropWhile_run hrun hstop, hfields.ne_nil Field.Spelled.ne_nil,
    readFields_of_spelled hfields, htable]

theorem readSelect_eq_ok_iff {ts : List Token} {q : Query} :
    readSelect ts = .ok q ↔
      ∃ fields fromWord table clauses, ts = fields ++ fromWord :: table :: clauses ∧
        Separated Token.isComma Field.Spelled q.fields fields ∧
        (∀ t ∈ fields, t.isWord "from" = false) ∧ fromWord.isWord "from" = true ∧
        isClauseWord table = false ∧ table.text = q.table ∧ q.Clauses clauses := by
  constructor
  · intro h
    unfold readSelect at h
    dsimp only at h
    split at h
    · cases h
    · rename_i fromWord rest hfrom
      rcases eq_of_dropWhile_eq_cons hfrom with ⟨hts, hfromWord⟩
      split at h
      · cases h
      · rename_i hempty
        rcases bind_eq_ok_iff.mp h with ⟨fields, hfields, hrest⟩
        clear h
        split at hrest
        · cases hrest
        · rename_i table clauses
          split at hrest
          · cases hrest
          · rename_i htable
            rcases readClauses_eq_ok_iff.mp hrest with ⟨rfl, hname, hclauses⟩
            refine ⟨_, fromWord, table, clauses, hts, ?_, ?_, by simpa using hfromWord,
              by simpa using htable, hname.symm, hclauses⟩
            · exact spelled_of_readFields hfields (by simpa using hempty)
            · intro t ht
              simpa using forall_takeWhile (fun t => !Token.isWord "from" t) ts t ht
  · rintro ⟨fields, fromWord, table, clauses, rfl, hfields, hnone, hfromWord, htable, hname,
      hclauses⟩
    rw [readSelect_of_spelled hfields hnone hfromWord htable]
    exact readClauses_eq_ok_iff.mpr ⟨rfl, hname.symm, hclauses⟩

/-- A query is read from exactly the tokens that spell it. -/
theorem ofTokens_eq_ok_iff {ts : List Token} {q : Query} : ofTokens ts = .ok q ↔ q.Spelled ts := by
  constructor
  · intro h
    unfold ofTokens at h
    split at h
    · cases h
    · split at h
      · rename_i hselect
        rcases readSelect_eq_ok_iff.mp h with ⟨fields, fromWord, table, clauses, rfl, hfields,
          hnone, hfromWord, htable, hname, hclauses⟩
        exact Spelled.mk hselect hfields hnone hfromWord htable hname hclauses
      · cases h
  · intro h
    cases h with
    | mk hselect hfields hnone hfromWord htable hname hclauses =>
        rw [ofTokens, if_pos hselect, readSelect_eq_ok_iff]
        exact ⟨_, _, _, _, rfl, hfields, hnone, hfromWord, htable, hname, hclauses⟩

end Query
end TableQuery
