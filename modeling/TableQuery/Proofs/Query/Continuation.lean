import TableQuery.Proofs.Query.Layout

/-!
# Queries that are continued

A query without groups can be continued with more conditions, and behind them with groups.  How
the continuation is read does not depend on the query in front of it, which is kept as it is.
-/

namespace TableQuery
namespace Query

/-!
## Conditions in front of others
-/

/-- Conditions are read in front of others, which are read alone. -/
theorem readConditions_append {conditions : List Condition} {ts : List Token}
    (h : Separated (Token.isWord "and") Condition.Spelled conditions ts) {next : Token}
    (hnext : next.isWord "and" = true) (us : List Token) :
    readConditions (ts ++ next :: us) = (readConditions us).map (conditions ++ ·) := by
  induction h with
  | one hc =>
      exact readConditions_and (takeCondition_eq_ok_iff.mpr ⟨_, rfl, hc⟩) hnext
  | cons hc hand _ ih =>
      rw [List.append_assoc, List.cons_append,
        readConditions_and (takeCondition_eq_ok_iff.mpr ⟨_, rfl, hc⟩) hand, ih]
      cases readConditions us <;> rfl

/-- The conditions that the rest of a clause adds to one: none, or those behind `and`. -/
def readFurther : List Token → Except QueryFault (List Condition)
  | [] => .ok []
  | next :: rest =>
      if next.isWord "and" then readConditions rest
      else if next.isWord "or" then .error .disjunction
      else .error .conditionUsage

theorem readConditions_of_spelled_append {c : Condition} {ts : List Token} (h : c.Spelled ts)
    (us : List Token) : readConditions (ts ++ us) = (readFurther us).map (c :: ·) := by
  rw [readConditions_eq, takeCondition_eq_ok_iff.mpr ⟨_, rfl, h⟩, ok_bind]
  cases us with
  | nil =>
      rfl
  | cons next rest =>
      rw [readMoreConditions, readFurther]
      split
      · rfl
      · split <;> rfl

/-!
## Up to the groups
-/

def isBeforeGroups (t : Token) : Bool :=
  !t.isWord "group"

theorem isBeforeGroups_iff {t : Token} : isBeforeGroups t = true ↔ t.isWord "group" = false := by
  simp [isBeforeGroups]

/-- Behind `where` the conditions reach up to the groups. -/
theorem takeConditions_where {first : Token} (hwhere : first.isWord "where" = true)
    {us : List Token} (hne : us.takeWhile isBeforeGroups ≠ []) :
    takeConditions (first :: us) =
      (readConditions (us.takeWhile isBeforeGroups)).map (·, us.dropWhile isBeforeGroups) := by
  have hread : takeConditions (first :: us) =
      if (us.takeWhile isBeforeGroups).isEmpty then .error .usage
      else (readConditions (us.takeWhile isBeforeGroups)).map (·, us.dropWhile isBeforeGroups) := by
    rw [takeConditions, if_pos hwhere]
    rfl
  rw [hread, if_neg (List.isEmpty_iff.not.mpr hne)]

/-- The conditions in front of the groups, and the groups, up to the end of the tokens. -/
def readUpToGroups (read : List Token → Except QueryFault (List Condition)) (ts : List Token) :
    Except QueryFault (List Condition × Option (List String)) := do
  let conditions ← read (ts.takeWhile isBeforeGroups)
  let (groupBy, rest) ← takeGroupBy (ts.dropWhile isBeforeGroups)
  if rest.isEmpty then pure (conditions, groupBy) else .error .usage

theorem readUpToGroups_condition {c : Condition} {ts : List Token} (h : c.Spelled ts)
    (hts : ∀ t ∈ ts, isBeforeGroups t = true) (us : List Token) :
    readUpToGroups readConditions (ts ++ us) =
      (readUpToGroups readFurther us).map fun read => (c :: read.1, read.2) := by
  rw [readUpToGroups, readUpToGroups, List.takeWhile_append_of_pos hts,
    List.dropWhile_append_of_pos hts, readConditions_of_spelled_append h]
  cases readFurther (us.takeWhile isBeforeGroups) with
  | error fault =>
      rfl
  | ok more =>
      simp only [Except.map, ok_bind]
      cases takeGroupBy (us.dropWhile isBeforeGroups) with
      | error fault =>
          rfl
      | ok read =>
          rcases read with ⟨groupBy, rest⟩
          cases rest <;> rfl

/-- Where the literal is missing, because the text ends there or the word that begins the groups
follows, there is no condition. -/
theorem readUpToGroups_noLiteral {field op : Token} (hfield : isBeforeGroups field = true)
    (hop : isBeforeGroups op = true) {us : List Token} (hus : us.takeWhile isBeforeGroups = []) :
    readUpToGroups readConditions (field :: op :: us) = .error .conditionUsage := by
  have htake : (field :: op :: us).takeWhile isBeforeGroups = [field, op] := by
    rw [List.takeWhile_cons_of_pos hfield, List.takeWhile_cons_of_pos hop, hus]
  rw [readUpToGroups, htake, readConditions_eq]
  rfl

/-!
## Behind a query
-/

/-- The word in front of the next condition. -/
def leadWord (conditions : List Condition) : String :=
  if conditions.isEmpty then "where" else "and"

section Clauses

variable {conditions : List Condition} {ts : List Token} {keyword : Token}

theorem startsJoin_lead (h : ConditionClause conditions ts)
    (hkeyword : keyword.isWord (leadWord conditions) = true) (us : List Token) :
    startsJoin (ts ++ keyword :: us) = false := by
  cases h with
  | none =>
      have hwhere : keyword.isWord "where" = true := hkeyword
      simp [startsJoin, hwhere]
  | some hwhere _ _ =>
      simp [startsJoin, hwhere]

/-- Behind the word that leads the next condition, the clause is read alone. -/
theorem takeConditions_lead (h : ConditionClause conditions ts)
    (hkeyword : keyword.isWord (leadWord conditions) = true) {us : List Token}
    (hne : us.takeWhile isBeforeGroups ≠ []) :
    takeConditions (ts ++ keyword :: us) =
      (readConditions (us.takeWhile isBeforeGroups)).map fun more =>
        (conditions ++ more, us.dropWhile isBeforeGroups) := by
  cases h with
  | none =>
      have hwhere : keyword.isWord "where" = true := hkeyword
      rw [List.nil_append, takeConditions_where hwhere hne]
      rfl
  | @some first _ ts hwhere hseparated hnone =>
      have hand : keyword.isWord "and" = true := by
        cases hseparated <;> exact hkeyword
      have hgroup : keyword.isWord "group" = false :=
        Token.isWord_eq_false_of_isWord hand (by decide)
      have hrun : ∀ t ∈ ts ++ [keyword], isBeforeGroups t = true := by
        simp only [isBeforeGroups_iff, List.forall_mem_append, List.forall_mem_singleton]
        exact ⟨hnone, hgroup⟩
      have htake : (ts ++ keyword :: us).takeWhile isBeforeGroups =
          ts ++ keyword :: us.takeWhile isBeforeGroups := by
        rw [List.append_cons, List.takeWhile_append_of_pos hrun, ← List.append_cons]
      have hdrop : (ts ++ keyword :: us).dropWhile isBeforeGroups =
          us.dropWhile isBeforeGroups := by
        rw [List.append_cons, List.dropWhile_append_of_pos hrun]
      rw [List.cons_append, takeConditions_where hwhere (by simp [htake]), htake, hdrop,
        readConditions_append hseparated hand]
      cases readConditions (us.takeWhile isBeforeGroups) <;> rfl

theorem readClauses_lead (fields : List Field) (table : String) {join : Option Join}
    {joins : List Token} (hjoins : JoinClause join joins) (h : ConditionClause conditions ts)
    (hkeyword : keyword.isWord (leadWord conditions) = true) {us : List Token}
    (hne : us.takeWhile isBeforeGroups ≠ []) :
    readClauses fields table (joins ++ ts ++ keyword :: us) =
      (readUpToGroups readConditions us).map fun read =>
        { fields, table, conditions := conditions ++ read.1, join, groupBy := read.2 } := by
  rw [List.append_assoc, readClauses,
    takeJoinClause_of_spelled hjoins (startsJoin_lead h hkeyword us), ok_bind]
  dsimp only
  rw [takeConditions_lead h hkeyword hne, readUpToGroups]
  cases readConditions (us.takeWhile isBeforeGroups) with
  | error fault =>
      rfl
  | ok more =>
      simp only [Except.map, ok_bind]
      cases takeGroupBy (us.dropWhile isBeforeGroups) with
      | error fault =>
          rfl
      | ok read =>
          rcases read with ⟨groupBy, rest⟩
          cases rest <;> rfl

end Clauses

/-- The query with further conditions and with groups. -/
def continued (d : Query) (read : List Condition × Option (List String)) : Query :=
  { d with conditions := d.conditions ++ read.1, groupBy := read.2 }

/-- Tokens of a query without groups, and the word in front of its next condition. -/
structure Opens (d : Query) (ts : List Token) (keyword : Token) : Prop where
  ofTokens : ofTokens ts = .ok d
  groupBy : d.groupBy = none
  keyword : keyword.isWord (leadWord d.conditions) = true

/-- What continues a query is read as if it stood alone. -/
theorem Opens.ofTokens_lead {d : Query} {ts : List Token} {keyword : Token}
    (h : d.Opens ts keyword) {us : List Token} (hne : us.takeWhile isBeforeGroups ≠ []) :
    Query.ofTokens (ts ++ keyword :: us) =
      (readUpToGroups readConditions us).map d.continued := by
  cases ofTokens_eq_ok_iff.mp h.ofTokens with
  | mk hselect hfields hnone hfromWord htable hname hclauses =>
      cases hclauses with
      | @mk joins conditions groups hjoins hconditions hgroups =>
          rw [h.groupBy] at hgroups
          cases hgroups
          have hread := readSelect_of_spelled hfields hnone hfromWord htable
            (joins ++ conditions ++ keyword :: us)
          rw [hname, readClauses_lead _ _ hjoins hconditions h.keyword hne] at hread
          rw [List.append_nil, List.cons_append, Query.ofTokens, if_pos hselect]
          refine Eq.trans ?_ hread
          simp

end Query
end TableQuery
