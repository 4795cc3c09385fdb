import TableQuery.Proofs.Query.Spelling

/-!
# Names in accepted queries

Whatever a query names something by is the text of one token.  Each place lets other
tokens through, and asks nothing more of them: conditions and groups keep commas and
parentheses out, a join keeps nothing out, and no place keeps operators out.
-/

namespace TableQuery

/-!
## Texts of tokens
-/

namespace Token

/-- A word or a quoted text. -/
def isName : Token → Bool
  | word _ => true
  | quoted _ _ => true
  | _ => false

/-- The text is that of a token with the property, and there are texts which are cut into
that token. -/
def IsTextOf (p : Token → Bool) (text : String) : Prop :=
  ∃ t : Token, t.WellFormed ∧ p t = true ∧ t.text = text

/-- Only a quoted text begins with a quote. -/
theorem ofChar?_head_text {t : Token} (h : t.WellFormed) (hquoted : ¬∃ q s, t = quoted q s) :
    t.text.toList.head?.bind Text.Quote.ofChar? = none := by
  have hrun : ∀ (p : Char → Bool) (s : String),
      (∀ c, p c = true → Text.Quote.ofChar? c = none) → (∀ c ∈ s.toList, p c = true) →
        s.toList.head?.bind Text.Quote.ofChar? = none := by
    intro p s hp hs
    rw [Option.bind_eq_none_iff]
    intro c hc
    exact hp c (hs c (List.mem_of_head? hc))
  cases t with
  | word s =>
      exact hrun isWordChar s (fun c hc => (isWordChar_iff.mp hc).2.1) h.2
  | quoted q s =>
      exact absurd ⟨q, s, rfl⟩ hquoted
  | operator s =>
      exact hrun isOperatorChar s (fun c hc => (isOperatorChar_disjoint hc).2.1) h.2
  | comma =>
      decide
  | openParen =>
      decide
  | closeParen =>
      decide

theorem write_eq_text {t : Token} (hquoted : ¬∃ q s, t = quoted q s) : t.write = t.text.toList := by
  cases t with
  | quoted q s =>
      exact absurd ⟨q, s, rfl⟩ hquoted
  | word s =>
      rfl
  | operator s =>
      rfl
  | comma =>
      rfl
  | openParen =>
      rfl
  | closeParen =>
      rfl

theorem head?_text_quoted (q : Text.Quote) (s : String) :
    (quoted q s).text.toList.head? = some q.char := by
  simp [text, Text.Quote.enclose]

theorem eq_of_text_quoted {q : Text.Quote} {s : String} {t : Token} (h : t.WellFormed)
    (htext : t.text = (quoted q s).text) : t = quoted q s := by
  have hhead : t.text.toList.head? = some q.char := by
    rw [htext, head?_text_quoted]
  by_cases hquoted : ∃ q' s', t = quoted q' s'
  · rcases hquoted with ⟨q', s', rfl⟩
    rw [head?_text_quoted, Option.some_inj] at hhead
    have hquote : q' = q := by
      rw [← Option.some_inj, ← Text.Quote.ofChar?_char, hhead, Text.Quote.ofChar?_char]
    subst hquote
    have hinside : s' = s := by
      simpa [text, Text.Quote.enclose] using htext
    rw [hinside]
  · have hnone := ofChar?_head_text h hquoted
    rw [hhead, Option.bind_some, Text.Quote.ofChar?_char] at hnone
    cases hnone

/-- A token that can be cut from a text is determined by its own text. -/
theorem eq_of_text_eq {t u : Token} (ht : t.WellFormed) (hu : u.WellFormed)
    (htext : t.text = u.text) : t = u := by
  by_cases htquoted : ∃ q s, t = quoted q s
  · rcases htquoted with ⟨q, s, rfl⟩
    exact (eq_of_text_quoted hu htext.symm).symm
  · by_cases huquoted : ∃ q s, u = quoted q s
    · rcases huquoted with ⟨q, s, rfl⟩
      exact eq_of_text_quoted ht htext
    · -- Outside quotes a token is cut from its own text, and a text is cut in one way.
      have hwrite : t.write = u.write := by
        rw [write_eq_text htquoted, write_eq_text huquoted, htext]
      have hscan := (cut_write ht).scan_eq
      rw [hwrite, (cut_write hu).scan_eq] at hscan
      cases hscan
      rfl

theorem isTextOf_text_iff {p : Token → Bool} {t : Token} (h : t.WellFormed) :
    IsTextOf p t.text ↔ p t = true := by
  constructor
  · rintro ⟨u, hu, hp, htext⟩
    rwa [← eq_of_text_eq hu h htext]
  · intro hp
    exact ⟨t, h, hp, rfl⟩

end Token

/-!
## Places of names
-/

namespace Query

/-- The places of a query where a name or a value stands. -/
inductive Place where
  | main
  | joined
  | link
  | field
  | literal
  | group
  deriving Repr, DecidableEq

/-- The tokens that are let through at a place. -/
def Place.admits : Place → Token → Bool
  | main, t => !isClauseWord t
  | joined, _ => true
  | link, _ => true
  | field, t => !t.isPunctuation && !t.isWord "group"
  | literal, t => !t.isPunctuation && !t.isWord "group"
  | group, t => !t.isPunctuation

def joinNames (j : Join) : List (Place × String) :=
  [(.joined, j.table), (.link, j.link.left), (.link, j.link.right)]

def conditionNames (c : Condition) : List (Place × String) :=
  [(.field, c.field), (.literal, c.literal)]

/-- Everything that the query names other than in its fields, and where. -/
def names (q : Query) : List (Place × String) :=
  (.main, q.table) :: (q.join.toList.flatMap joinNames ++ q.conditions.flatMap conditionNames ++
    (q.groupBy.getD []).map fun name => (.group, name))

/-- Every name is the text of a token that is let through where it stands. -/
def Named (xs : List (Place × String)) : Prop :=
  ∀ x ∈ xs, Token.IsTextOf x.1.admits x.2

/-!
## Names that are read
-/

theorem named_append_iff {xs ys : List (Place × String)} :
    Named (xs ++ ys) ↔ Named xs ∧ Named ys :=
  List.forall_mem_append

theorem named_of_joinClause {join : Option Join} {ts : List Token} (h : JoinClause join ts)
    (hts : ∀ t ∈ ts, t.WellFormed) : Named (join.toList.flatMap joinNames) := by
  cases h with
  | none =>
      simp [Named]
  | some hspelled =>
      cases hspelled with
      | mk table left equals right _ _ _ _ =>
          simp only [List.forall_mem_append, List.forall_mem_cons] at hts
          rcases hts with ⟨_, _, htable, _, hleft, _, hright, _⟩
          have hnamed : ∀ x ∈ [(Place.joined, table.text), (.link, left.text), (.link, right.text)],
              Token.IsTextOf x.1.admits x.2 := by
            simp only [List.forall_mem_cons]
            exact ⟨⟨table, htable, rfl, rfl⟩, ⟨left, hleft, rfl, rfl⟩, ⟨right, hright, rfl, rfl⟩,
              by simp⟩
          simpa [Named, joinNames] using hnamed

theorem named_of_conditionClause {conditions : List Condition} {ts : List Token}
    (h : ConditionClause conditions ts) (hts : ∀ t ∈ ts, t.WellFormed) :
    Named (conditions.flatMap conditionNames) := by
  cases h with
  | none =>
      simp [Named]
  | some _ hconditions hgroup =>
      rename_i first us
      rw [List.forall_mem_cons] at hts
      intro x hx
      rcases List.mem_flatMap.mp hx with ⟨c, hc, hx⟩
      rcases hconditions.exists_of_mem hc with ⟨vs, hspelled, hsub⟩
      cases hspelled with
      | mk field op value hfield _ hvalue =>
          have hlets : ∀ t ∈ [field, op, value], t.isPunctuation = false →
              Token.IsTextOf (fun t => !t.isPunctuation && !t.isWord "group") t.text := by
            intro t ht hplain
            exact ⟨t, hts.2 t (hsub ht), by simp [hplain, hgroup t (hsub ht)], rfl⟩
          simp only [conditionNames, List.mem_cons, List.not_mem_nil, or_false] at hx
          rcases hx with rfl | rfl
          · exact hlets field (by simp) hfield
          · exact hlets value (by simp) hvalue

theorem named_of_groupClause {groupBy : Option (List String)} {ts : List Token}
    (h : GroupClause groupBy ts) (hts : ∀ t ∈ ts, t.WellFormed) :
    groupBy ≠ some [] ∧ Named ((groupBy.getD []).map fun name => (.group, name)) := by
  cases h with
  | none =>
      simp [Named]
  | some _ _ hnames =>
      rename_i first second names us
      simp only [List.forall_mem_cons] at hts
      constructor
      · cases hnames <;> simp
      · intro x hx
        rcases List.mem_map.mp hx with ⟨name, hname, rfl⟩
        rcases hnames.exists_of_mem hname with ⟨vs, hspelled, hsub⟩
        cases hspelled with
        | mk t hplain =>
            exact ⟨t, hts.2.2 t (hsub List.mem_cons_self), by simp [Place.admits, hplain], rfl⟩

/-!
## Names that can be asked for
-/

theorem exists_joinClause {join : Option Join} (h : Named (join.toList.flatMap joinNames)) :
    ∃ ts, JoinClause join ts ∧ ∀ t ∈ ts, t.WellFormed := by
  cases join with
  | none =>
      exact ⟨[], JoinClause.none, by simp⟩
  | some j =>
      rcases j with ⟨kind, main, link⟩
      simp only [Named, joinNames, Option.toList_some, List.flatMap_cons, List.flatMap_nil,
        List.append_nil, List.forall_mem_cons] at h
      rcases h with
        ⟨⟨table, htable, _, rfl⟩, ⟨left, hleft, _, hlink⟩, ⟨right, hright, _, hlink'⟩, _⟩
      have hkind : kind.Spelled [.word kind.name] := by
        apply JoinKind.Spelled.named
        cases kind <;> decide
      have hname : (Token.word kind.name).WellFormed := by
        cases kind <;> decide
      have hjoin : (Token.word "join").isWord "join" = true := rfl
      have hon : (Token.word "on").isWord "on" = true := rfl
      have hspelled := Join.Spelled.mk table left (.operator "=") right hkind hjoin hon rfl
      rw [hlink, hlink'] at hspelled
      refine ⟨_, JoinClause.some hspelled, ?_⟩
      simp only [List.cons_append, List.nil_append, List.forall_mem_cons]
      exact ⟨hname, by decide, htable, by decide, hleft, by decide, hright, by simp⟩

theorem exists_spelled_condition {c : Condition} (h : Named (conditionNames c)) :
    ∃ ts, c.Spelled ts ∧ ∀ t ∈ ts, t.WellFormed ∧ t.isWord "group" = false := by
  rcases c with ⟨name, comparison, literal⟩
  simp only [Named, conditionNames, List.forall_mem_cons] at h
  rcases h with ⟨⟨field, hfield, hlets, rfl⟩, ⟨value, hvalue, hlets', rfl⟩, _⟩
  simp only [Place.admits, Bool.and_eq_true, Bool.not_eq_true'] at hlets hlets'
  have hop : (Token.operator comparison.symbol).WellFormed := by
    cases comparison <;> decide
  refine ⟨_, Condition.Spelled.mk field (.operator comparison.symbol) value hlets.1
    (Comparison.ofSymbol?_symbol comparison) hlets'.1, ?_⟩
  simp only [List.forall_mem_cons]
  exact ⟨⟨hfield, hlets.2⟩, ⟨hop, rfl⟩, ⟨hvalue, hlets'.2⟩, by simp⟩

theorem exists_conditionClause {conditions : List Condition}
    (h : Named (conditions.flatMap conditionNames)) :
    ∃ ts, ConditionClause conditions ts ∧ ∀ t ∈ ts, t.WellFormed := by
  by_cases hne : conditions = []
  · subst hne
    exact ⟨[], ConditionClause.none, by simp⟩
  · have hspelled : ∀ c ∈ conditions, ∃ ts, c.Spelled ts ∧
        ∀ t ∈ ts, t.WellFormed ∧ t.isWord "group" = false := by
      intro c hc
      exact exists_spelled_condition fun x hx => h x (List.mem_flatMap.mpr ⟨c, hc, hx⟩)
    have hand : (Token.word "and").WellFormed ∧ (Token.word "and").isWord "group" = false := by
      decide
    have hsep : (Token.word "and").isWord "and" = true := rfl
    rcases exists_separated (.word "and") hsep hand hne hspelled with ⟨ts, hts, hall⟩
    refine ⟨.word "where" :: ts, ConditionClause.some rfl hts fun t ht => (hall t ht).2, ?_⟩
    rw [List.forall_mem_cons]
    exact ⟨by decide, fun t ht => (hall t ht).1⟩

theorem exists_groupClause {groupBy : Option (List String)} (hne : groupBy ≠ some [])
    (h : Named ((groupBy.getD []).map fun name => (.group, name))) :
    ∃ ts, GroupClause groupBy ts ∧ ∀ t ∈ ts, t.WellFormed := by
  cases groupBy with
  | none =>
      exact ⟨[], GroupClause.none, by simp⟩
  | some names =>
      have hspelled : ∀ name ∈ names, ∃ ts, GroupName name ts ∧ ∀ t ∈ ts, t.WellFormed := by
        intro name hname
        rcases h (.group, name) (List.mem_map_of_mem hname) with ⟨t, ht, hplain, rfl⟩
        exact ⟨[t], GroupName.mk t (by simpa [Place.admits] using hplain), by simpa using ht⟩
      have hsep : Token.comma.isComma = true := rfl
      rcases exists_separated .comma hsep trivial (by simpa using hne) hspelled with
        ⟨ts, hts, hall⟩
      refine ⟨.word "group" :: .word "by" :: ts, GroupClause.some rfl rfl hts, ?_⟩
      simp only [List.forall_mem_cons]
      exact ⟨by decide, by decide, hall⟩

theorem exists_spelled_iff_named (q : Query) :
    (∃ fields ts, Spelled { q with fields := fields } ts ∧ ∀ t ∈ ts, t.WellFormed) ↔
      q.groupBy ≠ some [] ∧ Named q.names := by
  constructor
  · rintro ⟨fields, ts, hspelled, hts⟩
    cases hspelled with
    | mk _ _ _ _ htable hname hclauses =>
        simp only [List.forall_mem_cons, List.forall_mem_append] at hts
        rcases hts with ⟨_, _, _, hmain, hrest⟩
        cases hclauses with
        | mk hjoins hconditions hgroups =>
            simp only [List.forall_mem_append] at hrest
            rcases named_of_groupClause hgroups hrest.2 with ⟨hne, hgrouped⟩
            refine ⟨hne, List.forall_mem_cons.mpr ⟨?_, ?_⟩⟩
            · exact ⟨_, hmain, by simp [Place.admits, htable], hname⟩
            · exact named_append_iff.mpr ⟨named_append_iff.mpr
                ⟨named_of_joinClause hjoins hrest.1.1,
                  named_of_conditionClause hconditions hrest.1.2⟩, hgrouped⟩
  · rintro ⟨hne, hnamed⟩
    rcases List.forall_mem_cons.mp hnamed with ⟨⟨table, htable, hlets, hname⟩, hrest⟩
    rcases named_append_iff.mp hrest with ⟨hrest, hgrouped⟩
    rcases named_append_iff.mp hrest with ⟨hjoined, hcompared⟩
    rcases exists_joinClause hjoined with ⟨joins, hjoins, hjoinTokens⟩
    rcases exists_conditionClause hcompared with ⟨conditions, hconditions, hconditionTokens⟩
    rcases exists_groupClause hne hgrouped with ⟨groups, hgroups, hgroupTokens⟩
    -- Any field will do, since none is among the names.
    have hfield := Field.Spelled.name (t := .word "a") (by decide) (by decide)
    have hselect : (Token.word "select").isWord "select" = true := rfl
    have hfrom : (Token.word "from").isWord "from" = true := rfl
    refine ⟨[Field.ofText "a"], _, Spelled.mk hselect (Separated.one hfield) (by decide) hfrom
      (by simpa [Place.admits] using hlets) hname (Clauses.mk hjoins hconditions hgroups), ?_⟩
    simp only [List.forall_mem_cons, List.forall_mem_append]
    exact ⟨by decide, ⟨by decide, by simp⟩, by decide, htable,
      ⟨hjoinTokens, hconditionTokens⟩, hgroupTokens⟩

/-- The names that accepted queries have, apart from those in their fields: exactly the texts
of the tokens that their places let through. -/
theorem exists_parse_iff_named (q : Query) :
    (∃ text fields, parse text = .ok { q with fields := fields }) ↔
      q.groupBy ≠ some [] ∧ Named q.names := by
  rw [← exists_spelled_iff_named]
  constructor
  · rintro ⟨text, fields, h⟩
    rcases parse_eq_ok_iff.mp h with ⟨ts, hscan, htokens⟩
    exact ⟨fields, ts, ofTokens_eq_ok_iff.mp htokens, (Token.cut_of_scan hscan).wellFormed⟩
  · rintro ⟨fields, ts, hspelled, hts⟩
    have hscan := Token.scan_of_laid (Token.laid_spaced ts) hts
    refine ⟨String.ofList (Token.spaced ts ++ [';']), fields, ?_⟩
    rw [parse_append_semicolon hscan, ofTokens_eq_ok_iff]
    exact hspelled

/-- A comma is let through as the name of the main table. -/
theorem parse_comma_as_table :
    ∃ q, parse "SELECT a FROM ," = .ok q ∧ ¬∀ x ∈ q.names, Token.IsTextOf Token.isName x.2 := by
  refine ⟨⟨[.column "a"], ",", [], none, none⟩, by decide +kernel, ?_⟩
  intro h
  have hcomma := Token.isTextOf_text_iff (p := Token.isName)
    (show Token.comma.WellFormed from trivial)
  exact absurd (hcomma.mp (h (.main, ",") (by simp [names]))) (by decide)

end Query
end TableQuery
