import TableQuery.Proofs.Query.Spelling
import TableQuery.Query.Written

/-!
# Queries read back from their written form

Whatever letter case the keywords have and whatever blanks are chosen, the tokens of a
written query spell that query, clause by clause, and so the query is read back.
-/

namespace TableQuery

/-!
## Tokens admitted by parts
-/

namespace Piece

/-- Every token that may stand for the part has the property. -/
def Meets (P : Token → Prop) (p : Piece) : Prop :=
  ∀ t, p.admits t = true → P t

section Admitted

variable {P : Token → Prop} {ps rest : List Piece} {ts : List Token}

theorem admits_fixed_iff {t u : Token} : (fixed t).admits u = true ↔ u = t := by
  rw [admits, beq_iff_eq, eq_comm]

theorem meets_fixed {t : Token} (h : P t) : (fixed t).Meets P := by
  intro u hu
  rw [admits_fixed_iff.mp hu]
  exact h

theorem admitsAll_nil_iff : admitsAll [] ts = true ↔ ts = [] := by
  cases ts <;> simp [admitsAll]

theorem admitsAll_cons_iff {p : Piece} :
    admitsAll (p :: ps) ts = true ↔
      ∃ t us, ts = t :: us ∧ p.admits t = true ∧ admitsAll ps us = true := by
  cases ts with
  | nil =>
      simp [admitsAll]
  | cons t us =>
      rw [admitsAll, Bool.and_eq_true]
      constructor
      · rintro ⟨ht, hus⟩
        exact ⟨t, us, rfl, ht, hus⟩
      · rintro ⟨_, _, heq, ht, hus⟩
        cases heq
        exact ⟨ht, hus⟩

theorem admitsAll_append_iff :
    admitsAll (ps ++ rest) ts = true ↔
      ∃ us vs, ts = us ++ vs ∧ admitsAll ps us = true ∧ admitsAll rest vs = true := by
  induction ps generalizing ts with
  | nil =>
      constructor
      · intro h
        exact ⟨[], ts, rfl, rfl, h⟩
      · rintro ⟨us, vs, rfl, hus, hvs⟩
        rw [admitsAll_nil_iff.mp hus]
        exact hvs
  | cons p ps ih =>
      simp only [List.cons_append, admitsAll_cons_iff, ih]
      constructor
      · rintro ⟨t, _, rfl, ht, us, vs, rfl, hus, hvs⟩
        exact ⟨t :: us, vs, rfl, ⟨t, us, rfl, ht, hus⟩, hvs⟩
      · rintro ⟨_, vs, rfl, ⟨t, us, rfl, ht, hus⟩, hvs⟩
        exact ⟨t, us ++ vs, rfl, ht, us, vs, rfl, hus, hvs⟩

theorem forall_of_admitsAll (h : admitsAll ps ts = true) (hps : ∀ p ∈ ps, p.Meets P) :
    ∀ t ∈ ts, P t := by
  induction ps generalizing ts with
  | nil =>
      rw [admitsAll_nil_iff.mp h]
      simp
  | cons p ps ih =>
      rcases admitsAll_cons_iff.mp h with ⟨t, us, rfl, ht, hus⟩
      rw [List.forall_mem_cons] at hps
      exact List.forall_mem_cons.mpr ⟨hps.1 t ht, ih hus hps.2⟩

end Admitted

/-!
## Lists of parts
-/

theorem forall_mem_listed {R : Piece → Prop} {pss : List (List Piece)}
    (hcomma : R (fixed .comma)) (h : ∀ ps ∈ pss, ∀ p ∈ ps, R p) : ∀ p ∈ listed pss, R p := by
  induction pss with
  | nil =>
      simp [listed]
  | cons ps pss ih =>
      rw [List.forall_mem_cons] at h
      cases pss with
      | nil =>
          exact h.1
      | cons qs pss =>
          rw [listed, List.forall_mem_append, List.forall_mem_cons]
          exact ⟨h.1, hcomma, ih h.2⟩
          simp

theorem separated_of_listed {α : Type} {Spells : α → List Token → Prop} {pieces : α → List Piece}
    {as : List α} (hne : as ≠ [])
    (hspells : ∀ a ∈ as, ∀ ts, admitsAll (pieces a) ts = true → Spells a ts) {ts : List Token}
    (h : admitsAll (listed (as.map pieces)) ts = true) :
    Separated Token.isComma Spells as ts := by
  induction as generalizing ts with
  | nil =>
      exact absurd rfl hne
  | cons a as ih =>
      rw [List.forall_mem_cons] at hspells
      cases as with
      | nil =>
          exact Separated.one (hspells.1 ts h)
      | cons b as =>
          rw [List.map_cons, List.map_cons, listed, ← List.map_cons, admitsAll_append_iff] at h
          · rcases h with ⟨us, _, rfl, hus, hrest⟩
            rcases admitsAll_cons_iff.mp hrest with ⟨sep, vs, rfl, hsep, hvs⟩
            rw [admits_fixed_iff] at hsep
            subst hsep
            exact Separated.cons (hspells.1 us hus) rfl
              (ih (List.cons_ne_nil b as) hspells.2 hvs)
          · simp

end Piece

open Piece

/-!
## Keywords
-/

section Keywords

variable {v w : String}

/-- A keyword is given in capitals; the reader asks for it in whatever case. -/
theorem isWord_of_admits {t : Token} (h : (keyword v).admits t = true)
    (hvw : Text.sameWord v.toList w.toList = true) : t.isWord w = true := by
  rw [Token.isWord_of_isWord h w, hvw]

theorem meets_keyword_isWord (h : Text.sameWord v.toList w.toList = false) :
    (keyword v).Meets fun t => t.isWord w = false := by
  intro t ht
  exact Token.isWord_eq_false_of_isWord ht h

theorem meets_keyword_wellFormed (hv : Text.isCapitals v.toList = true) :
    (keyword v).Meets Token.WellFormed := by
  intro t ht
  rcases Token.exists_of_isWord ht with ⟨s, rfl, hs⟩
  exact Text.isWordChar_of_sameWord hs hv

end Keywords

/-!
## Plain names
-/

theorem IsPlain.wellFormed {keywords : List String} {text : String} (h : IsPlain keywords text) :
    (Token.word text).WellFormed :=
  h.1

/-- What is not a keyword in capitals is not that keyword in any case. -/
theorem IsPlain.isWord_eq_false {keywords : List String} {text : String}
    (h : IsPlain keywords text) (v : String) {w : String} (hv : v ∈ keywords)
    (hvw : Text.sameWord w.toList v.toList = true) : (Token.word text).isWord w = false := by
  rw [Bool.eq_false_iff]
  intro hw
  have hnot := h.2 v hv
  rw [Token.isWord_of_isWord hw v, hvw] at hnot
  cases hnot

theorem notBlank_of_wellFormed {text : String} (h : (Token.word text).WellFormed) :
    ∀ c ∈ text.toList, Text.isBlank c = false := by
  intro c hc
  exact (Token.isWordChar_iff.mp (h.2 c hc)).1

theorem openParen_not_mem {text : String} (h : (Token.word text).WellFormed) :
    '(' ∉ text.toList := by
  intro hmem
  have hchar := h.2 '(' hmem
  revert hchar
  decide

/-!
## Fields
-/

namespace Field

theorem ofText_of_wellFormed {text : String} (h : (Token.word text).WellFormed) :
    ofText text = .column text := by
  have hcut : Text.cut? '(' text.toList = none := Text.cut?_eq_none_iff.mpr (openParen_not_mem h)
  rw [ofText, Text.trim_of_forall (notBlank_of_wellFormed h)]
  simp [call?, hcut]

theorem ofName?_of_isWord {f : Aggregate} {t : Token} (h : t.isWord f.name = true) :
    Aggregate.ofName? t.text.toList = some f := by
  have hcapitals : Text.isCapitals f.name.toList = true := by
    cases f <;> decide
  rw [Aggregate.ofName?, Token.upper_text_of_isWord h hcapitals, String.ofList_toList,
    Aggregate.ofUpperName?_name]

theorem argument?_of_wellFormed {text : String} (h : (Token.word text).WellFormed) :
    argument? text.toList = some (if text = "*" then .star else .column text) := by
  unfold argument?
  rw [Text.trim_of_forall (notBlank_of_wellFormed h)]
  split
  · rename_i hnil
    exact absurd hnil h.1
  · rename_i hstar
    have htext : text = "*" := String.toList_inj.mp hstar
    rw [if_pos htext]
  · rename_i hstar
    have htext : text ≠ "*" := by
      rintro rfl
      exact hstar rfl
    rw [if_neg htext, String.ofList_toList]

/-- The text of a call of one word is read as the call of that word. -/
theorem ofText_callText {f : Aggregate} {t : Token} (h : t.isWord f.name = true) {text : String}
    (htext : (Token.word text).WellFormed) :
    ofText (Query.callText t [.word text]) =
      .aggregate f (if text = "*" then .star else .column text) := by
  have hname : t.WellFormed := by
    refine meets_keyword_wellFormed ?_ t h
    cases f <;> decide
  have haggregate := ofName?_of_isWord h
  rcases Token.exists_of_isWord h with ⟨s, rfl, _⟩
  have hblank : ∀ c ∈ s.toList ++ '(' :: (text.toList ++ [')']), Text.isBlank c = false := by
    rw [List.forall_mem_append, List.forall_mem_cons, List.forall_mem_append,
      List.forall_mem_singleton]
    exact ⟨notBlank_of_wellFormed hname, rfl, notBlank_of_wellFormed htext, rfl⟩
  have hcut : Text.cut? '(' (s.toList ++ '(' :: (text.toList ++ [')'])) =
      some (s.toList, text.toList ++ [')']) :=
    Text.cut?_eq_some_iff.mpr ⟨rfl, openParen_not_mem hname⟩
  have hend : Text.stripEnd? [')'] (text.toList ++ [')']) = some text.toList :=
    Text.stripEnd?_append _ _
  have hcall : (Query.callText (.word s) [.word text]).toList =
      s.toList ++ '(' :: (text.toList ++ [')']) := by
    simp [Query.callText, Token.text]
  rw [ofText, hcall, Text.trim_of_forall hblank, call?, hcut]
  simp only [Option.bind_eq_bind, Option.bind_some, hend,
    Text.trim_of_forall (notBlank_of_wellFormed hname)]
  rw [show s.toList = (Token.word s).text.toList from rfl, haggregate,
    argument?_of_wellFormed htext]
  rfl

theorem spelled_word {text : String} (h : TableQuery.IsPlain ["*", "FROM"] text) :
    (Field.column text).Spelled [.word text] := by
  have hstar : (Token.word text).isWord "*" = false :=
    h.isWord_eq_false "*" (by simp) (by decide)
  have hspelled := Spelled.name (Token.noConfusion : Token.word text ≠ .comma) hstar
  rwa [Token.text, ofText_of_wellFormed h.wellFormed] at hspelled

theorem spelled_call {f : Aggregate} {t : Token} (h : t.isWord f.name = true) {text : String}
    (htext : (Token.word text).WellFormed) :
    (aggregate f (if text = "*" then .star else .column text)).Spelled
      [t, .openParen, .word text, .closeParen] := by
  have hstar : t.isWord "*" = false := by
    cases f <;> exact Token.isWord_eq_false_of_isWord h (by decide)
  have hcomma : t ≠ .comma := by
    rintro rfl
    cases h
  have hspelled := Spelled.call hcomma hstar (List.cons_ne_nil (.word text) [])
    (by simp)
  rwa [ofText_callText h htext] at hspelled

theorem spelled_of_pieces {f : Field} (hf : f.IsPlain) {ts : List Token}
    (h : admitsAll f.pieces ts = true) : f.Spelled ts := by
  cases f with
  | column text =>
      rcases admitsAll_cons_iff.mp h with ⟨t, us, rfl, ht, hus⟩
      rw [admitsAll_nil_iff.mp hus, admits_fixed_iff.mp ht]
      exact spelled_word hf
  | aggregate f argument =>
      rcases admitsAll_cons_iff.mp h with ⟨t, _, rfl, ht, h⟩
      rcases admitsAll_cons_iff.mp h with ⟨opening, _, rfl, hopening, h⟩
      rcases admitsAll_cons_iff.mp h with ⟨inside, _, rfl, hinside, h⟩
      rcases admitsAll_cons_iff.mp h with ⟨closing, us, rfl, hclosing, hus⟩
      rw [admitsAll_nil_iff.mp hus, admits_fixed_iff.mp hopening, admits_fixed_iff.mp hclosing]
      cases argument with
      | star =>
          rw [admits_fixed_iff.mp hinside]
          exact spelled_call ht (show (Token.word "*").WellFormed by decide)
      | column text =>
          have hstar : text ≠ "*" := by
            rintro rfl
            have hword : (Token.word "*").isWord "*" = false :=
              IsPlain.isWord_eq_false hf "*" (by simp) (by decide)
            cases hword
          have hspelled := spelled_call ht hf.wellFormed
          rw [if_neg hstar] at hspelled
          rw [admits_fixed_iff.mp hinside]
          exact hspelled

/-- What holds of all tokens that a field may have holds of those that stand for it. -/
theorem meets_of_mem_pieces {P : Token → Prop} (hname : ∀ f : Aggregate, (keyword f.name).Meets P)
    (hopen : P .openParen) (hclose : P .closeParen) (hstar : P (.word "*"))
    (hword : ∀ text, TableQuery.IsPlain ["*", "FROM"] text → P (.word text)) {f : Field}
    (hf : f.IsPlain) : ∀ p ∈ f.pieces, p.Meets P := by
  cases f with
  | column text =>
      simp only [pieces, List.forall_mem_singleton]
      exact meets_fixed (hword text hf)
  | aggregate f argument =>
      simp only [pieces, List.forall_mem_cons]
      refine ⟨hname f, meets_fixed hopen, ?_, meets_fixed hclose, by simp⟩
      cases argument with
      | star =>
          exact meets_fixed hstar
      | column text =>
          exact meets_fixed (hword text hf)

end Field

/-!
## Joins
-/

namespace Join

theorem mem_leads_cases {k : JoinKind} {lead : List Piece} (h : lead ∈ k.leads) :
    lead = [] ∧ k = .inner ∨ lead = [keyword k.name] ∨
      lead = [keyword k.name, keyword "OUTER"] := by
  cases k <;> simpa [JoinKind.leads] using h

theorem isCapitals_name (k : JoinKind) : Text.isCapitals k.name.toList = true := by
  cases k <;> decide

theorem kind_spelled_of_lead {k : JoinKind} {lead : List Piece} (hlead : lead ∈ k.leads)
    {ts : List Token} (h : admitsAll lead ts = true) : k.Spelled ts := by
  have hname : ∀ t : Token, t.isWord k.name = true → JoinKind.ofName? t.text = some k := by
    intro t ht
    rw [Query.ofName?_of_isWord ht (isCapitals_name k), JoinKind.ofUpperName?_name]
  rcases mem_leads_cases hlead with ⟨rfl, rfl⟩ | rfl | rfl
  · rw [admitsAll_nil_iff.mp h]
    exact JoinKind.Spelled.bare
  · rcases admitsAll_cons_iff.mp h with ⟨t, us, rfl, ht, hus⟩
    rw [admitsAll_nil_iff.mp hus]
    exact JoinKind.Spelled.named (hname t ht)
  · rcases admitsAll_cons_iff.mp h with ⟨t, _, rfl, ht, h⟩
    rcases admitsAll_cons_iff.mp h with ⟨u, us, rfl, hu, hus⟩
    rw [admitsAll_nil_iff.mp hus]
    exact JoinKind.Spelled.outer (hname t ht) (isWord_of_admits hu (by decide))

theorem spelled_of_pieces {j : Join} {lead : List Piece} (hlead : lead ∈ j.kind.leads)
    {ts : List Token} (h : admitsAll (j.pieces lead) ts = true) : j.Spelled ts := by
  rcases admitsAll_append_iff.mp h with ⟨us, _, rfl, hus, h⟩
  rcases admitsAll_cons_iff.mp h with ⟨join, _, rfl, hjoin, h⟩
  rcases admitsAll_cons_iff.mp h with ⟨table, _, rfl, htable, h⟩
  rcases admitsAll_cons_iff.mp h with ⟨on, _, rfl, hon, h⟩
  rcases admitsAll_cons_iff.mp h with ⟨left, _, rfl, hleft, h⟩
  rcases admitsAll_cons_iff.mp h with ⟨equals, _, rfl, hequals, h⟩
  rcases admitsAll_cons_iff.mp h with ⟨right, vs, rfl, hright, hvs⟩
  rw [admitsAll_nil_iff.mp hvs, admits_fixed_iff.mp htable, admits_fixed_iff.mp hleft,
    admits_fixed_iff.mp hequals, admits_fixed_iff.mp hright]
  exact Spelled.mk (.word j.table) (.word j.link.left) (.operator "=") (.word j.link.right)
    (kind_spelled_of_lead hlead hus) (isWord_of_admits hjoin (by decide))
    (isWord_of_admits hon (by decide)) rfl

end Join

/-!
## Conditions
-/

namespace Token

theorem ofLiteral_of_wellFormed {s : String} (h : (word s).WellFormed) : ofLiteral s = .word s := by
  have hhead : s.toList.head?.bind Text.Quote.ofChar? = none := by
    rcases List.exists_cons_of_ne_nil h.1 with ⟨c, rest, hs⟩
    rw [hs]
    exact (isWordChar_iff.mp (h.2 c (hs ▸ List.mem_cons_self))).2.1
  simp [ofLiteral, Text.Quote.inside?_of_head _ hhead]

theorem ofLiteral_enclose (q : Text.Quote) (inside : List Char) :
    ofLiteral (String.ofList (q.enclose inside)) = .quoted q (String.ofList inside) := by
  cases q with
  | single =>
      simp [ofLiteral]
  | double =>
      have hsingle := Text.Quote.inside?_enclose_of_ne (p := .single) (q := .double) (by decide)
      simp [ofLiteral, hsingle]

end Token

namespace Condition

/-- The literal is a token of its own, whose text it is. -/
structure LiteralToken (c : Condition) : Prop where
  text : (Token.ofLiteral c.literal).text = c.literal
  wellFormed : (Token.ofLiteral c.literal).WellFormed
  isPunctuation : (Token.ofLiteral c.literal).isPunctuation = false
  isGroup : (Token.ofLiteral c.literal).isWord "group" = false

theorem IsPlain.literalToken {c : Condition} (h : c.IsPlain) : c.LiteralToken := by
  rcases h.literal with hword | ⟨q, inside, hquoted⟩
  · have hliteral := Token.ofLiteral_of_wellFormed hword.wellFormed
    constructor
    · rw [hliteral]
      rfl
    · rw [hliteral]
      exact hword.wellFormed
    · rw [hliteral]
      rfl
    · rw [hliteral]
      exact hword.isWord_eq_false "GROUP" (by simp) (by decide)
  · have hliteral := Token.ofLiteral_enclose q inside
    rw [← hquoted] at hliteral
    constructor
    · rw [hliteral, hquoted, Token.text, String.toList_ofList]
    · rw [hliteral]
      trivial
    · rw [hliteral]
      rfl
    · rw [hliteral]
      rfl

theorem spelled_of_pieces {c : Condition} (hc : c.IsPlain) {ts : List Token}
    (h : admitsAll c.pieces ts = true) : c.Spelled ts := by
  rcases admitsAll_cons_iff.mp h with ⟨field, _, rfl, hfield, h⟩
  rcases admitsAll_cons_iff.mp h with ⟨op, _, rfl, hop, h⟩
  rcases admitsAll_cons_iff.mp h with ⟨value, us, rfl, hvalue, hus⟩
  rw [admitsAll_nil_iff.mp hus, admits_fixed_iff.mp hfield, admits_fixed_iff.mp hop,
    admits_fixed_iff.mp hvalue]
  have hspelled := Spelled.mk (.word c.field) (.operator c.op.symbol) (.ofLiteral c.literal) rfl
    (Comparison.ofSymbol?_symbol c.op) hc.literalToken.isPunctuation
  rwa [hc.literalToken.text] at hspelled

theorem separated_of_pieces {conditions : List Condition} (hne : conditions ≠ [])
    (hplain : ∀ c ∈ conditions, c.IsPlain) {word : String} {ts : List Token}
    (h : admitsAll (conditionPieces word conditions) ts = true) :
    ∃ first us, ts = first :: us ∧ (keyword word).admits first = true ∧
      Separated (Token.isWord "and") Spelled conditions us := by
  induction conditions generalizing word ts with
  | nil =>
      exact absurd rfl hne
  | cons c conditions ih =>
      rw [List.forall_mem_cons] at hplain
      rcases admitsAll_cons_iff.mp h with ⟨first, _, rfl, hfirst, h⟩
      rcases admitsAll_append_iff.mp h with ⟨us, vs, rfl, hus, hvs⟩
      refine ⟨first, us ++ vs, rfl, hfirst, ?_⟩
      have hc := spelled_of_pieces hplain.1 hus
      cases conditions with
      | nil =>
          rw [admitsAll_nil_iff.mp hvs, List.append_nil]
          exact Separated.one hc
      | cons d conditions =>
          rcases ih (List.cons_ne_nil d conditions) hplain.2 hvs with ⟨next, ws, rfl, hnext, hws⟩
          exact Separated.cons hc (isWord_of_admits hnext (by decide)) hws

theorem forall_mem_conditionPieces {R : Piece → Prop} {conditions : List Condition}
    {word : String} (hword : R (keyword word)) (hand : R (keyword "AND"))
    (h : ∀ c ∈ conditions, ∀ p ∈ c.pieces, R p) : ∀ p ∈ conditionPieces word conditions, R p := by
  induction conditions generalizing word with
  | nil =>
      simp [conditionPieces]
  | cons c conditions ih =>
      rw [List.forall_mem_cons] at h
      rw [conditionPieces, List.cons_append, List.forall_mem_cons, List.forall_mem_append]
      exact ⟨hword, h.1, ih hand h.2⟩

end Condition

/-!
## Clauses
-/

theorem joinClause_of_pieces {join : Option Join} {lead : List Piece}
    (hlead : ∀ j ∈ join, lead ∈ j.kind.leads) {ts : List Token}
    (h : admitsAll ((join.map (Join.pieces lead)).getD []) ts = true) : JoinClause join ts := by
  cases join with
  | none =>
      rw [admitsAll_nil_iff.mp h]
      exact JoinClause.none
  | some j =>
      exact JoinClause.some (Join.spelled_of_pieces (hlead j rfl) h)

theorem conditionClause_of_pieces {conditions : List Condition}
    (hplain : ∀ c ∈ conditions, c.IsPlain) {ts : List Token}
    (h : admitsAll (conditionPieces "WHERE" conditions) ts = true) :
    ConditionClause conditions ts := by
  by_cases hne : conditions = []
  · subst hne
    rw [admitsAll_nil_iff.mp h]
    exact ConditionClause.none
  · have hgroup : ∀ p ∈ conditionPieces "WHERE" conditions,
        p.Meets fun t => t.isWord "group" = false := by
      apply Condition.forall_mem_conditionPieces
      · exact meets_keyword_isWord (by decide)
      · exact meets_keyword_isWord (by decide)
      · intro c hc
        have hfield := (hplain c hc).field.isWord_eq_false "GROUP" (by simp)
          (show Text.sameWord "group".toList "GROUP".toList = true by decide)
        have hliteral := (hplain c hc).literalToken.isGroup
        simp only [Condition.pieces, List.forall_mem_cons]
        exact ⟨meets_fixed hfield, meets_fixed rfl, meets_fixed hliteral, by simp⟩
    have hnone := forall_of_admitsAll h hgroup
    rcases Condition.separated_of_pieces hne hplain h with ⟨first, us, rfl, hfirst, hus⟩
    exact ConditionClause.some (isWord_of_admits hfirst (by decide)) hus
      (List.forall_mem_cons.mp hnone).2

theorem groupClause_of_pieces {groupBy : Option (List String)} (hne : groupBy ≠ some [])
    {ts : List Token} (h : admitsAll (groupPieces groupBy) ts = true) :
    GroupClause groupBy ts := by
  cases groupBy with
  | none =>
      rw [admitsAll_nil_iff.mp h]
      exact GroupClause.none
  | some names =>
      rcases admitsAll_cons_iff.mp h with ⟨first, _, rfl, hfirst, h⟩
      rcases admitsAll_cons_iff.mp h with ⟨second, us, rfl, hsecond, hus⟩
      refine GroupClause.some (isWord_of_admits hfirst (by decide))
        (isWord_of_admits hsecond (by decide)) (separated_of_listed ?_ ?_ hus)
      · rintro rfl
        exact hne rfl
      · intro text _ vs hvs
        rcases admitsAll_cons_iff.mp hvs with ⟨t, ws, rfl, ht, hws⟩
        rw [admitsAll_nil_iff.mp hws, admits_fixed_iff.mp ht]
        exact GroupName.mk (.word text) rfl

/-!
## The whole query
-/

namespace Query

variable {q : Query} {lead : List Piece} {ts : List Token}

theorem spelled_of_pieces (hq : q.IsPlain) (hlead : ∀ j ∈ q.join, lead ∈ j.kind.leads)
    (h : admitsAll (q.pieces lead) ts = true) : q.Spelled ts := by
  rcases admitsAll_cons_iff.mp h with ⟨selectWord, _, rfl, hselect, h⟩
  rcases admitsAll_append_iff.mp h with ⟨fields, _, rfl, hfields, h⟩
  rcases admitsAll_cons_iff.mp h with ⟨fromWord, _, rfl, hfrom, h⟩
  rcases admitsAll_cons_iff.mp h with ⟨table, _, rfl, htable, h⟩
  rcases admitsAll_append_iff.mp h with ⟨clauses, groups, rfl, h, hgroups⟩
  rcases admitsAll_append_iff.mp h with ⟨joins, conditions, rfl, hjoins, hconditions⟩
  have hnone : ∀ p ∈ listed (q.fields.map Field.pieces),
      p.Meets fun t => t.isWord "from" = false := by
    apply forall_mem_listed
    · exact meets_fixed rfl
    · rw [List.forall_mem_map]
      intro f hf
      refine Field.meets_of_mem_pieces (P := fun t => t.isWord "from" = false) ?_ rfl rfl
        (by decide) ?_ (hq.fields f hf)
      · intro f
        cases f <;> exact meets_keyword_isWord (by decide)
      · intro text htext
        exact htext.isWord_eq_false "FROM" (by simp) (by decide)
  rw [admits_fixed_iff.mp htable]
  refine Spelled.mk (isWord_of_admits hselect (by decide)) (separated_of_listed hq.fields_ne_nil
    (fun f hf us hus => Field.spelled_of_pieces (hq.fields f hf) hus) hfields)
    (forall_of_admitsAll hfields hnone) (isWord_of_admits hfrom (by decide)) ?_ rfl
    (Clauses.mk (joinClause_of_pieces hlead hjoins)
      (conditionClause_of_pieces hq.conditions hconditions)
      (groupClause_of_pieces hq.groupBy_ne_nil hgroups))
  have hclause : ∀ v ∈ ["WHERE", "GROUP", "JOIN", "ON"], ∀ w : String,
      Text.sameWord w.toList v.toList = true → (Token.word q.table).isWord w = false :=
    fun v hv w hvw => hq.table.isWord_eq_false v hv hvw
  simp [isClauseWord, hclause "WHERE" (by simp) "where" (by decide),
    hclause "GROUP" (by simp) "group" (by decide), hclause "JOIN" (by simp) "join" (by decide),
    hclause "ON" (by simp) "on" (by decide)]

theorem meets_wellFormed_of_mem_pieces (hq : q.IsPlain)
    (hlead : ∀ j ∈ q.join, lead ∈ j.kind.leads) :
    ∀ p ∈ q.pieces lead, p.Meets Token.WellFormed := by
  have hkeyword : ∀ v : String, Text.isCapitals v.toList = true →
      (keyword v).Meets Token.WellFormed := fun _ => meets_keyword_wellFormed
  simp only [pieces, List.forall_mem_cons, List.forall_mem_append]
  refine ⟨hkeyword "SELECT" (by decide), ?_, hkeyword "FROM" (by decide),
    meets_fixed hq.table.wellFormed, ⟨?_, ?_⟩, ?_⟩
  · apply forall_mem_listed
    · exact meets_fixed trivial
    · rw [List.forall_mem_map]
      intro f hf
      refine Field.meets_of_mem_pieces ?_ trivial trivial (by decide)
        (fun text htext => htext.wellFormed) (hq.fields f hf)
      intro f
      cases f <;> exact hkeyword _ (by decide)
  · cases hjoin : q.join with
    | none =>
        simp
    | some j =>
        have hj := hq.join j hjoin
        have hname : (keyword j.kind.name).Meets Token.WellFormed :=
          hkeyword _ (Join.isCapitals_name j.kind)
        have houter := hkeyword "OUTER" (by decide)
        have hleads : ∀ p ∈ lead, p.Meets Token.WellFormed := by
          rcases Join.mem_leads_cases (hlead j hjoin) with ⟨rfl, _⟩ | rfl | rfl
          · simp
          · simpa using hname
          · simpa using ⟨hname, houter⟩
        simp only [Option.map_some, Option.getD_some, Join.pieces, List.forall_mem_append,
          List.forall_mem_cons]
        exact ⟨hleads, hkeyword "JOIN" (by decide), meets_fixed hj.table.wellFormed,
          hkeyword "ON" (by decide), meets_fixed hj.left.wellFormed,
          meets_fixed (by decide), meets_fixed hj.right.wellFormed, by simp⟩
  · apply Condition.forall_mem_conditionPieces
    · exact hkeyword "WHERE" (by decide)
    · exact hkeyword "AND" (by decide)
    · intro c hc
      have hplain := hq.conditions c hc
      have hop : (Token.operator c.op.symbol).WellFormed := by
        cases c.op <;> decide
      simp only [Condition.pieces, List.forall_mem_cons]
      exact ⟨meets_fixed hplain.field.wellFormed, meets_fixed hop,
        meets_fixed hplain.literalToken.wellFormed, by simp⟩
  · cases hgroupBy : q.groupBy with
    | none =>
        simp [groupPieces]
    | some names =>
        simp only [groupPieces, List.forall_mem_cons]
        refine ⟨hkeyword "GROUP" (by decide), hkeyword "BY" (by decide), ?_⟩
        apply forall_mem_listed
        · exact meets_fixed trivial
        · rw [List.forall_mem_map]
          intro text htext
          simp only [List.forall_mem_singleton]
          exact meets_fixed (hq.groupBy names hgroupBy text htext).wellFormed

end Query

/-- A query with plain names is read back from every text that it may be written as. -/
theorem parse_of_isWritten {q : Query} (hq : q.IsPlain) {text : List Char} (h : q.IsWritten text) :
    Query.parse (String.ofList text) = .ok q := by
  rcases h with ⟨lead, tokens, body, gap, hlead, htokens, hlaid, hgap, rfl⟩
  have hwellFormed := forall_of_admitsAll htokens (Query.meets_wellFormed_of_mem_pieces hq hlead)
  have hscan := Token.scan_append_gap (Token.scan_of_laid hlaid hwellFormed) hgap
  rw [Query.parse_append_semicolon hscan, Query.ofTokens_eq_ok_iff]
  exact Query.spelled_of_pieces hq hlead htokens

/-!
## A written query

The literal holds a keyword, a comma, parentheses, a semicolon and both quotes.
-/

namespace Roster

def query : Query :=
  { fields := [.column "name", .aggregate .sum (.column "points"), .aggregate .count .star]
    table := "staff"
    conditions := [⟨"title", .notEqual, "'GROUP, (\"it's\");'"⟩, ⟨"points", .atLeast, "1.5"⟩]
    join := some { kind := .left, table := "teams", link := ⟨"staff.team", "teams.id"⟩ }
    groupBy := some ["name", "team"] }

def tokens : List Token :=
  [.word "Select", .word "name", .comma, .word "sum", .openParen, .word "points", .closeParen,
    .comma, .word "COUNT", .openParen, .word "*", .closeParen, .word "from", .word "staff",
    .word "left", .word "outer", .word "join", .word "teams", .word "on", .word "staff.team",
    .operator "=", .word "teams.id", .word "where", .word "title", .operator "!=",
    .quoted .single "GROUP, (\"it's\");", .word "and", .word "points", .operator ">=",
    .word "1.5", .word "group", .word "By", .word "name", .comma, .word "team"]

def text : List Char :=
  Token.spaced tokens ++ ['\n'] ++ [';']

theorem isPlain_query : query.IsPlain where
  fields_ne_nil := by decide
  fields := by
    simp only [query, List.forall_mem_cons]
    exact ⟨show IsPlain _ _ by decide, show IsPlain _ _ by decide, trivial, by simp⟩
  table := by decide
  join := by
    rintro j ⟨⟩
    exact ⟨by decide, by decide, by decide⟩
  conditions := by
    simp only [query, List.forall_mem_cons]
    exact ⟨⟨by decide, Or.inr ⟨.single, "GROUP, (\"it's\");".toList, by decide⟩⟩,
      ⟨by decide, Or.inl (by decide)⟩, by simp⟩
  groupBy_ne_nil := by decide
  groupBy := by
    rintro names ⟨⟩
    simp only [List.forall_mem_cons]
    exact ⟨by decide, by decide, by simp⟩

theorem isWritten_query : query.IsWritten text :=
  ⟨[keyword "LEFT", keyword "OUTER"], tokens, Token.spaced tokens, ['\n'], by
    rintro j ⟨⟩
    decide, by decide, Token.laid_spaced tokens, List.forall_mem_singleton.mpr rfl, rfl⟩

end Roster

theorem parse_of_isWritten_roster :
    Roster.query.IsPlain ∧ Roster.query.IsWritten Roster.text ∧
      Query.parse (String.ofList Roster.text) = .ok Roster.query :=
  ⟨Roster.isPlain_query, Roster.isWritten_query,
    parse_of_isWritten Roster.isPlain_query Roster.isWritten_query⟩

end TableQuery
