import TableQuery.Proofs.Cell.Literals
import TableQuery.Proofs.Execution.Loading
import TableQuery.Proofs.Query.Continuation
import TableQuery.Proofs.Query.Ends

/-!
# Quoted literals

A literal in quotes stands for the text between its quotes, whatever that holds: quotes and
backslashes are escaped in the query, and what is read back is compared without the quotes
around it.  A word without quotes is compared as the same, so that it asks for the same rows.
Two words have to be quoted: the word that begins the groups is no literal, and a word at the
end of the text loses a semicolon that it ends in.
-/

namespace TableQuery

/-!
## What quoted texts are compared as
-/

namespace Cell

/-- What a text is compared as between quotes: the finite number that it is written for, or else
the text unchanged. -/
inductive OfText (s : String) : Cell → Prop where
  | number {x : Float} : Decimal.IsNumeral s.toList x → OfText s (number x)
  | text : (∀ x, ¬Decimal.IsNumeral s.toList x) → OfText s (text s)

theorem ofText_ofLiteral {literal s : String} (h : Text.stripQuotes literal.toList = s.toList) :
    OfText s (ofLiteral literal) := by
  by_cases hnumeral : ∃ x, Decimal.IsNumeral s.toList x
  · rcases hnumeral with ⟨x, hx⟩
    have hnumber : ofLiteral literal = .number x := ofLiteral_eq_number_iff.mpr (h ▸ hx)
    rw [hnumber]
    exact OfText.number hx
  · have hnone := not_exists.mp hnumeral
    rw [ofLiteral_of_not_isNumeral (h ▸ hnone), h, String.ofList_toList]
    exact OfText.text hnone

theorem stripQuotes_quoted (q : Text.Quote) (s : String) :
    Text.stripQuotes (Token.quoted q s).text.toList = s.toList := by
  rw [Token.text, String.toList_ofList, Text.stripQuotes_enclose]

theorem ofLiteral_quoted {s : String} (h : ¬Text.IsEnclosed s.toList) (q : Text.Quote) :
    ofLiteral (Token.quoted q s).text = ofLiteral s := by
  rw [ofLiteral, ofLiteral, stripQuotes_quoted, Text.stripQuotes_of_not_isEnclosed h]

end Cell

namespace Query

/-!
## Queries with a literal
-/

/-- A text up to a literal: a query without groups, the word in front of its next condition, and
of that condition the field and the operator. -/
structure Awaits (pre : List Char) (d : Query) (field : Token) (op : Comparison) : Prop where
  isQuery : ∃ ts keyword, Token.scan pre = .ok (ts ++ [keyword, field, .operator op.symbol]) ∧
    d.Opens ts keyword
  isPunctuation : field.isPunctuation = false
  isGroup : field.isWord "group" = false

/-- The further conditions and the groups that a text behind a literal holds, up to the end of
the whole text. -/
def readAfter (post : List Char) : Except QueryFault (List Condition × Option (List String)) :=
  match Token.scan (strip post) with
  | .error fault => .error (.token fault)
  | .ok tokens => readUpToGroups readFurther tokens

theorem readAfter_of_strip {post : List Char} (h : strip post = []) :
    readAfter post = .ok ([], none) := by
  rw [readAfter, h, Token.scan_nil]
  rfl

theorem strip_semicolon {gap : List Char} (h : ∀ c ∈ gap, Text.isBlank c = true) :
    strip (';' :: gap) = [] := by
  have htrim : Text.trim (';' :: gap) = [';'] :=
    Text.trim_append_cons Token.isBlank_semicolon h []
  rw [strip, htrim]
  rfl

theorem Awaits.continued_nil {pre : List Char} {d : Query} {field : Token} {op : Comparison}
    (h : Awaits pre d field op) (conditions : List Condition) :
    d.continued (conditions, none) = { d with conditions := d.conditions ++ conditions } := by
  rcases h.isQuery with ⟨_, _, _, hopens⟩
  rw [continued, hopens.groupBy]

section Literal

variable {pre post : List Char} {d : Query} {field t : Token} {op : Comparison}

theorem Awaits.parse_between (h : Awaits pre d field op) (ht : t.IsLiteral)
    (hpost : Token.FollowsLiteral post) (hend : ¬t.LosesEnd post) :
    parse (Token.between pre t post) = match Token.scan (strip post) with
      | .error fault => .error (.token fault)
      | .ok us =>
          (readUpToGroups readConditions (field :: .operator op.symbol :: t :: us)).map
            d.continued := by
  rcases h.isQuery with ⟨ts, keyword, hscan, hopens⟩
  rcases exists_rest_of_followsLiteral hpost with ⟨rest, hrest, hscanPost, hscanText⟩
  have hlast : (ts ++ [keyword, field, .operator op.symbol]).getLast? =
      some (.operator op.symbol) := by
    rw [List.getLast?_append]
    rfl
  rw [parse, Token.between, String.toList_ofList, hscanText ht hend, hscanPost,
    Token.scan_literal hscan hlast ht hrest]
  cases Token.scan rest with
  | error fault =>
      rfl
  | ok us =>
      have hne : (field :: .operator op.symbol :: t :: us).takeWhile isBeforeGroups ≠ [] := by
        simp [isBeforeGroups_iff, h.isGroup]
      refine Eq.trans ?_ (hopens.ofTokens_lead hne)
      simp [Except.map]

/-- A literal is read into the condition as it stands, and what is behind it is read alone. -/
theorem Awaits.parse_literal (h : Awaits pre d field op) (ht : t.IsLiteral)
    (hgroup : t.isWord "group" = false) (hpost : Token.FollowsLiteral post)
    (hend : ¬t.LosesEnd post) :
    parse (Token.between pre t post) = (readAfter post).map fun behind =>
      d.continued (⟨field.text, op, t.text⟩ :: behind.1, behind.2) := by
  have hspelled : Condition.Spelled ⟨field.text, op, t.text⟩ [field, .operator op.symbol, t] :=
    Condition.Spelled.mk field (.operator op.symbol) t h.isPunctuation
      (Comparison.ofSymbol?_symbol op) ht.isPunctuation
  have hbefore : ∀ u ∈ [field, .operator op.symbol, t], isBeforeGroups u = true := by
    simp only [isBeforeGroups_iff, List.forall_mem_cons]
    exact ⟨h.isGroup, rfl, hgroup, by simp⟩
  rw [h.parse_between ht hpost hend, readAfter]
  cases Token.scan (strip post) with
  | error fault =>
      rfl
  | ok us =>
      have hread := readUpToGroups_condition hspelled hbefore us
      simp only [List.cons_append, List.nil_append] at hread
      simp only [hread]
      cases readUpToGroups readFurther us <;> rfl

theorem Awaits.parse_group (h : Awaits pre d field op) (ht : t.IsLiteral)
    (hgroup : t.isWord "group" = true) (hpost : Token.FollowsLiteral post)
    (hend : ¬t.LosesEnd post) : ∃ fault, parse (Token.between pre t post) = .error fault := by
  rw [h.parse_between ht hpost hend]
  cases Token.scan (strip post) with
  | error fault =>
      exact ⟨_, rfl⟩
  | ok us =>
      have hnone : (t :: us).takeWhile isBeforeGroups = [] := by
        simp [isBeforeGroups, hgroup]
      have hread := readUpToGroups_noLiteral (isBeforeGroups_iff.mpr h.isGroup)
        (show isBeforeGroups (.operator op.symbol) = true from rfl) hnone
      simp only [hread]
      exact ⟨_, rfl⟩

/-- A semicolon alone is the one that the text ends in. -/
theorem Awaits.parse_semicolon (h : Awaits pre d field op)
    (hpost : ∀ c ∈ post, Text.isBlank c = true) :
    parse (Token.between pre (.word ";") post) = .error .conditionUsage := by
  rcases h.isQuery with ⟨ts, keyword, hscan, hopens⟩
  have hne : [field, .operator op.symbol].takeWhile isBeforeGroups ≠ [] := by
    simp [isBeforeGroups_iff, h.isGroup]
  have hread := readUpToGroups_noLiteral (isBeforeGroups_iff.mpr h.isGroup)
    (show isBeforeGroups (.operator op.symbol) = true from rfl)
    (show ([] : List Token).takeWhile isBeforeGroups = [] from rfl)
  have hstrip := scan_strip_append_cons Token.isBlank_semicolon hpost pre
  have htext : (Token.between pre (.word ";") post).toList = pre ++ ';' :: post := by
    rw [Token.between, String.toList_ofList, List.append_assoc]
    rfl
  rw [parse, htext, hstrip, if_pos rfl, hscan]
  simp only [hopens.ofTokens_lead hne, hread]
  rfl

end Literal

/-!
## Rows that a query asks for
-/

/-- Of its conditions a query only knows which rows meet them. -/
theorem run_congr_conditions {d : Query} {conditions others : List Condition}
    (h : ∀ row, meetsAll conditions row = meetsAll others row) (source : Source) :
    run { d with conditions := conditions } source = run { d with conditions := others } source := by
  have hchoose : chooseRows conditions = chooseRows others := by
    funext rows
    rw [chooseRows, chooseRows, funext h]
  simp only [run, hchoose]
  rfl

/-- Conditions that hold of the same rows are exchanged without a change of the answer. -/
theorem run_continued_congr {c c' : Condition} (h : ∀ row, c.holds row = c'.holds row) (d : Query)
    (conditions : List Condition) (groupBy : Option (List String)) (source : Source) :
    (d.continued (c :: conditions, groupBy)).run source =
      (d.continued (c' :: conditions, groupBy)).run source := by
  have hmeets : ∀ row, meetsAll (d.conditions ++ c :: conditions) row =
      meetsAll (d.conditions ++ c' :: conditions) row := by
    intro row
    simp [meetsAll, h]
  exact run_congr_conditions (d := { d with groupBy := groupBy }) hmeets source

theorem answer_continued_congr {d : Query} {c c' : Condition}
    (h : ∀ row, c.holds row = c'.holds row)
    {read : Except QueryFault (List Condition × Option (List String))} {text text' : String}
    (htext : parse text = read.map fun behind => d.continued (c :: behind.1, behind.2))
    (htext' : parse text' = read.map fun behind => d.continued (c' :: behind.1, behind.2))
    (source : Source) : answer source text = answer source text' := by
  cases read with
  | error fault =>
      rw [answer_of_parse_error htext, answer_of_parse_error htext']
  | ok behind =>
      rw [answer_of_parse_ok htext, answer_of_parse_ok htext', run_continued_congr h]
      rfl

/-!
## Literals with quotes and without
-/

theorem holds_quoted {s : String} (h : ¬Text.IsEnclosed s.toList) (q : Text.Quote)
    (field : String) (op : Comparison) (row : Row) :
    Condition.holds ⟨field, op, (Token.quoted q s).text⟩ row =
      Condition.holds ⟨field, op, s⟩ row := by
  rw [Condition.holds, Condition.holds, Cell.ofLiteral_quoted h]

theorem not_isEnclosed_of_wellFormed {s : String} (h : (Token.word s).WellFormed) :
    ¬Text.IsEnclosed s.toList := by
  intro henclosed
  rcases henclosed with ⟨q, inside, hs⟩
  have hquote : q.char ∈ s.toList := by
    rw [hs]
    exact List.mem_cons_self
  have hword := (Token.isWordChar_iff.mp (h.2 q.char hquote)).2.1
  rw [Text.Quote.ofChar?_char] at hword
  cases hword

section Bare

variable {pre post : List Char} {d : Query} {field : Token} {op : Comparison} {s : String}

theorem Awaits.answer_word (h : Awaits pre d field op) (hword : (Token.word s).WellFormed)
    (hgroup : (Token.word s).isWord "group" = false) (hpost : Token.FollowsLiteral post)
    (hend : ¬(Token.word s).LosesEnd post) (q : Text.Quote) (source : Source) :
    answer source (Token.between pre (.word s) post) =
      answer source (Token.between pre (.quoted q s) post) := by
  have hbare := h.parse_literal (Token.IsLiteral.word hword) hgroup hpost hend
  have hquoted := h.parse_literal (Token.IsLiteral.quoted q s) rfl hpost
    (Token.not_losesEnd_quoted q s post)
  refine answer_continued_congr ?_ hbare hquoted source
  intro row
  exact (holds_quoted (not_isEnclosed_of_wellFormed hword) q _ _ _).symm

theorem Awaits.parse_losesEnd (h : Awaits pre d field op)
    (hpost : ∀ c ∈ post, Text.isBlank c = true) {w : String}
    (hword : w ≠ "" → (Token.word w).WellFormed)
    (hno : w = "" ∨ (Token.word w).isWord "group" = true) :
    ∃ fault, parse (Token.between pre (.word (w ++ ";")) post) = .error fault := by
  by_cases hempty : w = ""
  · rw [hempty]
    exact ⟨_, h.parse_semicolon hpost⟩
  · rw [Token.between_semicolon]
    exact h.parse_group (Token.IsLiteral.word (hword hempty)) (hno.resolve_left hempty)
      (Token.FollowsLiteral.semicolon hpost) (Token.not_losesEnd_semicolon _ _)

/-- A word that loses its end asks for the same rows as what is left of it in quotes. -/
theorem Awaits.answer_losesEnd (h : Awaits pre d field op)
    (hpost : ∀ c ∈ post, Text.isBlank c = true) {w : String} (hword : (Token.word w).WellFormed)
    (hgroup : (Token.word w).isWord "group" = false) (q : Text.Quote) (source : Source) :
    answer source (Token.between pre (.word (w ++ ";")) post) =
      answer source (Token.between pre (.quoted q w) post) := by
  have hsemicolon := Token.FollowsLiteral.semicolon hpost
  have hblank := Token.FollowsLiteral.startsBlank (Token.startsBlank_of_blanks hpost)
  have hquoted := Token.IsLiteral.quoted q w
  have hsame : parse (Token.between pre (.quoted q w) (';' :: post)) =
      parse (Token.between pre (.quoted q w) post) := by
    rw [h.parse_literal hquoted rfl hsemicolon (Token.not_losesEnd_quoted q w _),
      h.parse_literal hquoted rfl hblank (Token.not_losesEnd_quoted q w _),
      readAfter_of_strip (strip_semicolon hpost), readAfter_of_strip (strip_blanks hpost)]
  rw [Token.between_semicolon,
    h.answer_word hword hgroup hsemicolon (Token.not_losesEnd_semicolon _ _) q,
    answer, answer, parseQuery, parseQuery, hsame]

end Bare

/-- A text in quotes is compared as itself, or as the number that it is written for; if it
stands in no quotes of its own, it is compared as the literal without quotes is.  The condition
has the text in quotes as its literal, whatever stands in front and behind.  A word without
quotes asks for the same rows, but the word that begins the groups, in any case, is refused, and
a semicolon that the whole text ends in is no part of a word: what is left of the word asks for
the rows that it asks for in quotes, or is refused. -/
theorem literal_quoted (q : Text.Quote) (s : String) :
    Cell.OfText s (Cell.ofLiteral (Token.quoted q s).text) ∧
    (¬Text.IsEnclosed s.toList →
      Cell.ofLiteral (Token.quoted q s).text = Cell.ofLiteral s ∧
      ∀ field op row, Condition.holds ⟨field, op, (Token.quoted q s).text⟩ row =
        Condition.holds ⟨field, op, s⟩ row) ∧
    ∀ pre d field op post, Awaits pre d field op → Token.FollowsLiteral post →
      (parse (Token.between pre (.quoted q s) post) = (readAfter post).map fun behind =>
        d.continued (⟨field.text, op, (Token.quoted q s).text⟩ :: behind.1, behind.2)) ∧
      (strip post = [] → parse (Token.between pre (.quoted q s) post) =
        .ok { d with conditions := d.conditions ++ [⟨field.text, op, (Token.quoted q s).text⟩] }) ∧
      ((Token.word s).WellFormed →
        (¬(Token.word s).LosesEnd post →
          ((Token.word s).isWord "group" = false → ∀ source,
            answer source (Token.between pre (.word s) post) =
              answer source (Token.between pre (.quoted q s) post)) ∧
          ((Token.word s).isWord "group" = true →
            ∃ fault, parse (Token.between pre (.word s) post) = .error fault)) ∧
        ((Token.word s).LosesEnd post → ∃ w : String, s = w ++ ";" ∧
          (w ≠ "" → (Token.word w).isWord "group" = false → ∀ source,
            answer source (Token.between pre (.word s) post) =
              answer source (Token.between pre (.quoted q w) post)) ∧
          (w = "" ∨ (Token.word w).isWord "group" = true →
            ∃ fault, parse (Token.between pre (.word s) post) = .error fault))) := by
  refine ⟨Cell.ofText_ofLiteral (Cell.stripQuotes_quoted q s), ?_, ?_⟩
  · intro henclosed
    exact ⟨Cell.ofLiteral_quoted henclosed q, holds_quoted henclosed q⟩
  · intro pre d field op post hawaits hpost
    have hparse := hawaits.parse_literal (Token.IsLiteral.quoted q s) rfl hpost
      (Token.not_losesEnd_quoted q s post)
    refine ⟨hparse, ?_, ?_⟩
    · intro hnothing
      rw [hparse, readAfter_of_strip hnothing]
      exact congrArg Except.ok (hawaits.continued_nil _)
    · intro hword
      constructor
      · intro hend
        constructor
        · intro hgroup
          exact hawaits.answer_word hword hgroup hpost hend q
        · intro hgroup
          exact hawaits.parse_group (Token.IsLiteral.word hword) hgroup hpost hend
      · intro hend
        rcases Token.exists_word_of_losesEnd hword hend with ⟨w, rfl, hleft⟩
        refine ⟨w, rfl, ?_, ?_⟩
        · intro hne hgroup
          exact hawaits.answer_losesEnd hend.2 (hleft hne) hgroup q
        · exact hawaits.parse_losesEnd hend.2 hleft

/-- A word in quotes and without, the word that has to be quoted, and words at the end of the
text. -/
theorem literal_quoted_words :
    let pre := "SELECT v FROM t WHERE k = 1 AND v >".toList
    let d : Query := { fields := [.column "v"], table := "t", join := none, groupBy := none
                       conditions := [⟨"k", .equal, "1"⟩] }
    let post := " GROUP BY v;".toList
    Awaits pre d (.word "v") .greater ∧ Token.FollowsLiteral post ∧
      ¬Text.IsEnclosed "1e1".toList ∧ (Token.word "1e1").WellFormed ∧
      (Token.word "1e1").isWord "group" = false ∧ (Token.word "Group").isWord "group" = true ∧
      (Token.word "1e1;").LosesEnd [] ∧
      Cell.ofLiteral (Token.quoted .single "1e1").text = Cell.ofLiteral "1e1" ∧
      parse "SELECT v FROM t WHERE k = 1 AND v >'1e1';" =
        .ok { d with conditions := d.conditions ++ [⟨"v", .greater, "'1e1'"⟩] } ∧
      (∀ source, answer source "SELECT v FROM t WHERE k = 1 AND v >1e1 GROUP BY v;" =
        answer source "SELECT v FROM t WHERE k = 1 AND v >'1e1' GROUP BY v;") ∧
      (∃ fault, parse "SELECT v FROM t WHERE k = 1 AND v >Group GROUP BY v;" = .error fault) ∧
      (∀ source, answer source "SELECT v FROM t WHERE k = 1 AND v >1e1;" =
        answer source "SELECT v FROM t WHERE k = 1 AND v >'1e1'") ∧
      ∃ fault, parse "SELECT v FROM t WHERE k = 1 AND v >;" = .error fault := by
  intro pre d post
  have hawaits : Awaits pre d (.word "v") .greater := by
    refine ⟨⟨[.word "SELECT", .word "v", .word "FROM", .word "t", .word "WHERE", .word "k",
      .operator "=", .word "1"], .word "AND", by decide +kernel, ?_⟩, rfl, by decide⟩
    exact ⟨by decide +kernel, rfl, by decide⟩
  have hpost : Token.FollowsLiteral post := Token.followsLiteral_cons rfl _
  have hnothing : Token.FollowsLiteral [] :=
    Token.FollowsLiteral.startsBlank (Token.startsBlank_of_blanks (by simp))
  have hsemicolon : Token.FollowsLiteral [';'] :=
    Token.FollowsLiteral.semicolon (by simp)
  have hword : (Token.word "1e1").WellFormed := by decide
  have hgroupWord : (Token.word "Group").WellFormed := by decide
  have hfree := not_isEnclosed_of_wellFormed hword
  have hnot : (Token.word "1e1").isWord "group" = false := by decide
  have hgroup : (Token.word "Group").isWord "group" = true := by decide
  have hkeeps : ∀ {s : String}, s.toList.getLast? ≠ some ';' → ¬(Token.word s).LosesEnd post :=
    fun hlast hend => hlast hend.1
  have hloses : ∀ {s : String}, s.toList.getLast? = some ';' → (Token.word s).LosesEnd [] :=
    fun hlast => ⟨hlast, by simp⟩
  rcases literal_quoted .single "1e1" with ⟨_, hvalue, hread⟩
  rcases literal_quoted .single "Group" with ⟨_, _, hreadGroup⟩
  rcases literal_quoted .single "1e1;" with ⟨_, _, hreadEnd⟩
  rcases literal_quoted .single ";" with ⟨_, _, hreadAlone⟩
  have hparse := (hread pre d _ _ [';'] hawaits hsemicolon).2.1 (by decide)
  have hsame := ((hread pre d _ _ post hawaits hpost).2.2 hword).1 (hkeeps (by decide))
  have hrefused :=
    ((hreadGroup pre d _ _ post hawaits hpost).2.2 hgroupWord).1 (hkeeps (by decide))
  rcases ((hreadEnd pre d _ _ [] hawaits hnothing).2.2 (by decide)).2 (hloses (by decide)) with
    ⟨w, hw, hleft, _⟩
  rcases ((hreadAlone pre d _ _ [] hawaits hnothing).2.2 (by decide)).2 (hloses (by decide)) with
    ⟨v, hv, _, halone⟩
  have hwleft : w = "1e1" := (String.append_left_inj ";").mp hw.symm
  have hvleft : v = "" := (String.append_left_inj ";").mp hv.symm
  subst hwleft
  exact ⟨hawaits, hpost, hfree, hword, hnot, hgroup, hloses (by decide), (hvalue hfree).1, hparse,
    hsame.1 hnot, hrefused.2 hgroup, hleft (by decide) hnot, halone (Or.inl hvleft)⟩

/-- Only with quotes the word that begins the groups is looked for, and a semicolon at the end. -/
theorem answer_bare_words :
    let source : Source := fun _ =>
      .ok { name := "t", columns := ["v"]
            rows := [Row.ofList [("v", .text "group")], Row.ofList [("v", .text "a")],
              Row.ofList [("v", .text "a;")], Row.ofList [("v", .text ";")]] }
    parse "SELECT v FROM t WHERE v = group" = .error .conditionUsage ∧
      (answer source "SELECT v FROM t WHERE v = group").toOption.map ResultTable.text = none ∧
      (answer source "SELECT v FROM t WHERE v = 'group'").toOption.map ResultTable.text =
        some "v\ngroup" ∧
      (answer source "SELECT v FROM t WHERE v = a;").toOption.map ResultTable.text =
        some "v\na" ∧
      (answer source "SELECT v FROM t WHERE v = 'a;'").toOption.map ResultTable.text =
        some "v\na;" ∧
      parse "SELECT v FROM t WHERE v = ;" = .error .conditionUsage ∧
      (answer source "SELECT v FROM t WHERE v = ';'").toOption.map ResultTable.text =
        some "v\n;" := by
  intro source
  exact ⟨by decide +kernel, by decide +kernel, by decide +kernel, by decide +kernel,
    by decide +kernel, by decide +kernel, by decide +kernel⟩

end Query
end TableQuery
