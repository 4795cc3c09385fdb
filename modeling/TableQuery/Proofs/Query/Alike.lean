import TableQuery.Proofs.Query.Apart
import TableQuery.Proofs.Query.Literal
import TableQuery.Proofs.Query.Spelling
import TableQuery.Proofs.Text.Pieces

/-!
# Readings of tokens that are apart in one literal

Every reader either takes the literal, as a name or a part of one, or leaves it to the next
reader.  Which of the two happens, and whether reading fails, does not depend on what the
literal holds.
-/

namespace TableQuery

variable {q : Text.Quote} {s s' : String}

/-!
## Fields
-/

/-- A literal behind the parenthesis of a call is part of its argument, or of a column's name. -/
theorem Field.ofText_apart {before after : List Char} {a b : String} (hbefore : '(' ∈ before)
    (h : TextApart q s s' before (after ++ [')']) a b) : (ofText a).Apart q s s' (ofText b) := by
  have hleft : '(' ∈ Text.trimLeft before := Text.mem_trimLeft (by decide) hbefore
  rcases List.eq_append_cons_of_mem hleft with ⟨name, argument, hleft, hname⟩
  have htrim : ∀ inside : List Char, Text.trim (before ++ q.enclose inside ++ (after ++ [')'])) =
      name ++ '(' :: argument ++ q.enclose inside ++ (after ++ [')']) := by
    intro inside
    rw [Text.trim_enclose, hleft, Text.trimRight_append_cons (by decide)]
    rfl
  cases h
  simp only [ofText, String.toList_ofList, htrim, call?_enclose hname]
  cases Aggregate.ofName? (Text.trim name) with
  | none =>
      exact Apart.call (by simp) TextApart.literal
  | some f =>
      exact Apart.argument f TextApart.literal

namespace Query

theorem callText_apart (t : Token) {ts us : List Token} (h : OneApart (Token.Apart q s s') ts us) :
    ∃ before after, '(' ∈ before ∧
      TextApart q s s' before (after ++ [')']) (callText t ts) (callText t us) := by
  rcases h.exists_eq with ⟨left, _, _, right, rfl, rfl, ⟨⟩⟩
  rcases Text.exists_intercalate [' '] (left.map fun u => u.text.toList)
    (right.map fun u => u.text.toList) with ⟨front, back, hjoin⟩
  have hcall : ∀ s : String, callText t (left ++ .quoted q s :: right) =
      String.ofList (t.text.toList ++ '(' :: front ++ q.enclose s.toList ++ (back ++ [')'])) := by
    intro s
    have htext := hjoin (q.enclose s.toList)
    rw [← String.toList_inj]
    simp only [callText, Token.text, String.toList_append, String.toList_intercalate, List.map_map,
      List.map_append, List.map_cons, String.toList_ofList]
    simp only [Function.comp_def]
    rw [show " ".toList = [' '] from rfl, htext]
    simp
  refine ⟨t.text.toList ++ '(' :: front, back, by simp, ?_⟩
  rw [hcall, hcall]
  exact TextApart.literal

theorem callText_quoted (q : Text.Quote) (ts : List Token) :
    ∃ after, '(' ∈ after ∧ ∀ s : String,
      callText (.quoted q s) ts = String.ofList (q.enclose s.toList ++ (after ++ [')'])) := by
  refine ⟨'(' :: (String.intercalate " " (ts.map Token.text)).toList, by simp, ?_⟩
  intro s
  rw [← String.toList_inj]
  simp [callText, Token.text]

/-- A call whose function is the literal. -/
theorem ofText_callText_quoted (ts : List Token) :
    (Field.ofText (callText (.quoted q s) ts)).Apart q s s'
      (Field.ofText (callText (.quoted q s') ts)) := by
  rcases callText_quoted q ts with ⟨after, hafter, hcall⟩
  have htrim : Text.trimRight (after ++ [')']) = after ++ [')'] :=
    Text.trimRight_append_cons (by decide) after []
  rw [hcall, hcall, Field.ofText_enclose q _ htrim, Field.ofText_enclose q _ htrim]
  exact Field.Apart.call (List.mem_append_right [] hafter) TextApart.literal

theorem takeArgument_alike {ts us : List Token} (h : OneApart (Token.Apart q s s') ts us) :
    Alike (ReadApart q s s' (OneApart (Token.Apart q s s'))) (takeArgument ts)
      (takeArgument us) := by
  have hinside : ∀ t u, Token.Apart q s s' t u →
      (t != .closeParen) = true ∧ (u != .closeParen) = true := by
    rintro _ _ ⟨⟩
    exact ⟨rfl, rfl⟩
  unfold takeArgument
  dsimp only
  rcases h.cut hinside with ⟨htake, hdrop⟩ | ⟨htake, close, cs, ds, hdrop, hdrop', hrest⟩
  · rw [hdrop]
    split
    · exact Alike.error rfl
    · rw [if_neg (by simpa using htake.ne_nil.1), if_neg (by simpa using htake.ne_nil.2)]
      exact Alike.ok (ReadApart.read htake)
  · rw [hdrop, hdrop', htake]
    dsimp only
    split
    · exact Alike.error rfl
    · exact Alike.ok (ReadApart.rest hrest)

theorem takeField_literal (ts : List Token) :
    Alike (ReadApart q s s' (Field.Apart q s s')) (takeField (.quoted q s) ts)
      (takeField (.quoted q s') ts) := by
  by_cases hparen : ts.head? = some .openParen
  · rcases List.head?_eq_some_iff.mp hparen with ⟨rest, rfl⟩
    rw [takeField_call (by simp), takeField_call (by simp)]
    exact Alike.map_same fun read => ReadApart.read (ofText_callText_quoted read.1)
  · rw [takeField_name (by simp) hparen, takeField_name (by simp) hparen, Field.ofText_quoted,
      Field.ofText_quoted]
    exact Alike.ok (ReadApart.read (Field.Apart.name NameApart.literal))

theorem takeField_alike {t u : Token} {ts us : List Token}
    (h : OneApart (Token.Apart q s s') (t :: ts) (u :: us)) :
    Alike (ReadApart q s s' (Field.Apart q s s')) (takeField t ts) (takeField u us) := by
  cases h with
  | here hliteral =>
      cases hliteral
      exact takeField_literal ts
  | there hrest =>
      by_cases hcomma : t = .comma
      · subst hcomma
        exact Alike.error rfl
      · have hname : ∀ vs ws : List Token, OneApart (Token.Apart q s s') vs ws →
            vs.head? ≠ some .openParen → ws.head? ≠ some .openParen →
              Alike (ReadApart q s s' (Field.Apart q s s')) (takeField t vs) (takeField t ws) := by
          intro vs ws hrest hvs hws
          rw [takeField_name hcomma hvs, takeField_name hcomma hws]
          split
          · exact Alike.error rfl
          · exact Alike.ok (ReadApart.rest hrest)
        cases hrest with
        | here hliteral =>
            cases hliteral
            exact hname _ _ (OneApart.here Token.Apart.literal) (by simp) (by simp)
        | there hrest =>
            rename_i v vs ws
            by_cases hparen : v = .openParen
            · subst hparen
              rw [takeField_call hcomma, takeField_call hcomma]
              split
              · exact Alike.error rfl
              · refine (takeArgument_alike hrest).map ?_
                rintro _ _ (hargument | hrest)
                · rcases callText_apart t hargument with ⟨before, after, hbefore, htext⟩
                  exact ReadApart.read (Field.ofText_apart hbefore htext)
                · exact ReadApart.rest hrest
            · exact hname _ _ (OneApart.there hrest) (by simpa using hparen) (by simpa using hparen)

theorem readMoreFields_alike_of_field {f g : Field} (h : f.Apart q s s' g) (ts : List Token) :
    Alike (OneApart (Field.Apart q s s')) (readMoreFields f ts) (readMoreFields g ts) := by
  unfold readMoreFields
  split
  · exact Alike.ok (OneApart.here h)
  · exact Alike.error rfl
  · exact Alike.map_same fun _ => OneApart.here h
  · exact Alike.error rfl

/-- The fields behind a comma are apart, if the tokens behind a field are. -/
theorem readMoreFields_alike (field : Field) {ts us : List Token}
    (h : OneApart (Token.Apart q s s') ts us)
    (hfields : ∀ rest rest', rest.length < ts.length → OneApart (Token.Apart q s s') rest rest' →
      Alike (OneApart (Field.Apart q s s')) (readFields rest) (readFields rest')) :
    Alike (OneApart (Field.Apart q s s')) (readMoreFields field ts) (readMoreFields field us) := by
  cases h with
  | here hliteral =>
      cases hliteral
      rw [readMoreFields_of_ne field (by simp), readMoreFields_of_ne field (by simp)]
      exact Alike.error rfl
  | there hrest =>
      rename_i t rest rest'
      by_cases hcomma : t = .comma
      · subst hcomma
        rw [readMoreFields_comma field hrest.ne_nil.1, readMoreFields_comma field hrest.ne_nil.2]
        exact (hfields rest rest' (by simp) hrest).map fun _ _ => OneApart.there
      · rw [readMoreFields_of_ne field hcomma, readMoreFields_of_ne field hcomma]
        exact Alike.error rfl

theorem readFields_alike {ts us : List Token} (h : OneApart (Token.Apart q s s') ts us) :
    Alike (OneApart (Field.Apart q s s')) (readFields ts) (readFields us) := by
  -- A field takes any number of tokens, so the induction is on how many are left.
  induction hlength : ts.length using Nat.strong_induction_on generalizing ts us with
  | _ n ih =>
      subst hlength
      rcases List.exists_cons_of_ne_nil h.ne_nil.1 with ⟨t, ts, rfl⟩
      rcases List.exists_cons_of_ne_nil h.ne_nil.2 with ⟨u, us, rfl⟩
      rw [readFields_cons, readFields_cons]
      refine (takeField_alike h).bind ?_
      rintro ⟨field, rest⟩ _ htake (hfield | hrest)
      · exact readMoreFields_alike_of_field hfield rest
      · have hshorter := takeField_shorter htake
        refine readMoreFields_alike field hrest ?_
        intro vs vs' hvs hapart
        have hvs : vs.length < rest.length := hvs
        refine ih vs.length ?_ hapart rfl
        simp only [List.length_cons]
        omega

/-!
## Joins
-/

theorem joinKind?_quoted (q : Text.Quote) (s : String) :
    joinKind? (.quoted q s) = .error (.unknownJoin (Token.quoted q s).text) := by
  rw [joinKind?, JoinKind.ofName?_quoted]

/-- Before `join` no literal is let through. -/
theorem takeJoinKind_alike {ts us : List Token} (h : OneApart (Token.Apart q s s') ts us) :
    Alike (fun read read' => read.1 = read'.1 ∧ OneApart (Token.Apart q s s') read.2 read'.2)
      (takeJoinKind ts) (takeJoinKind us) := by
  -- The literal is one of the three tokens that are looked at, or stands behind them.
  have hword : ∀ s v : String, (Token.quoted q s).isWord v = false :=
    fun _ _ => rfl
  cases h with
  | here hfirst =>
      cases hfirst
      rename_i rest
      rcases rest with _ | ⟨second, _ | ⟨third, rest⟩⟩
      all_goals
        simp only [takeJoinKind, hword, joinKind?_quoted, Bool.false_eq_true, if_false, error_bind]
        repeat' split
        all_goals exact Alike.error rfl
  | there hrest =>
      rename_i first ts us
      by_cases hfirst : first.isWord "join" = true
      · simp only [takeJoinKind, hfirst, if_true]
        exact Alike.ok ⟨rfl, hrest⟩
      · cases hrest with
        | here hsecond =>
            cases hsecond
            rename_i rest
            rcases rest with _ | ⟨third, rest⟩
            all_goals
              simp only [takeJoinKind, hfirst, hword, Bool.false_and, Bool.false_eq_true, if_false]
              exact Alike.error rfl
        | there hrest =>
            rename_i second ts us
            by_cases hsecond : second.isWord "join" = true
            · simp only [takeJoinKind, hfirst, hsecond, Bool.false_eq_true, if_false, if_true]
              exact Alike.bind_same fun kind => Alike.ok ⟨rfl, hrest⟩
            · cases hrest with
              | here hthird =>
                  cases hthird
                  simp only [takeJoinKind, hfirst, hsecond, hword, Bool.and_false,
                    Bool.false_eq_true, if_false]
                  exact Alike.error rfl
              | there hrest =>
                  simp only [takeJoinKind, hfirst, hsecond, Bool.false_eq_true, if_false]
                  split
                  · exact Alike.bind_same fun kind => Alike.ok ⟨rfl, hrest⟩
                  · exact Alike.error rfl

theorem text_quoted_ne_equals (q : Text.Quote) (s : String) : (Token.quoted q s).text ≠ "=" :=
  ofList_quote_ne (by decide) _

/-- What is checked of a link does not depend on its names. -/
theorem takeJoined_alike_of_read {kind : JoinKind} {table left right table' left' right' : Token}
    (on equals : Token) {rest rest' : List Token}
    (h : ReadApart q s s' (Join.Apart q s s') (⟨kind, table.text, ⟨left.text, right.text⟩⟩, rest)
      (⟨kind, table'.text, ⟨left'.text, right'.text⟩⟩, rest')) :
    Alike (ReadApart q s s' (Join.Apart q s s'))
      (takeJoined kind (table :: on :: left :: equals :: right :: rest))
      (takeJoined kind (table' :: on :: left' :: equals :: right' :: rest')) := by
  simp only [takeJoined]
  split
  · exact Alike.error rfl
  · split
    · exact Alike.error rfl
    · exact Alike.ok h

theorem takeJoined_of_short (kind : JoinKind) {ts : List Token} (h : ts.length < 5) :
    takeJoined kind ts = .error .joinUsage := by
  unfold takeJoined
  split
  · simp only [List.length_cons] at h
    omega
  · rfl

theorem takeJoined_alike (kind : JoinKind) {ts us : List Token}
    (h : OneApart (Token.Apart q s s') ts us) :
    Alike (ReadApart q s s' (Join.Apart q s s')) (takeJoined kind ts) (takeJoined kind us) := by
  by_cases hlength : ts.length < 5
  · rw [takeJoined_of_short kind hlength, takeJoined_of_short kind (h.length_eq ▸ hlength)]
    exact Alike.error rfl
  · rcases ts with _ | ⟨table, _ | ⟨on, _ | ⟨left, _ | ⟨equals, _ | ⟨right, rest⟩⟩⟩⟩⟩
    case cons.cons.cons.cons.cons =>
      -- One token after another may be the literal.
      rcases h with ⟨⟨⟩⟩ | h
      · exact takeJoined_alike_of_read on equals
          (ReadApart.read (Join.Apart.table kind _ NameApart.literal))
      · rcases h with ⟨⟨⟩⟩ | h
        · exact Alike.error rfl
        · rcases h with ⟨⟨⟩⟩ | h
          · exact takeJoined_alike_of_read on equals
              (ReadApart.read (Join.Apart.left kind table.text right.text NameApart.literal))
          · rcases h with ⟨⟨⟩⟩ | h
            · simp only [takeJoined, ne_eq, text_quoted_ne_equals, not_false_eq_true, if_true]
              split <;> exact Alike.error rfl
            · rcases h with ⟨⟨⟩⟩ | h
              · exact takeJoined_alike_of_read on equals
                  (ReadApart.read (Join.Apart.right kind table.text left.text NameApart.literal))
              · exact takeJoined_alike_of_read on equals (ReadApart.rest h)
    all_goals
      simp at hlength

theorem takeJoin_alike {ts us : List Token} (h : OneApart (Token.Apart q s s') ts us) :
    Alike (ReadApart q s s' (Join.Apart q s s')) (takeJoin ts) (takeJoin us) := by
  refine (takeJoinKind_alike h).bind ?_
  rintro ⟨kind, rest⟩ ⟨_, rest'⟩ _ ⟨rfl, hrest⟩
  exact takeJoined_alike kind hrest

theorem startsJoin_eq {ts us : List Token} (h : OneApart (Token.Apart q s s') ts us) :
    startsJoin ts = startsJoin us := by
  rcases h with ⟨⟨⟩⟩ | h <;> rfl

theorem takeJoinClause_alike {ts us : List Token} (h : OneApart (Token.Apart q s s') ts us) :
    Alike (ReadApart q s s' (BothApart (Join.Apart q s s'))) (takeJoinClause ts)
      (takeJoinClause us) := by
  rw [takeJoinClause, takeJoinClause, startsJoin_eq h]
  split
  · refine (takeJoin_alike h).bind ?_
    rintro _ _ _ (hjoin | hrest)
    · exact Alike.ok (ReadApart.read (BothApart.some hjoin))
    · exact Alike.ok (ReadApart.rest hrest)
  · exact Alike.ok (ReadApart.rest h)

/-!
## Conditions
-/

/-- What is checked of a condition is its operator, and that names are no punctuation. -/
theorem takeCondition_alike_of_read {field value field' value' : Token} (op : Token)
    {rest rest' : List Token} (hfield : field.isPunctuation = field'.isPunctuation)
    (hvalue : value.isPunctuation = value'.isPunctuation)
    (h : ∀ comparison, ReadApart q s s' (Condition.Apart q s s')
      (⟨field.text, comparison, value.text⟩, rest)
      (⟨field'.text, comparison, value'.text⟩, rest')) :
    Alike (ReadApart q s s' (Condition.Apart q s s')) (takeCondition (field :: op :: value :: rest))
      (takeCondition (field' :: op :: value' :: rest')) := by
  simp only [takeCondition, hfield, hvalue]
  split
  · exact Alike.error rfl
  · cases Comparison.ofSymbol? op.text with
    | none =>
        exact Alike.error rfl
    | some comparison =>
        dsimp only
        split
        · exact Alike.error rfl
        · exact Alike.ok (h comparison)

theorem takeCondition_of_short {ts : List Token} (h : ts.length < 3) :
    takeCondition ts = .error .conditionUsage := by
  unfold takeCondition
  split
  · simp only [List.length_cons] at h
    omega
  · rfl

theorem takeCondition_alike {ts us : List Token} (h : OneApart (Token.Apart q s s') ts us) :
    Alike (ReadApart q s s' (Condition.Apart q s s')) (takeCondition ts) (takeCondition us) := by
  by_cases hlength : ts.length < 3
  · rw [takeCondition_of_short hlength, takeCondition_of_short (h.length_eq ▸ hlength)]
    exact Alike.error rfl
  · rcases ts with _ | ⟨field, _ | ⟨op, _ | ⟨value, rest⟩⟩⟩
    case cons.cons.cons =>
      rcases h with ⟨⟨⟩⟩ | h
      · exact takeCondition_alike_of_read op rfl rfl fun comparison =>
          ReadApart.read (Condition.Apart.field comparison value.text NameApart.literal)
      · rcases h with ⟨⟨⟩⟩ | h
        · simp only [takeCondition, Comparison.ofSymbol?_quoted]
          split <;> exact Alike.error rfl
        · rcases h with ⟨⟨⟩⟩ | h
          · exact takeCondition_alike_of_read op rfl rfl fun comparison =>
              ReadApart.read (Condition.Apart.literal field.text comparison NameApart.literal)
          · exact takeCondition_alike_of_read op rfl rfl fun comparison => ReadApart.rest h
    all_goals
      simp at hlength

theorem readMoreConditions_alike_of_condition {c d : Condition} (h : c.Apart q s s' d)
    (ts : List Token) :
    Alike (OneApart (Condition.Apart q s s')) (readMoreConditions c ts)
      (readMoreConditions d ts) := by
  cases ts with
  | nil =>
      exact Alike.ok (OneApart.here h)
  | cons next rest =>
      simp only [readMoreConditions]
      split
      · exact Alike.map_same fun _ => OneApart.here h
      · split <;> exact Alike.error rfl

theorem readConditions_alike {ts us : List Token} (h : OneApart (Token.Apart q s s') ts us) :
    Alike (OneApart (Condition.Apart q s s')) (readConditions ts) (readConditions us) := by
  induction hlength : ts.length using Nat.strong_induction_on generalizing ts us with
  | _ n ih =>
      subst hlength
      rw [readConditions_eq, readConditions_eq]
      refine (takeCondition_alike h).bind ?_
      rintro ⟨condition, rest⟩ _ htake (hcondition | hrest)
      · exact readMoreConditions_alike_of_condition hcondition rest
      · have hshorter := takeCondition_shorter htake
        rcases hrest with ⟨⟨⟩⟩ | hrest
        · exact Alike.error rfl
        · rename_i next vs vs'
          simp only [List.length_cons] at hshorter
          simp only [readMoreConditions]
          split
          · exact (ih vs.length (by omega) hrest rfl).map fun _ _ => OneApart.there
          · split <;> exact Alike.error rfl

theorem takeConditions_alike {ts us : List Token} (h : OneApart (Token.Apart q s s') ts us) :
    Alike (ReadApart q s s' (OneApart (Condition.Apart q s s'))) (takeConditions ts)
      (takeConditions us) := by
  rcases h with ⟨⟨⟩⟩ | hrest
  · exact Alike.ok (ReadApart.rest (OneApart.here Token.Apart.literal))
  · rename_i first ts us
    have hinside : ∀ t u, Token.Apart q s s' t u →
        (!t.isWord "group") = true ∧ (!u.isWord "group") = true := by
      rintro _ _ ⟨⟩
      exact ⟨rfl, rfl⟩
    simp only [takeConditions]
    split
    · rcases hrest.cut hinside with ⟨htake, hdrop⟩ | ⟨htake, group, vs, vs', hdrop, hdrop', hrest⟩
      · rw [if_neg (by simpa using htake.ne_nil.1), if_neg (by simpa using htake.ne_nil.2), hdrop]
        refine (readConditions_alike htake).bind ?_
        intro _ _ _ hread
        exact Alike.ok (ReadApart.read hread)
      · rw [htake, hdrop, hdrop']
        split
        · exact Alike.error rfl
        · exact Alike.bind_same fun read => Alike.ok (ReadApart.rest (OneApart.there hrest))
    · exact Alike.ok (ReadApart.rest (OneApart.there hrest))

/-!
## Groups
-/

theorem takeNames_punctuation {t : Token} (h : t.isPunctuation = true) (rest : List Token) :
    takeNames (t :: rest) = .error .badGroupName := by
  unfold takeNames
  rw [if_pos h]

theorem takeNames_comma {t : Token} (h : t.isPunctuation = false) (rest : List Token) :
    takeNames (t :: .comma :: rest) =
      (takeNames rest).map fun read => (t.text :: read.1, read.2) := by
  rw [takeNames, h]
  cases takeNames rest <;> rfl

theorem takeNames_last {t : Token} (h : t.isPunctuation = false) {rest : List Token}
    (hrest : rest.head? ≠ some .comma) : takeNames (t :: rest) = .ok ([t.text], rest) := by
  rw [takeNames, if_neg (by simp [h])]
  rintro tail rfl
  exact hrest rfl

theorem takeNames_alike {ts us : List Token} (h : OneApart (Token.Apart q s s') ts us) :
    Alike (ReadApart q s s' (OneApart (NameApart q s s'))) (takeNames ts) (takeNames us) := by
  induction hlength : ts.length using Nat.strong_induction_on generalizing ts us with
  | _ n ih =>
      subst hlength
      rcases h with ⟨⟨⟩⟩ | hrest
      · rename_i rest
        by_cases hcomma : rest.head? = some .comma
        · rcases List.head?_eq_some_iff.mp hcomma with ⟨tail, rfl⟩
          rw [takeNames_comma rfl, takeNames_comma rfl]
          exact Alike.map_same fun _ => ReadApart.read (OneApart.here NameApart.literal)
        · rw [takeNames_last rfl hcomma, takeNames_last rfl hcomma]
          exact Alike.ok (ReadApart.read (OneApart.here NameApart.literal))
      · rename_i name ts us
        cases hname : name.isPunctuation with
        | true =>
            rw [takeNames_punctuation hname, takeNames_punctuation hname]
            exact Alike.error rfl
        | false =>
            have hlast : ts.head? ≠ some .comma → us.head? ≠ some .comma →
                Alike (ReadApart q s s' (OneApart (NameApart q s s'))) (takeNames (name :: ts))
                  (takeNames (name :: us)) := by
              intro hts hus
              rw [takeNames_last hname hts, takeNames_last hname hus]
              exact Alike.ok (ReadApart.rest hrest)
            rcases hrest with ⟨⟨⟩⟩ | htail
            · exact hlast (by simp) (by simp)
            · rename_i next ts us
              by_cases hcomma : next = .comma
              · subst hcomma
                rw [takeNames_comma hname, takeNames_comma hname]
                have hshorter : ts.length < (name :: Token.comma :: ts).length := by
                  simp only [List.length_cons]
                  omega
                refine (ih ts.length hshorter htail rfl).map ?_
                rintro _ _ (hnames | htail)
                · exact ReadApart.read (OneApart.there hnames)
                · exact ReadApart.rest htail
              · exact hlast (by simpa using hcomma) (by simpa using hcomma)

theorem takeGroupBy_alike {ts us : List Token} (h : OneApart (Token.Apart q s s') ts us) :
    Alike (ReadApart q s s' (BothApart (OneApart (NameApart q s s')))) (takeGroupBy ts)
      (takeGroupBy us) := by
  rcases h with ⟨⟨⟩⟩ | hrest
  · exact Alike.ok (ReadApart.rest (OneApart.here Token.Apart.literal))
  · rename_i first ts us
    simp only [takeGroupBy]
    split
    · rcases hrest with ⟨⟨⟩⟩ | hrest
      · exact Alike.error rfl
      · dsimp only
        split
        · refine (takeNames_alike hrest).bind ?_
          rintro _ _ _ (hnames | hrest)
          · exact Alike.ok (ReadApart.read (BothApart.some hnames))
          · exact Alike.ok (ReadApart.rest hrest)
        · exact Alike.error rfl
    · exact Alike.ok (ReadApart.rest (OneApart.there hrest))

/-!
## Queries
-/

/-- The same clauses behind two lists of fields, or two tables, that are apart. -/
theorem readClauses_alike_of_same {fields fields' : List Field} {table table' : String}
    (h : ∀ conditions join groupBy, Apart q s s' ⟨fields, table, conditions, join, groupBy⟩
      ⟨fields', table', conditions, join, groupBy⟩) (ts : List Token) :
    Alike (Apart q s s') (readClauses fields table ts) (readClauses fields' table' ts) := by
  refine Alike.bind_same fun joins => ?_
  refine Alike.bind_same fun conditions => ?_
  refine Alike.bind_same fun groups => ?_
  dsimp only
  split
  · exact Alike.ok (h _ _ _)
  · exact Alike.error rfl

theorem readClauses_alike (fields : List Field) (table : String) {ts us : List Token}
    (h : OneApart (Token.Apart q s s') ts us) :
    Alike (Apart q s s') (readClauses fields table ts) (readClauses fields table us) := by
  -- The tokens that are left stay apart up to the clause that takes the literal.
  refine (takeJoinClause_alike h).bind ?_
  rintro ⟨join, rest⟩ _ _ (hjoin | h)
  · rcases hjoin with ⟨hjoin⟩
    refine Alike.bind_same fun conditions => Alike.bind_same fun groups => ?_
    dsimp only
    split
    · exact Alike.ok (Apart.join ⟨fields, table, conditions.1, none, groups.1⟩ hjoin)
    · exact Alike.error rfl
  · refine (takeConditions_alike h).bind ?_
    rintro ⟨conditions, rest⟩ _ _ (hconditions | h)
    · refine Alike.bind_same fun groups => ?_
      dsimp only
      split
      · exact Alike.ok (Apart.conditions ⟨fields, table, [], join, groups.1⟩ hconditions)
      · exact Alike.error rfl
    · refine (takeGroupBy_alike h).bind ?_
      rintro ⟨groupBy, rest⟩ _ _ (hgroupBy | h)
      · rcases hgroupBy with ⟨hgroupBy⟩
        dsimp only
        split
        · exact Alike.ok (Apart.groupBy ⟨fields, table, conditions, join, none⟩ hgroupBy)
        · exact Alike.error rfl
      · dsimp only
        rw [if_neg (by simpa using h.ne_nil.1), if_neg (by simpa using h.ne_nil.2)]
        exact Alike.error rfl

theorem readSelect_alike {ts us : List Token} (h : OneApart (Token.Apart q s s') ts us) :
    Alike (Apart q s s') (readSelect ts) (readSelect us) := by
  have hinside : ∀ t u, Token.Apart q s s' t u →
      (!t.isWord "from") = true ∧ (!u.isWord "from") = true := by
    rintro _ _ ⟨⟩
    exact ⟨rfl, rfl⟩
  unfold readSelect
  dsimp only
  rcases h.cut hinside with ⟨htake, hdrop⟩ | ⟨htake, word, vs, vs', hdrop, hdrop', hrest⟩
  · rw [hdrop]
    split
    · exact Alike.error rfl
    · rw [if_neg (by simpa using htake.ne_nil.1), if_neg (by simpa using htake.ne_nil.2)]
      refine (readFields_alike htake).bind ?_
      intro fields fields' _ hfields
      split
      · exact Alike.error rfl
      · split
        · exact Alike.error rfl
        · exact readClauses_alike_of_same
            (fun conditions join groupBy =>
              Apart.fields ⟨[], _, conditions, join, groupBy⟩ hfields) _
  · rw [hdrop, hdrop', htake]
    dsimp only
    split
    · exact Alike.error rfl
    · refine Alike.bind_same fun fields => ?_
      rcases hrest with ⟨⟨⟩⟩ | hrest
      · exact readClauses_alike_of_same
          (fun conditions join groupBy => Apart.table ⟨fields, "", conditions, join, groupBy⟩
            NameApart.literal) _
      · dsimp only
        split
        · exact Alike.error rfl
        · exact readClauses_alike fields _ hrest

theorem ofTokens_alike {ts us : List Token} (h : OneApart (Token.Apart q s s') ts us) :
    Alike (Apart q s s') (ofTokens ts) (ofTokens us) := by
  rcases h with ⟨⟨⟩⟩ | hrest
  · exact Alike.error rfl
  · simp only [ofTokens]
    split
    · exact readSelect_alike hrest
    · exact Alike.error rfl

end Query
end TableQuery
