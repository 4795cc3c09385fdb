import TableQuery.Proofs.Query.Scanning

/-!
# Literals where names are expected

A text that begins with a quote is the name of no function, no kind of join and no
operator.  Where a literal stands behind the parenthesis of a call, the function is found
without a look at the literal.
-/

namespace TableQuery

/-!
## Texts that begin with a quote
-/

namespace Text

theorem upperChar_quote (q : Quote) : upperChar q.char = [q.char] := by
  cases q <;> rfl

theorem trim_quote (q : Quote) (cs : List Char) : trim (q.char :: cs) = q.char :: trimRight cs := by
  have hquote := Token.isBlank_quote q
  have hleft : trimLeft (q.char :: cs) = q.char :: cs := by
    simp [trimLeft, hquote]
  rw [trim, hleft]
  exact trimRight_append_cons hquote [] cs

theorem trim_enclose (q : Quote) (before inside after : List Char) :
    trim (before ++ q.enclose inside ++ after) =
      trimLeft before ++ q.enclose inside ++ trimRight after := by
  have hquote := Token.isBlank_quote q
  have hleft := trimLeft_append_cons hquote before (inside ++ q.char :: after)
  have hright := trimRight_append_cons hquote (trimLeft before ++ q.char :: inside) after
  simp only [Quote.enclose, List.append_assoc, List.cons_append, List.nil_append] at hleft hright ⊢
  rw [trim, hleft, hright]

end Text

theorem ofList_quote_ne {q : Text.Quote} {w : String}
    (hw : w.toList.head?.bind Text.Quote.ofChar? = none) (cs : List Char) : String.ofList (q.char :: cs) ≠ w := by
  rintro rfl
  rw [String.toList_ofList, List.head?_cons, Option.bind_some, Text.Quote.ofChar?_char] at hw
  cases hw

/-- No function's name begins with a quote. -/
theorem Aggregate.ofName?_quote (q : Text.Quote) (cs : List Char) :
    Aggregate.ofName? (q.char :: cs) = none := by
  rw [Aggregate.ofName?, Text.upper_cons, Text.upperChar_quote, List.singleton_append]
  cases h : Aggregate.ofUpperName? (String.ofList (q.char :: Text.upper cs)) with
  | none =>
      rfl
  | some f =>
      refine absurd (Aggregate.eq_name_of_ofUpperName? h) (ofList_quote_ne ?_ _)
      cases f <;> decide

theorem JoinKind.ofName?_quoted (q : Text.Quote) (s : String) :
    JoinKind.ofName? (Token.quoted q s).text = none := by
  rw [JoinKind.ofName?, Token.text, String.toList_ofList, Text.Quote.enclose, List.cons_append,
    Text.upper_cons, Text.upperChar_quote, List.singleton_append]
  cases h : JoinKind.ofUpperName? (String.ofList (q.char :: Text.upper (s.toList ++ [q.char]))) with
  | none =>
      rfl
  | some k =>
      refine absurd (JoinKind.eq_name_of_ofUpperName? h) (ofList_quote_ne ?_ _)
      cases k <;> decide

theorem Comparison.ofSymbol?_quoted (q : Text.Quote) (s : String) :
    Comparison.ofSymbol? (Token.quoted q s).text = none := by
  cases h : Comparison.ofSymbol? (Token.quoted q s).text with
  | none =>
      rfl
  | some op =>
      refine absurd (Comparison.eq_symbol_of_ofSymbol? h) (ofList_quote_ne ?_ _)
      cases op <;> decide

/-!
## Fields
-/

namespace Field

theorem column_of_call?_eq_none {cs : List Char} (h : call? (Text.trim cs) = none) :
    ofText (String.ofList cs) = .column (String.ofList (Text.trim cs)) := by
  rw [ofText, String.toList_ofList, h]
  rfl

theorem call?_quote (q : Text.Quote) (cs : List Char) : call? (q.char :: cs) = none := by
  unfold call?
  cases hcut : Text.cut? '(' (q.char :: cs) with
  | none =>
      rfl
  | some parts =>
      rcases parts with ⟨name, rest⟩
      rcases Text.cut?_eq_some_iff.mp hcut with ⟨htext, hname⟩
      have hquote : ∃ tail, name = q.char :: tail := by
        cases name with
        | nil =>
            cases q <;> cases htext
        | cons c tail =>
            cases htext
            exact ⟨tail, rfl⟩
      rcases hquote with ⟨tail, rfl⟩
      cases hend : Text.stripEnd? [')'] rest with
      | none =>
          simp [hend]
      | some inside =>
          simp [hend, Text.trim_quote, Aggregate.ofName?_quote]

/-- A text that begins with a literal names a column, also where it goes on as a call. -/
theorem ofText_enclose (q : Text.Quote) (inside : List Char) {after : List Char}
    (hafter : Text.trimRight after = after) :
    ofText (String.ofList (q.enclose inside ++ after)) =
      .column (String.ofList (q.enclose inside ++ after)) := by
  have htrim : Text.trim (q.enclose inside ++ after) = q.enclose inside ++ after := by
    have htrim := Text.trim_enclose q [] inside after
    rwa [hafter] at htrim
  have hcall := call?_quote q (inside ++ [q.char] ++ after)
  rw [column_of_call?_eq_none (by rw [htrim]; exact hcall), htrim]

theorem ofText_quoted (q : Text.Quote) (s : String) :
    ofText (Token.quoted q s).text = .column (Token.quoted q s).text := by
  have htext := ofText_enclose q s.toList (show Text.trimRight [] = [] from rfl)
  rwa [List.append_nil] at htext

theorem argument?_of_mem {cs : List Char} {c : Char} (h : c ∈ Text.trim cs) (hc : c ≠ '*') :
    argument? cs = some (.column (String.ofList (Text.trim cs))) := by
  unfold argument?
  split
  · rename_i heq
    rw [heq] at h
    cases h
  · rename_i heq
    rw [heq, List.mem_singleton] at h
    exact absurd h hc
  · rfl

/-- The function of a call is found before its argument is looked at. -/
theorem call?_enclose {name : List Char} (hname : '(' ∉ name) (q : Text.Quote)
    (before inside after : List Char) :
    call? (name ++ '(' :: before ++ q.enclose inside ++ (after ++ [')'])) =
      (Aggregate.ofName? (Text.trim name)).map fun f =>
        .aggregate f (.column (String.ofList
          (Text.trimLeft before ++ q.enclose inside ++ Text.trimRight after))) := by
  have hcut : Text.cut? '(' (name ++ '(' :: before ++ q.enclose inside ++ (after ++ [')'])) =
      some (name, before ++ q.enclose inside ++ after ++ [')']) := by
    rw [Text.cut?_eq_some_iff]
    exact ⟨by simp, hname⟩
  have hend : Text.stripEnd? [')'] (before ++ q.enclose inside ++ after ++ [')']) =
      some (before ++ q.enclose inside ++ after) :=
    Text.stripEnd?_append _ _
  have hmem : q.char ∈ Text.trim (before ++ q.enclose inside ++ after) := by
    rw [Text.trim_enclose]
    simp [Text.Quote.enclose]
  have hstar : q.char ≠ '*' := by
    cases q <;> decide
  have hargument := argument?_of_mem hmem hstar
  rw [Text.trim_enclose] at hargument
  rw [call?, hcut]
  cases hf : Aggregate.ofName? (Text.trim name) with
  | none =>
      simp [hf]
  | some f =>
      simp only [Option.bind_eq_bind, Option.bind_some, hend, hf, hargument]
      rfl

end Field
end TableQuery
