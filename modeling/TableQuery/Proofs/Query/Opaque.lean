import TableQuery.Proofs.Query.Alike
import TableQuery.Proofs.Query.Ends

/-!
# Quoted texts are opaque

Nothing that stands between quotes has a say in how the text around it is cut into tokens,
nor in how those are read.
-/

namespace TableQuery

/-!
## Texts
-/

/-- The token between two texts, with a blank on each side. -/
def Token.within (pre : String) (t : Token) (post : String) : String :=
  pre ++ " " ++ String.ofList t.write ++ " " ++ post

namespace Query

/-- Around a literal a text is cut in the same way, whatever the literal holds. -/
theorem parse_within {pre : String} {ts : List Token} (hpre : Token.scan pre.toList = .ok ts)
    (q : Text.Quote) (post : String) :
    ∃ scanned : Except TokenFault (List Token), ∀ s,
      parse (Token.within pre (.quoted q s) post) =
        match scanned with
        | .error fault => .error (.token fault)
        | .ok us => ofTokens (ts ++ .quoted q s :: us) := by
  have hpost : Token.FollowsLiteral (' ' :: post.toList) := Token.followsLiteral_cons rfl _
  rcases exists_rest_of_followsLiteral hpost with ⟨rest, hrest, _, hstrip⟩
  refine ⟨Token.scan rest, ?_⟩
  intro s
  have htext : (Token.within pre (.quoted q s) post).toList =
      pre.toList ++ [' '] ++ (Token.quoted q s).write ++ ' ' :: post.toList := by
    simp [Token.within]
  have hblank := (Token.cut_of_scan hpre).scan_append_blank (c := ' ') rfl
    ((Token.quoted q s).write ++ rest)
  have hwrite := Token.scan_write_append (Token.IsLiteral.quoted q s).wellFormed hrest
  rw [parse, htext, hstrip (Token.IsLiteral.quoted q s) (Token.not_losesEnd_quoted q s _),
    List.append_assoc, List.append_assoc, List.singleton_append, hblank, hwrite]
  cases Token.scan rest <;> rfl

end Query

/-- Nothing inside a literal changes what is read around it: with another literal in its place
the text is refused for a fault of the same kind, or is read as the same query but for the one
field, name or value that is the literal or holds it. -/
theorem parse_literal_opaque {pre : String} (hpre : ∃ ts, Token.scan pre.toList = .ok ts)
    (q : Text.Quote) (s s' post : String) :
    Alike (fun d e => d.SameShape e ∧ d.Apart q s s' e)
      (Query.parse (Token.within pre (.quoted q s) post))
      (Query.parse (Token.within pre (.quoted q s') post)) := by
  rcases hpre with ⟨ts, hpre⟩
  rcases Query.parse_within hpre q post with ⟨scanned, hparse⟩
  rw [hparse s, hparse s']
  cases scanned with
  | error fault =>
      exact Alike.error rfl
  | ok us =>
      have hapart : OneApart (Token.Apart q s s') (ts ++ .quoted q s :: us)
          (ts ++ .quoted q s' :: us) :=
        (OneApart.here Token.Apart.literal).append_left ts
      exact (Query.ofTokens_alike hapart).imp fun _ _ h => ⟨h.sameShape, h⟩

/-- A literal that looks like the end of its condition, and like other clauses. -/
theorem parse_literal_opaque_title :
    (∃ ts, Token.scan "SELECT name FROM staff WHERE title =".toList = .ok ts) ∧
      Alike (fun d e => d.SameShape e ∧ d.Apart .single "lead" "') OR 1 = 1; GROUP BY \"name" e)
        (Query.parse (Token.within "SELECT name FROM staff WHERE title ="
          (.quoted .single "lead") "AND points > 1;"))
        (Query.parse (Token.within "SELECT name FROM staff WHERE title ="
          (.quoted .single "') OR 1 = 1; GROUP BY \"name") "AND points > 1;")) := by
  have hpre : ∃ ts, Token.scan "SELECT name FROM staff WHERE title =".toList = .ok ts :=
    ⟨[.word "SELECT", .word "name", .word "FROM", .word "staff", .word "WHERE", .word "title",
      .operator "="], by decide +kernel⟩
  exact ⟨hpre, parse_literal_opaque hpre .single "lead" "') OR 1 = 1; GROUP BY \"name"
    "AND points > 1;"⟩

example : Query.parse (Token.within "SELECT name FROM staff WHERE title ="
    (.quoted .single "') OR 1 = 1; GROUP BY \"name") "AND points > 1;") =
      .ok { fields := [.column "name"], table := "staff", join := none, groupBy := none
            conditions := [⟨"title", .equal, "'') OR 1 = 1; GROUP BY \"name'"⟩,
              ⟨"points", .greater, "1"⟩] } := by
  decide +kernel

end TableQuery
