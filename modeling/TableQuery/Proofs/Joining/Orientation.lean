import TableQuery.Proofs.Joining.Owners

/-!
# Links as they are written

A link is turned exactly if its left side names the joined table and its right side the main
one.  Between two tables this puts each side on its own table, once and for all.  A link of a
table with itself reads both ways: it is turned although its left side is on the main table,
and turning it again undoes that.
-/

namespace TableQuery

namespace Name

/-- The name is a column of the table, qualified with its name. -/
def IsOf (table name : String) : Prop :=
  ∃ column, name = qualify table column

theorem owner?_eq_some_iff {table name : String} :
    owner? name = some table ↔ IsBare table ∧ IsOf table name := by
  constructor
  · intro h
    rcases Option.map_eq_some_iff.mp h with ⟨parts, hcut, rfl⟩
    rcases Text.cut?_eq_some_iff.mp hcut with ⟨hname, hbare⟩
    refine ⟨?_, String.ofList parts.2, ?_⟩
    · simpa [IsBare] using hbare
    · apply String.toList_inj.mp
      simpa [qualify] using hname
  · rintro ⟨hbare, column, rfl⟩
    exact owner?_qualify hbare column

/-- Behind the first dot stands the column exactly if the table has no dot. -/
theorem column?_qualify_eq_iff {table column : String} :
    column? (qualify table column) = some column ↔ IsBare table := by
  constructor
  · intro h
    by_contra hdot
    rcases exists_qualify_of_not_isBare hdot with ⟨owner, rest, howner, rfl⟩
    rw [qualify_qualify, column?_qualify howner, Option.some.injEq] at h
    exact qualify_ne_self rest column h
  · intro h
    exact column?_qualify h column

end Name

namespace Link

variable {link : Link} {main joined : String}

/-- The link is written with the joined table on the left and the main one on the right. -/
def IsReversed (main joined : String) (link : Link) : Prop :=
  (Name.IsBare joined ∧ Name.IsOf joined link.left) ∧
    Name.IsBare main ∧ Name.IsOf main link.right

/-- The link is one of a table with itself, between two columns of it. -/
def IsLoop (main joined : String) (link : Link) : Prop :=
  main = joined ∧ link.IsReversed main joined ∧ link.left ≠ link.right

theorem oriented_of_isReversed (h : link.IsReversed main joined) :
    link.oriented main joined = link.flip :=
  if_pos ⟨Name.owner?_eq_some_iff.mpr h.1, Name.owner?_eq_some_iff.mpr h.2⟩

theorem oriented_of_not_isReversed (h : ¬link.IsReversed main joined) :
    link.oriented main joined = link := by
  refine if_neg ?_
  rw [Name.owner?_eq_some_iff, Name.owner?_eq_some_iff]
  exact h

theorem flip_eq_self_iff : link.flip = link ↔ link.left = link.right := by
  cases link
  simp only [flip, Link.mk.injEq]
  constructor
  · exact And.right
  · rintro rfl
    exact ⟨rfl, rfl⟩

/-- A link that is written the other way round is written so once it is turned only if the
two tables are one. -/
theorem IsReversed.flip_iff (h : link.IsReversed main joined) :
    link.flip.IsReversed main joined ↔ main = joined := by
  constructor
  · intro hflip
    have howner := Name.owner?_eq_some_iff.mpr hflip.1
    rw [show link.flip.left = link.right from rfl, Name.owner?_eq_some_iff.mpr h.2,
      Option.some.injEq] at howner
    exact howner
  · rintro rfl
    exact ⟨h.2, h.1⟩

/-- A link of the joined table that is also one of the main table is one of a single table. -/
theorem IsReversed.eq_of_isOf (h : link.IsReversed main joined)
    (hleft : Name.IsOf main link.left) : main = joined := by
  have hmain := Name.owner?_eq_some_iff.mpr ⟨h.2.1, hleft⟩
  rw [Name.owner?_eq_some_iff.mpr h.1, Option.some.injEq] at hmain
  exact hmain.symm

theorem oriented_eq_self_iff :
    link.oriented main joined = link ↔ (link.IsReversed main joined → link.left = link.right) := by
  by_cases h : link.IsReversed main joined
  · rw [oriented_of_isReversed h, flip_eq_self_iff]
    exact ⟨fun heq _ => heq, fun heq => heq h⟩
  · rw [oriented_of_not_isReversed h]
    exact ⟨fun _ hreversed => absurd hreversed h, fun _ => rfl⟩

theorem oriented_oriented_iff :
    (link.oriented main joined).oriented main joined = link.oriented main joined ↔
      ¬link.IsLoop main joined := by
  by_cases h : link.IsReversed main joined
  · rw [oriented_of_isReversed h, oriented_eq_self_iff, h.flip_iff]
    constructor
    · rintro heq ⟨hsame, _, hne⟩
      exact hne (heq hsame).symm
    · intro hloop hsame
      by_contra hne
      exact hloop ⟨hsame, h, Ne.symm hne⟩
  · rw [oriented_of_not_isReversed h, oriented_of_not_isReversed h]
    exact ⟨fun _ hloop => h hloop.2.1, fun _ => rfl⟩

theorem oriented_of_isOf_iff (hleft : Name.IsOf main link.left) :
    link.oriented main joined = link ↔ ¬link.IsLoop main joined := by
  rw [oriented_eq_self_iff]
  constructor
  · rintro heq ⟨_, hreversed, hne⟩
    exact hne (heq hreversed)
  · intro hloop hreversed
    by_contra hne
    exact hloop ⟨hreversed.eq_of_isOf hleft, hreversed, hne⟩

/-!
## Matching rows
-/

/-- The cells of the two columns belong together: neither is null, and they are equal. -/
def TiesCells (x y : String) (r s : Row) : Prop :=
  (Cell.coerce? (r.get? x)).isNull = false ∧
    (Cell.coerce? (r.get? x)).compare? (Cell.coerce? (s.get? y)) = some .eq

/-- A link from a column of the main table to one of the joined table matches rows by these
columns. -/
def AlwaysTies (main joined : String) : Prop :=
  ∀ (x y : String) (r s : Row), r.get? (Name.qualify main x) = none →
    s.get? (Name.qualify joined y) = none →
      ((Link.oriented { left := Name.qualify main x, right := Name.qualify joined y }
        main joined).matches? r s = true ↔ TiesCells x y r s)

theorem matches?_eq_true_iff {r s : Row} :
    link.matches? r s = true ↔
      (Cell.coerce? (r.lookup? link.left)).isNull = false ∧
        (Cell.coerce? (r.lookup? link.left)).compare? (Cell.coerce? (s.lookup? link.right)) =
          some .eq := by
  simp [matches?]

theorem alwaysTies_of_isBare (hmain : Name.IsBare main) (hjoined : Name.IsBare joined)
    (hne : main ≠ joined) : AlwaysTies main joined := by
  intro x y r s hr hs
  let link : Link := { left := Name.qualify main x, right := Name.qualify joined y }
  have hleft : Name.IsOf main link.left := ⟨x, rfl⟩
  have hkept : link.oriented main joined = link :=
    (oriented_of_isOf_iff hleft).mpr fun hloop => hne hloop.1
  rw [hkept, matches?_eq_true_iff, Row.lookup?_qualify hmain hr, Row.lookup?_qualify hjoined hs,
    TiesCells]

theorem lookup?_ne_none_of_matches? {r s : Row} (h : link.matches? r s = true) :
    r.lookup? link.left ≠ none ∧ s.lookup? link.right ≠ none := by
  rw [matches?_eq_true_iff] at h
  have hnull := Cell.isNull_eq_of_compare? h.2
  rw [h.1] at hnull
  constructor
  · intro hleft
    rw [hleft] at h
    cases h.1
  · intro hright
    rw [hright] at hnull
    cases hnull

open Joining in
theorem column?_eq_of_lookup?_oneText {table column name : String} (hcolumn : Name.IsBare column)
    (h : (oneText column).lookup? (Name.qualify table name) ≠ none) :
    Name.column? (Name.qualify table name) = some column := by
  have hne : Name.qualify table name ≠ column := by
    rintro rfl
    exact Name.qualify_not_isBare table name hcolumn
  rw [Row.lookup?, get?_oneText, if_neg hne, Option.none_or] at h
  cases hfound : Name.column? (Name.qualify table name) with
  | none =>
      rw [hfound] at h
      exact absurd rfl h
  | some found =>
      rw [hfound, Option.bind_some, get?_oneText] at h
      by_cases hsame : found = column
      · rw [hsame]
      · rw [if_neg hsame] at h
        exact absurd rfl h

open Joining in
theorem isBare_of_alwaysTies (h : AlwaysTies main joined) :
    main ≠ joined ∧ Name.IsBare main ∧ Name.IsBare joined := by
  -- Two rows of one text each, under two columns that the link ties.
  let link : Link := { left := Name.qualify main "c", right := Name.qualify joined "d" }
  have hties : TiesCells "c" "d" (oneText "c") (oneText "d") :=
    ⟨by decide, by decide⟩
  have hfound := lookup?_ne_none_of_matches?
    ((h "c" "d" _ _ (get?_oneText_qualify main "c") (get?_oneText_qualify joined "d")).mpr hties)
  have hkept : ¬link.IsReversed main joined := by
    intro hreversed
    rw [oriented_of_isReversed hreversed] at hfound
    have hcolumn := column?_eq_of_lookup?_oneText (by decide) hfound.1
    rw [Name.column?_qualify hreversed.1.1] at hcolumn
    exact absurd hcolumn (by decide)
  rw [oriented_of_not_isReversed hkept] at hfound
  have hmain : Name.IsBare main :=
    Name.column?_qualify_eq_iff.mp (column?_eq_of_lookup?_oneText (by decide) hfound.1)
  have hjoined : Name.IsBare joined :=
    Name.column?_qualify_eq_iff.mp (column?_eq_of_lookup?_oneText (by decide) hfound.2)
  refine ⟨?_, hmain, hjoined⟩
  rintro rfl
  exact hkept ⟨⟨hmain, "c", rfl⟩, hmain, "d", rfl⟩

theorem alwaysTies_iff :
    AlwaysTies main joined ↔ main ≠ joined ∧ Name.IsBare main ∧ Name.IsBare joined := by
  constructor
  · exact isBare_of_alwaysTies
  · rintro ⟨hne, hmain, hjoined⟩
    exact alwaysTies_of_isBare hmain hjoined hne

/-- Only a link of the joined table with the main one is turned, and nothing else is done to
it.  A link is turned no further, and one with its left side on the main table is kept, unless
it is one of a table with itself.  Links from the main table to the joined one match the rows
by their columns exactly if these are two tables without a dot in their names. -/
theorem oriented_laws (link : Link) (main joined : String) :
    (link.oriented main joined ≠ link →
      link.IsReversed main joined ∧ link.oriented main joined = link.flip) ∧
    ((link.oriented main joined).oriented main joined = link.oriented main joined ↔
      ¬link.IsLoop main joined) ∧
    (Name.IsOf main link.left →
      (link.oriented main joined = link ↔ ¬link.IsLoop main joined)) ∧
    (AlwaysTies main joined ↔ main ≠ joined ∧ Name.IsBare main ∧ Name.IsBare joined) := by
  refine ⟨?_, oriented_oriented_iff, oriented_of_isOf_iff, alwaysTies_iff⟩
  intro hturned
  by_cases h : link.IsReversed main joined
  · exact ⟨h, oriented_of_isReversed h⟩
  · exact absurd (oriented_of_not_isReversed h) hturned

end Link

/-!
## A table joined with itself

Two members of the crew have a boss on the list, and the third one is the boss of both.
-/

namespace Crew

def members : Table :=
  { name := "crew"
    columns := ["id", "boss", "name"]
    rows := [["1", "", "Ann"], ["2", "1", "Bob"], ["3", "1", "Cal"]].map
      (Table.rowOfTexts ["id", "boss", "name"]) }

def reporting : Link :=
  { left := "crew.boss", right := "crew.id" }

end Crew

/-- Those who have a boss are asked for, and the boss is answered, once for each of them. -/
theorem Link.answer_loop :
    Name.IsOf "crew" Crew.reporting.left ∧
      Crew.reporting.oriented "crew" "crew" ≠ Crew.reporting ∧
      (Crew.reporting.oriented "crew" "crew").oriented "crew" "crew" ≠
        Crew.reporting.oriented "crew" "crew" ∧
      (Crew.members.rows.filter fun row => Crew.members.rows.any fun other =>
          Cell.coerce? (row.get? "boss") == Cell.coerce? (other.get? "id")).map
        (fun row => ResultTable.cellText (row.get? "name")) = ["Bob", "Cal"] ∧
      (answer (Store.empty.put Crew.members).load
          "SELECT crew.name FROM crew JOIN crew ON crew.boss = crew.id").toOption.map
        ResultTable.text = some "crew.name\nAnn\nAnn" :=
  ⟨⟨"boss", rfl⟩, by decide, by decide, by decide +kernel, by decide +kernel⟩

end TableQuery
