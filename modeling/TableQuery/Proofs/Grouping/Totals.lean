import TableQuery.Proofs.Grouping.Summary

/-!
# Totals of groups

Grouping deals the rows out: each of them is in exactly one group.  What is counted, summed up
or compared in the groups comes together to what it is in all rows, however the groups
interleave.
-/

namespace TableQuery
namespace Grouping

open Decimal (isFinite value total AddsExactly SumsTo)

/-!
## Rows dealt out to groups
-/

/-- The rows of each group, in the order of the groups. -/
def groupsOf (keyOf : Row → String) (rows : List Row) : List (List Row) :=
  (firstKeys keyOf rows).map fun k => rowsOf keyOf k rows

theorem flatten_groupsOf_perm (keyOf : Row → String) (rows : List Row) :
    (groupsOf keyOf rows).flatten.Perm rows := by
  rw [groupsOf, ← List.flatMap_def]
  apply flatMap_rowsOf_perm (nodup_firstKeys keyOf rows)
  intro row hrow
  exact mem_firstKeys.mpr ⟨row, hrow, rfl⟩

/-- The rows show these cells under the label of the field. -/
def Shows (rows : List Row) (field : Field) (cells : List Cell) : Prop :=
  rows.map (fun row => row.get? field.label) = cells.map some

theorem shows_groupRows {fields : List Field} (h : Field.AreToldApart fields) {field : Field}
    (hfield : field ∈ fields) (groupBy : Option (List String)) (isSummary : Bool)
    (rows : List Row) :
    Shows (groupRows groupBy isSummary fields rows) field
      ((groupsOf (key groupBy isSummary) rows).map fun group => cellIn group field) := by
  rw [Shows, groupRows_eq_map, groupsOf, List.map_map, List.map_map, List.map_map]
  apply List.map_congr_left
  intro k _
  exact get?_summary h hfield _

section Parts

variable {parts : List (List Row)} {rows : List Row}

theorem sum_length (h : parts.flatten.Perm rows) : (parts.map List.length).sum = rows.length := by
  rw [← List.length_flatten, h.length_eq]

theorem sum_presentCount (h : parts.flatten.Perm rows) (column : String) :
    (parts.map (presentCount column)).sum = presentCount column rows := by
  rw [presentCount, ← h.countP_eq, List.countP_flatten]
  rfl

theorem flatten_readings_perm (h : parts.flatten.Perm rows) (column : String) :
    (parts.map (readings column)).flatten.Perm (readings column rows) := by
  have hflatten : (parts.map (readings column)).flatten = readings column parts.flatten := by
    rw [readings, cellsOf, List.filterMap_flatten, List.filterMap_flatten, List.map_map]
    rfl
  rw [hflatten]
  exact (h.filterMap _).filterMap _

end Parts

/-!
## Extreme numbers of groups
-/

/-- The bound is equal to an extreme one of those that there are, and there is none exactly if
there is none of them. -/
structure IsExtremeOf (before : Float → Float → Prop) (bounds : List (Option Float))
    (bound : Option Float) : Prop where
  finite : ∀ y ∈ bounds.reduceOption, isFinite y = true
  eq_none_iff : bound = none ↔ ∀ b ∈ bounds, b = none
  exists_beq : ∀ x, bound = some x →
    ∃ y, IsExtreme before bounds.reduceOption (some y) ∧ (x == y) = true

section Extremes

variable {before : Float → Float → Prop} {rank : Float → ℚ} {xs : List Float}
  {bound : Option Float}

theorem IsExtreme.eq_none_iff (h : IsExtreme before xs bound) : bound = none ↔ xs = [] := by
  cases bound with
  | none =>
      exact ⟨fun _ => h, fun _ => rfl⟩
  | some x =>
      constructor
      · intro hnone
        cases hnone
      · intro hnil
        rw [hnil] at h
        cases h.1

theorem IsExtreme.rank_le (hrank : IsRanked before rank)
    (hfinite : ∀ y ∈ xs, isFinite y = true) {x y : Float} (h : IsExtreme before xs (some x))
    (hy : y ∈ xs) : rank x ≤ rank y := by
  have hnot := h.2 y hy
  rw [hrank.before_iff y x (hfinite y hy) (hfinite x h.1)] at hnot
  exact not_lt.mp hnot

/-- The extreme numbers of parts have the extreme number of the whole among them. -/
theorem IsExtreme.isExtremeOf_map {α : Type} {parts : List α} {numbers : α → List Float}
    {boundOf : α → Option Float} (hrank : IsRanked before rank)
    (hfinite : ∀ y ∈ xs, isFinite y = true) (hperm : (parts.map numbers).flatten.Perm xs)
    (hparts : ∀ part ∈ parts, IsExtreme before (numbers part) (boundOf part))
    (h : IsExtreme before xs bound) : IsExtremeOf before (parts.map boundOf) bound := by
  have hmem : ∀ part ∈ parts, ∀ y ∈ numbers part, y ∈ xs := by
    intro part hpart y hy
    exact hperm.subset (List.mem_flatten.mpr ⟨_, List.mem_map_of_mem hpart, hy⟩)
  have hbounds : ∀ y ∈ (parts.map boundOf).reduceOption,
      ∃ part ∈ parts, boundOf part = some y ∧ y ∈ numbers part := by
    intro y hy
    rcases List.mem_map.mp (List.reduceOption_mem_iff.mp hy) with ⟨part, hpart, hy⟩
    have hextreme := hparts part hpart
    rw [hy] at hextreme
    exact ⟨part, hpart, hy, hextreme.1⟩
  have hboundsFinite : ∀ y ∈ (parts.map boundOf).reduceOption, isFinite y = true := by
    intro y hy
    rcases hbounds y hy with ⟨part, hpart, _, hy⟩
    exact hfinite y (hmem part hpart y hy)
  refine ⟨hboundsFinite, ?_, ?_⟩
  · rw [h.eq_none_iff, ← List.length_eq_zero_iff, ← hperm.length_eq, List.length_eq_zero_iff,
      List.flatten_eq_nil_iff, List.forall_mem_map, List.forall_mem_map]
    exact forall₂_congr fun part hpart => (hparts part hpart).eq_none_iff.symm
  · intro x hx
    subst hx
    -- The part with the number has an extreme one too, and neither is before the other.
    rcases List.mem_flatten.mp (hperm.symm.subset h.1) with ⟨ys, hys, hxys⟩
    rcases List.mem_map.mp hys with ⟨part, hpart, rfl⟩
    have hextreme := hparts part hpart
    cases hbound : boundOf part with
    | none =>
        rw [hextreme.eq_none_iff.mp hbound] at hxys
        cases hxys
    | some y =>
        rw [hbound] at hextreme
        have hpartFinite : ∀ z ∈ numbers part, isFinite z = true := by
          intro z hz
          exact hfinite z (hmem part hpart z hz)
        have hy := hmem part hpart y hextreme.1
        have heq : rank x = rank y :=
          le_antisymm (h.rank_le hrank hfinite hy) (hextreme.rank_le hrank hpartFinite hxys)
        refine ⟨y, ⟨?_, ?_⟩, (hrank.beq_iff x y (hfinite x h.1) (hfinite y hy)).mpr heq⟩
        · rw [List.reduceOption_mem_iff, ← hbound]
          exact List.mem_map_of_mem hpart
        · intro z hz
          rcases hbounds z hz with ⟨other, hother, _, hzother⟩
          have hz := hmem other hother z hzother
          rw [hrank.before_iff z y (hfinite z hz) (hfinite y hy), ← heq]
          exact (h.rank_le hrank hfinite hz).not_gt

end Extremes

/-!
## Totals
-/

/-- The field has numbers in the groups and in the whole: those of the groups sum up to that of
the whole. -/
def AddsUp (field : Field) (groups : List Row) (whole : Row) : Prop :=
  ∃ xs x, Shows groups field (xs.map .number) ∧ whole.get? field.label = some (.number x) ∧
    SumsTo xs x

/-- The field has a number or is null in the groups and in the whole: what it has in the whole
is an extreme one of what it has in the groups. -/
def PicksExtreme (before : Float → Float → Prop) (field : Field) (groups : List Row)
    (whole : Row) : Prop :=
  ∃ bounds bound, Shows groups field (bounds.map cellOf) ∧
    whole.get? field.label = some (cellOf bound) ∧ IsExtremeOf before bounds bound

section Totals

variable {fields wholeFields : List Field} {field : Field} {rows : List Row}

theorem AddsUp.of_cellIn (hfields : Field.AreToldApart fields)
    (hwholeFields : Field.AreToldApart wholeFields) (hfield : field ∈ fields)
    (hwhole : field ∈ wholeFields) {numberOf : List Row → Float}
    (hcell : ∀ rows, cellIn rows field = .number (numberOf rows))
    {groupBy : Option (List String)} {isSummary : Bool}
    (hsum : SumsTo ((groupsOf (key groupBy isSummary) rows).map numberOf) (numberOf rows)) :
    AddsUp field (groupRows groupBy isSummary fields rows) (summary rows wholeFields) := by
  have hshows := shows_groupRows hfields hfield groupBy isSummary rows
  rw [funext hcell] at hshows
  refine ⟨_, _, ?_, ?_, hsum⟩
  · rw [List.map_map]
    exact hshows
  · rw [get?_summary hwholeFields hwhole, hcell]

theorem PicksExtreme.of_cellIn (hfields : Field.AreToldApart fields)
    (hwholeFields : Field.AreToldApart wholeFields) (hfield : field ∈ fields)
    (hwhole : field ∈ wholeFields) {boundOf : List Row → Option Float}
    (hcell : ∀ rows, cellIn rows field = cellOf (boundOf rows))
    {before : Float → Float → Prop} {rank : Float → ℚ} (hrank : IsRanked before rank)
    {column : String} (hextreme : ∀ rows, IsExtreme before (readings column rows) (boundOf rows))
    (groupBy : Option (List String)) (isSummary : Bool) :
    PicksExtreme before field (groupRows groupBy isSummary fields rows)
      (summary rows wholeFields) := by
  have hshows := shows_groupRows hfields hfield groupBy isSummary rows
  rw [funext hcell] at hshows
  have hperm := flatten_groupsOf_perm (key groupBy isSummary) rows
  refine ⟨_, _, ?_, ?_, (hextreme rows).isExtremeOf_map hrank isFinite_of_mem_readings
    (flatten_readings_perm hperm column) fun group _ => hextreme group⟩
  · rw [List.map_map]
    exact hshows
  · rw [get?_summary hwholeFields hwhole, hcell]

/-- What fields ask of groups comes together to what they ask of all rows, if they are asked of
both: counts sum up to the count of all, and so do sums of integers as long as the magnitudes
of these do not sum up to more than `2 ^ 53`; the least and the greatest number are those among
the ones of the groups. -/
theorem groupRows_totals {rows : List Row} (hlength : rows.length ≤ 2 ^ 53)
    (groupBy : Option (List String)) (isSummary : Bool) (texts wholeTexts : List String)
    (c : String) :
    let fields := texts.map Field.ofText
    let wholeFields := wholeTexts.map Field.ofText
    let groups := groupRows groupBy isSummary fields rows
    let whole := summary rows wholeFields
    let IsAsked := fun field => field ∈ fields ∧ field ∈ wholeFields
    (IsAsked (.aggregate .count .star) →
      AddsUp (.aggregate .count .star) groups whole ∧
        whole.get? (Field.aggregate .count .star).label =
          some (.number (Float.ofNat rows.length)) ∧
        value (Float.ofNat rows.length) = rows.length) ∧
      (IsAsked (.aggregate .count (.column c)) →
        AddsUp (.aggregate .count (.column c)) groups whole) ∧
      (IsAsked (.aggregate .sum (.column c)) →
        (∀ x ∈ readings c rows, ∃ k : Int, value x = k) →
        ((readings c rows).map fun x => |value x|).sum ≤ 2 ^ 53 →
        AddsUp (.aggregate .sum (.column c)) groups whole) ∧
      (IsAsked (.aggregate .min (.column c)) →
        PicksExtreme (fun x y => x < y) (.aggregate .min (.column c)) groups whole) ∧
      (IsAsked (.aggregate .max (.column c)) →
        PicksExtreme (fun x y => y < x) (.aggregate .max (.column c)) groups whole) := by
  intro fields wholeFields groups whole IsAsked
  have hfields : Field.AreToldApart fields := Field.areToldApart_ofText texts
  have hwholeFields : Field.AreToldApart wholeFields := Field.areToldApart_ofText wholeTexts
  have hperm := flatten_groupsOf_perm (key groupBy isSummary) rows
  refine ⟨?_, ?_, ?_, ?_, ?_⟩
  · intro hasked
    have hsum := Decimal.sumsTo_ofNat (sum_length hperm) hlength
    rw [List.map_map] at hsum
    exact ⟨AddsUp.of_cellIn hfields hwholeFields hasked.1 hasked.2 (fun _ => rfl) hsum,
      get?_summary hwholeFields hasked.2 rows, (Decimal.value_ofNat hlength).2⟩
  · intro hasked
    have hsum := Decimal.sumsTo_ofNat (sum_presentCount hperm c)
      (List.countP_le_length.trans hlength)
    rw [List.map_map] at hsum
    exact AddsUp.of_cellIn hfields hwholeFields hasked.1 hasked.2 (fun _ => rfl) hsum
  · intro hasked hinteger hbounded
    have hexact : AddsExactly (readings c rows) := ⟨isFinite_of_mem_readings, hinteger, hbounded⟩
    have hsum := hexact.sumsTo_map_total (flatten_readings_perm hperm c)
    rw [List.map_map] at hsum
    exact AddsUp.of_cellIn hfields hwholeFields hasked.1 hasked.2
      (fun group => congrArg Cell.number (Tally.holds_ofRows rfl group).sum) hsum
  · intro hasked
    exact PicksExtreme.of_cellIn hfields hwholeFields hasked.1 hasked.2 (fun _ => rfl) isRanked_lt
      (fun group => (Tally.holds_ofRows rfl group).least) groupBy isSummary
  · intro hasked
    exact PicksExtreme.of_cellIn hfields hwholeFields hasked.1 hasked.2 (fun _ => rfl) isRanked_gt
      (fun group => (Tally.holds_ofRows rfl group).greatest) groupBy isSummary

/-- Two groups interleave, and a third one has no number. -/
theorem groupRows_totals_interleaved :
    let rows := [Row.ofList [("g", .text "x"), ("a", .text "-4")],
      Row.ofList [("g", .text "y"), ("a", .text "2")],
      Row.ofList [("g", .text "z"), ("a", .text "inf")],
      Row.ofList [("g", .text "x"), ("a", .text " 3 ")], Row.ofList [("g", .text "y")]]
    let texts := ["g", "count(*)", "count(a)", "sum(a)", "min(a)", "max(a)"]
    let groups := groupRows (some ["g"]) true (texts.map Field.ofText) rows
    let whole := summary rows (texts.map Field.ofText)
    rows.length ≤ 2 ^ 53 ∧ (∀ x ∈ readings "a" rows, ∃ k : Int, value x = k) ∧
      ((readings "a" rows).map fun x => |value x|).sum ≤ 2 ^ 53 ∧ groups.length = 3 ∧
      AddsUp (.aggregate .count .star) groups whole ∧
      AddsUp (.aggregate .count (.column "a")) groups whole ∧
      AddsUp (.aggregate .sum (.column "a")) groups whole ∧
      PicksExtreme (fun x y => x < y) (.aggregate .min (.column "a")) groups whole ∧
      PicksExtreme (fun x y => y < x) (.aggregate .max (.column "a")) groups whole := by
  intro rows texts groups whole
  have hlength : rows.length ≤ 2 ^ 53 := by decide
  have hreadings : readings "a" rows = [-4, 2, 3].map Float.ofInt := rfl
  have hvalue : ∀ k ∈ [-4, 2, 3], value (Float.ofInt k) = k := by
    intro k hk
    apply (Decimal.value_ofInt _).2
    revert k
    decide
  have hinteger : ∀ x ∈ readings "a" rows, ∃ k : Int, value x = k := by
    rw [hreadings, List.forall_mem_map]
    intro k hk
    exact ⟨k, hvalue k hk⟩
  have hbounded : ((readings "a" rows).map fun x => |value x|).sum ≤ 2 ^ 53 := by
    rw [hreadings, List.map_map]
    have habs : [-4, 2, 3].map ((fun x => |value x|) ∘ Float.ofInt) =
        [-4, 2, 3].map fun k : Int => |(k : ℚ)| := by
      apply List.map_congr_left
      intro k hk
      exact congrArg abs (hvalue k hk)
    rw [habs]
    norm_num
  rcases groupRows_totals hlength (some ["g"]) true texts texts "a" with
    ⟨hcount, hpresent, hsum, hleast, hgreatest⟩
  refine ⟨hlength, hinteger, hbounded, by decide +kernel, (hcount ?_).1, hpresent ?_,
    hsum ?_ hinteger hbounded, hleast ?_, hgreatest ?_⟩ <;> decide +kernel

end Totals

end Grouping
end TableQuery
