import TableQuery.Proofs.Query.Scanning
import TableQuery.Proofs.Row.Placing
import TableQuery.Store

/-!
# The history of a store

A store that starts empty holds what its changes have put into it: under each name the
table that was last created or put there, and behind its rows one row for each later
insertion.  Changes that do not fit leave no trace, and no change reaches another table.
-/

namespace TableQuery

/-!
## Grown tables
-/

namespace Table

/-- The table with a row more for each of the texts given by position. -/
def grown (t : Table) (added : List (List String)) : Table :=
  { t with rows := t.rows ++ added.map (rowOfTexts t.columns) }

@[simp]
theorem grown_nil (t : Table) : t.grown [] = t := by
  simp [grown]

theorem grown_grown (t : Table) (xs ys : List (List String)) :
    (t.grown xs).grown ys = t.grown (xs ++ ys) := by
  simp [grown]

end Table

/-!
## Changes
-/

namespace Change

/-- The name of the table that a change is made to. -/
def table : Change → String
  | create table _ => table
  | insert table _ => table
  | put table => table.name

/-- The table that a change sets up, whatever there was before it. -/
def founded? : Change → Option Table
  | create name columns => some { name, columns, rows := [] }
  | insert _ _ => none
  | put table => some table

/-- The change sets up a table of the name. -/
def Founds (name : String) (c : Change) : Prop :=
  ∃ t, c.founded? = some t ∧ t.name = name

/-- The texts that a change adds as a row to the table of the name. -/
def added? (name : String) : Change → Option (List String)
  | create _ _ => none
  | insert table texts => if table = name then some texts else none
  | put _ => none

theorem name_of_founded? {c : Change} {t : Table} (h : c.founded? = some t) :
    t.name = c.table := by
  cases c with
  | create table columns =>
      cases h
      rfl
  | insert table texts =>
      cases h
  | put table =>
      cases h
      rfl

end Change

namespace Store

variable {s changed : Store} {c : Change} {t : Table} {name : String}

/-- The change fits the store. -/
def Fits (s : Store) (c : Change) : Prop :=
  ∃ changed, s.change c = .ok changed

/-- The changes that fit, each in the store that the ones before it have led to. -/
def fitting (s : Store) : List Change → List Change
  | [] => []
  | c :: cs =>
      match s.change c with
      | .ok changed => c :: changed.fitting cs
      | .error _ => s.fitting cs

/-!
## One change
-/

theorem find?_set (s : Store) (key : String) (t : Table) (name : String) :
    (s.set key t).find? name = if key = name then some t else s.find? name := by
  have hothers : ∀ tables : List (String × Table), key ≠ name →
      (tables.filter fun entry => entry.1 != key).lookup name = tables.lookup name := by
    intro tables hne
    induction tables with
    | nil =>
        rfl
    | cons entry tables ih =>
        by_cases hentry : entry.1 = key
        · have hmiss : (name == entry.1) = false := beq_eq_false_iff_ne.mpr (hentry ▸ Ne.symm hne)
          rw [List.filter_cons_of_neg (by simpa using hentry), ih, List.lookup_cons, hmiss]
        · rw [List.filter_cons_of_pos (by simpa using hentry), List.lookup_cons,
            List.lookup_cons, ih]
  rw [find?, set, List.lookup_cons]
  by_cases h : key = name
  · rw [if_pos h, beq_iff_eq.mpr h.symm]
  · rw [if_neg h, beq_eq_false_iff_ne.mpr (Ne.symm h)]
    exact hothers s.tables h

theorem load_eq_ok_iff : s.load name = .ok t ↔ s.find? name = some t := by
  unfold load
  cases s.find? name with
  | none =>
      simp
  | some found =>
      simp

theorem load_eq_error_iff {e : QueryError} :
    s.load name = .error e ↔ e = .noTable name ∧ s.find? name = none := by
  unfold load
  cases s.find? name with
  | none =>
      simp [eq_comm]
  | some found =>
      simp

/-- What a change that fits the store puts into it. -/
inductive Places (s : Store) : Change → Table → Prop
  | create {name : String} {columns : List String} (hnew : s.find? name = none) :
      Places s (.create name columns) { name, columns, rows := [] }
  | insert {name : String} {texts : List String} {t : Table} (ht : s.find? name = some t)
      (hlength : texts.length = t.columns.length) :
      Places s (.insert name texts)
        { t with rows := t.rows ++ [Table.rowOfTexts t.columns texts] }
  | put {t : Table} : Places s (.put t) t

theorem change_eq_ok_iff :
    s.change c = .ok changed ↔ ∃ t, s.Places c t ∧ changed = s.set c.table t := by
  constructor
  · intro h
    cases c with
    | create name columns =>
        rw [change, create] at h
        split at h
        · cases h
        · rename_i hnew
          cases h
          exact ⟨_, .create hnew, rfl⟩
    | insert name texts =>
        rw [change, insert] at h
        split at h
        · cases h
        · rename_i t ht
          split at h
          · rename_i hlength
            cases h
            exact ⟨_, .insert ht hlength, rfl⟩
          · cases h
    | put t =>
        cases h
        exact ⟨t, .put, rfl⟩
  · rintro ⟨t, hplaces, rfl⟩
    cases hplaces with
    | create hnew =>
        rw [change, create, hnew]
        rfl
    | insert ht hlength =>
        rw [change, insert, ht]
        exact if_pos hlength
    | put =>
        rfl

theorem fits_iff_exists_places : s.Fits c ↔ ∃ t, s.Places c t := by
  constructor
  · rintro ⟨changed, h⟩
    rcases change_eq_ok_iff.mp h with ⟨t, ht, _⟩
    exact ⟨t, ht⟩
  · rintro ⟨t, ht⟩
    exact ⟨s.set c.table t, change_eq_ok_iff.mpr ⟨t, ht, rfl⟩⟩

theorem apply_of_ok (h : s.change c = .ok changed) : s.apply c = changed := by
  rw [apply, h]

theorem apply_of_not_fits (h : ¬s.Fits c) : s.apply c = s := by
  rw [apply]
  cases hchange : s.change c with
  | ok changed => exact absurd ⟨changed, hchange⟩ h
  | error e => rfl

/-- A change sets up tables only under names that it founds, and none disappears. -/
theorem find?_apply_eq_none_iff :
    (s.apply c).find? name = none ↔ s.find? name = none ∧ ¬c.Founds name := by
  by_cases hfits : s.Fits c
  · rcases hfits with ⟨changed, hchange⟩
    rcases change_eq_ok_iff.mp hchange with ⟨t, hplaces, rfl⟩
    rw [apply_of_ok hchange, find?_set]
    cases hplaces with
    | @create table columns hnew =>
        by_cases h : table = name
        · simp [h, Change.table, Change.Founds, Change.founded?]
        · simp [h, Change.table, Change.Founds, Change.founded?]
    | @insert table texts t ht hlength =>
        by_cases h : table = name
        · simp [h, Change.table, h ▸ ht]
        · simp [h, Change.table, Change.Founds, Change.founded?]
    | put =>
        by_cases h : t.name = name
        · simp [h, Change.table, Change.Founds, Change.founded?]
        · simp [h, Change.table, Change.Founds, Change.founded?]
  · rw [apply_of_not_fits hfits]
    constructor
    · intro hnone
      refine ⟨hnone, ?_⟩
      -- What does not fit and is no insertion is a creation under a name that is taken.
      rintro ⟨t, ht, rfl⟩
      apply hfits
      rw [fits_iff_exists_places]
      cases c with
      | create table columns =>
          cases ht
          exact ⟨_, .create hnone⟩
      | insert table texts =>
          cases ht
      | put table =>
          exact ⟨table, .put⟩
    · exact And.left

theorem load_apply_of_ne (h : c.table ≠ name) : (s.apply c).load name = s.load name := by
  have hfind : (s.apply c).find? name = s.find? name := by
    by_cases hfits : s.Fits c
    · rcases hfits with ⟨changed, hchange⟩
      rcases change_eq_ok_iff.mp hchange with ⟨t, hplaces, rfl⟩
      rw [apply_of_ok hchange, find?_set, if_neg h]
    · rw [apply_of_not_fits hfits]
  rw [load, load, hfind]

theorem fits_create_iff {columns : List String} :
    s.Fits (.create name columns) ↔ s.find? name = none := by
  rw [fits_iff_exists_places]
  constructor
  · rintro ⟨t, hplaces⟩
    cases hplaces with
    | create hnew => exact hnew
  · intro hnew
    exact ⟨_, .create hnew⟩

theorem fits_insert_iff {texts : List String} :
    s.Fits (.insert name texts) ↔
      ∃ t, s.load name = .ok t ∧ texts.length = t.columns.length := by
  rw [fits_iff_exists_places]
  constructor
  · rintro ⟨t, hplaces⟩
    cases hplaces with
    | insert ht hlength => exact ⟨_, load_eq_ok_iff.mpr ht, hlength⟩
  · rintro ⟨t, ht, hlength⟩
    exact ⟨_, .insert (load_eq_ok_iff.mp ht) hlength⟩

/-!
## Keys and names
-/

/-- Every table stands under its own name. -/
def IsKeyed (s : Store) : Prop :=
  ∀ key t, s.find? key = some t → t.name = key

theorem isKeyed_empty : empty.IsKeyed := by
  intro key t h
  cases h

theorem IsKeyed.set (h : s.IsKeyed) (t : Table) : (s.set t.name t).IsKeyed := by
  intro key found hfound
  rw [find?_set] at hfound
  split at hfound
  · rename_i hkey
    cases hfound
    exact hkey
  · exact h key found hfound

/-- What is placed under the name of a change has this name: an insertion keeps the name of the
table that is there. -/
theorem IsKeyed.name_eq (h : s.IsKeyed) (hplaces : s.Places c t) : t.name = c.table := by
  cases hplaces with
  | create hnew =>
      rfl
  | @insert key _ old hold hlength =>
      have hname : old.name = key := h key old hold
      exact hname
  | put =>
      rfl

theorem IsKeyed.apply (h : s.IsKeyed) (c : Change) : (s.apply c).IsKeyed := by
  by_cases hfits : s.Fits c
  · rcases hfits with ⟨changed, hchange⟩
    rcases change_eq_ok_iff.mp hchange with ⟨t, hplaces, rfl⟩
    rw [apply_of_ok hchange, ← h.name_eq hplaces]
    exact h.set t
  · rw [apply_of_not_fits hfits]
    exact h

theorem IsKeyed.applyAll (h : s.IsKeyed) (changes : List Change) :
    (s.applyAll changes).IsKeyed := by
  induction changes generalizing s with
  | nil =>
      exact h
  | cons c changes ih =>
      exact ih (h.apply c)

/-!
## Many changes
-/

theorem find?_applyAll_eq_none_iff (s : Store) (changes : List Change) :
    (s.applyAll changes).find? name = none ↔
      s.find? name = none ∧ ∀ c ∈ changes, ¬c.Founds name := by
  induction changes generalizing s with
  | nil =>
      simp [applyAll]
  | cons c changes ih =>
      rw [applyAll, List.foldl_cons, List.forall_mem_cons, ← and_assoc,
        ← find?_apply_eq_none_iff]
      exact ih (s.apply c)

/-- The changes that fit lead where all changes lead, and each of them fits in its turn. -/
theorem foldlM_fitting (s : Store) (changes : List Change) :
    (s.fitting changes).foldlM change s = .ok (s.applyAll changes) := by
  induction changes generalizing s with
  | nil =>
      rfl
  | cons c changes ih =>
      rw [fitting, applyAll, List.foldl_cons, apply]
      cases hchange : s.change c with
      | ok changed =>
          rw [List.foldlM_cons, hchange]
          exact ih changed
      | error e =>
          exact ih s

theorem applyAll_of_foldlM {changes : List Change}
    (h : changes.foldlM change s = .ok changed) : s.applyAll changes = changed := by
  induction changes generalizing s with
  | nil =>
      cases h
      rfl
  | cons c changes ih =>
      rw [List.foldlM_cons] at h
      cases hchange : s.change c with
      | ok next =>
          rw [hchange] at h
          rw [applyAll, List.foldl_cons, apply_of_ok hchange]
          exact ih h
      | error e =>
          rw [hchange] at h
          cases h

/-- A change that does not set the table up anew leaves it as it is or adds a row to it. -/
theorem find?_set_of_places (hplaces : s.Places c t) {old : Table}
    (hold : s.find? name = some old) (hfounds : ¬c.Founds name) :
    (s.set c.table t).find? name = some (old.grown (c.added? name).toList) ∧
      ∀ texts ∈ (c.added? name).toList, texts.length = old.columns.length := by
  rw [find?_set]
  cases hplaces with
  | @create table columns hnew =>
      have hne : table ≠ name := by
        rintro rfl
        exact hfounds ⟨_, rfl, rfl⟩
      rw [Change.table, if_neg hne, hold]
      simp [Change.added?]
  | @insert table texts t ht hlength =>
      by_cases h : table = name
      · subst h
        rw [ht, Option.some.injEq] at hold
        subst hold
        rw [Change.table, if_pos rfl]
        simpa [Change.added?, Table.grown] using hlength
      · rw [Change.table, if_neg h, hold]
        simp [Change.added?, h]
  | put =>
      have hne : t.name ≠ name := by
        intro h
        exact hfounds ⟨t, rfl, h⟩
      rw [Change.table, if_neg hne, hold]
      simp [Change.added?]

theorem find?_of_foldlM {changes : List Change}
    (hfit : changes.foldlM change s = .ok changed) (ht : s.find? name = some t)
    (hfounds : ∀ c ∈ changes, ¬c.Founds name) :
    changed.find? name = some (t.grown (changes.filterMap (Change.added? name))) ∧
      ∀ texts ∈ changes.filterMap (Change.added? name),
        texts.length = t.columns.length := by
  induction changes generalizing s t with
  | nil =>
      cases hfit
      simpa using ht
  | cons c changes ih =>
      rw [List.forall_mem_cons] at hfounds
      rw [List.foldlM_cons] at hfit
      rcases bind_eq_ok_iff.mp hfit with ⟨next, hchange, hrest⟩
      rcases change_eq_ok_iff.mp hchange with ⟨given, hplaces, rfl⟩
      rcases find?_set_of_places hplaces ht hfounds.1 with ⟨hnext, hlength⟩
      rcases ih hrest hnext hfounds.2 with ⟨hlast, hlengths⟩
      have hadded : (c :: changes).filterMap (Change.added? name) =
          (c.added? name).toList ++ changes.filterMap (Change.added? name) := by
        cases hc : c.added? name with
        | none => rw [List.filterMap_cons_none hc]; rfl
        | some texts => rw [List.filterMap_cons_some hc]; rfl
      rw [hadded, ← Table.grown_grown]
      refine ⟨hlast, ?_⟩
      rw [List.forall_mem_append]
      exact ⟨hlength, hlengths⟩

theorem exists_last_of_exists {α : Type} {p : α → Prop} {xs : List α} (h : ∃ x ∈ xs, p x) :
    ∃ before x after, xs = before ++ x :: after ∧ p x ∧ ∀ y ∈ after, ¬p y := by
  induction xs with
  | nil =>
      simp at h
  | cons x xs ih =>
      by_cases hrest : ∃ y ∈ xs, p y
      · rcases ih hrest with ⟨before, y, after, rfl, hy, hafter⟩
        exact ⟨x :: before, y, after, rfl, hy, hafter⟩
      · have hx : p x := by
          simpa [hrest] using h
        refine ⟨[], x, xs, rfl, hx, ?_⟩
        intro y hy hpy
        exact hrest ⟨y, hy, hpy⟩

theorem Places.eq_of_founded? (hplaces : s.Places c t) {founded : Table}
    (h : c.founded? = some founded) : t = founded := by
  cases hplaces with
  | create hnew =>
      cases h
      rfl
  | insert ht hlength =>
      cases h
  | put =>
      cases h
      rfl

/-- Behind the last change that founds a table, the table holds what was founded and a row
for each insertion since. -/
theorem find?_of_founded {before after : List Change}
    (hfit : (before ++ c :: after).foldlM change s = .ok changed) (hc : c.founded? = some t)
    (hafter : ∀ later ∈ after, ¬later.Founds t.name) :
    changed.find? t.name = some (t.grown (after.filterMap (Change.added? t.name))) ∧
      ∀ texts ∈ after.filterMap (Change.added? t.name),
        texts.length = t.columns.length := by
  rw [List.foldlM_append] at hfit
  rcases bind_eq_ok_iff.mp hfit with ⟨first, _, hrest⟩
  rw [List.foldlM_cons] at hrest
  rcases bind_eq_ok_iff.mp hrest with ⟨next, hchange, hlast⟩
  rcases change_eq_ok_iff.mp hchange with ⟨given, hplaces, rfl⟩
  have hgiven : given = t := hplaces.eq_of_founded? hc
  subst hgiven
  have hfound : (first.set c.table given).find? given.name = some given := by
    rw [find?_set, if_pos (Change.name_of_founded? hc).symm]
  exact find?_of_foldlM hlast hfound hafter

theorem exists_mem_fitting {changes : List Change}
    (h : ∃ c ∈ changes, c.Founds name) : ∃ c ∈ empty.fitting changes, c.Founds name := by
  by_contra hnone
  -- A store without any founding that fits has no table of the name.
  have hfitting : ∀ c ∈ empty.fitting changes, ¬c.Founds name := by
    intro c hc hfounds
    exact hnone ⟨c, hc, hfounds⟩
  have happlied := applyAll_of_foldlM (foldlM_fitting empty changes)
  have hfind := (find?_applyAll_eq_none_iff empty (empty.fitting changes)).mpr
    ⟨rfl, hfitting⟩
  rw [happlied, find?_applyAll_eq_none_iff] at hfind
  rcases h with ⟨c, hc, hfounds⟩
  exact hfind.2 c hc hfounds

/-- A store that starts empty has a table exactly under the names that were created or
put, each as the last of these changes that fits has set it up, with a row more for each
insertion that fits since, and the name of each is the key that it stands under.  A change that does not fit changes nothing, one that fits
changes the table of its name only, and whether it fits is decided by that table. -/
theorem load_applyAll (changes : List Change) (name : String) :
    let s := empty.applyAll changes
    (∀ e, s.load name = .error e ↔
      e = .noTable name ∧ ∀ c ∈ changes, ¬c.Founds name) ∧
    ((∃ c ∈ changes, c.Founds name) →
      ∃ before c after t, empty.fitting changes = before ++ c :: after ∧
        c.founded? = some t ∧ t.name = name ∧ (∀ later ∈ after, ¬later.Founds name) ∧
        s.load name = .ok { t with
          rows := t.rows ++
            (after.filterMap (Change.added? name)).map (Table.rowOfTexts t.columns) } ∧
        ∀ texts ∈ after.filterMap (Change.added? name),
          Table.IsFilled t.columns texts (Table.rowOfTexts t.columns texts)) ∧
    (∀ key t, s.load key = .ok t → t.name = key) ∧
    (∀ columns, s.Fits (.create name columns) ↔ ∀ c ∈ changes, ¬c.Founds name) ∧
    (∀ texts, s.Fits (.insert name texts) ↔
      ∃ t, s.load name = .ok t ∧ texts.length = t.columns.length) ∧
    (∀ t, s.Fits (.put t)) ∧
    (∀ c, ¬s.Fits c → s.apply c = s) ∧
    ∀ c, c.table ≠ name → (s.apply c).load name = s.load name := by
  intro s
  have hnone : s.find? name = none ↔ ∀ c ∈ changes, ¬c.Founds name := by
    rw [find?_applyAll_eq_none_iff]
    exact and_iff_right rfl
  refine ⟨?_, ?_, ?_, ?_, ?_, ?_, ?_, ?_⟩
  · intro e
    rw [load_eq_error_iff, hnone]
  · intro hfounds
    rcases exists_last_of_exists (exists_mem_fitting hfounds) with
      ⟨before, c, after, hsplit, ⟨t, hc, rfl⟩, hafter⟩
    have hfit : (before ++ c :: after).foldlM change empty = .ok s := by
      rw [← hsplit]
      exact foldlM_fitting empty changes
    rcases find?_of_founded hfit hc hafter with ⟨hfind, hlengths⟩
    refine ⟨before, c, after, t, hsplit, hc, rfl, hafter, load_eq_ok_iff.mpr hfind, ?_⟩
    intro texts htexts
    exact Table.isFilled_rowOfTexts (hlengths texts htexts)
  · intro key t ht
    exact isKeyed_empty.applyAll changes key t (load_eq_ok_iff.mp ht)
  · intro columns
    rw [fits_create_iff, hnone]
  · intro texts
    exact fits_insert_iff
  · intro t
    exact ⟨s.put t, rfl⟩
  · intro c hfits
    exact apply_of_not_fits hfits
  · intro c hne
    exact load_apply_of_ne hne

example :
    let changes : List Change :=
      [.create "t" ["a", "b", "a"], .insert "t" ["1", "2", "3"], .create "t" [],
        .create "u" ["c"], .insert "t" ["4"], .insert "u" ["5"]]
    let texts := fun name => ((empty.applyAll changes).load name).toOption.map fun t =>
      t.rows.map fun row => row.entries.map fun entry => (entry.1, entry.2.display)
    (empty.fitting changes).map Change.table = ["t", "t", "u", "u"] ∧
      texts "t" = some [[("a", "3"), ("b", "2")]] ∧ texts "u" = some [[("c", "5")]] := by
  decide +kernel

end Store
end TableQuery
