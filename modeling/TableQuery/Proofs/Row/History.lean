import Mathlib.Data.List.Induction
import TableQuery.Proofs.Json.RoundTrip

/-!
# Rows and the entries that made them

A row is made by setting one entry after the other, from given entries or from the members of a
JSON object.  What it keeps of them are the names in the order in which they first came, and for
each name the cell of its last entry.  Nothing else is kept, so rows that were made of the same
entries are the same, whichever way they were made.
-/

namespace TableQuery

namespace Entries

variable {entries : List (String × Cell)} {key : String} {cell : Cell}

/-- The cell stands under the key in some entry, and no later entry has the key. -/
def HasLast (entries : List (String × Cell)) (key : String) (cell : Cell) : Prop :=
  ∃ before after, entries = before ++ (key, cell) :: after ∧ key ∉ after.map Prod.fst

theorem hasLast_iff_lookup_reverse :
    HasLast entries key cell ↔ entries.reverse.lookup key = some cell := by
  rw [List.lookup_eq_some_iff]
  constructor
  · rintro ⟨before, after, rfl, hafter⟩
    refine ⟨after.reverse, before.reverse, by simp, ?_⟩
    intro entry hentry
    rw [bne_iff_ne]
    rintro rfl
    exact hafter (List.mem_map_of_mem (List.mem_reverse.mp hentry))
  · rintro ⟨after, before, hreverse, hafter⟩
    refine ⟨before.reverse, after.reverse, ?_, ?_⟩
    · rw [← List.reverse_reverse entries, hreverse]
      simp
    · intro hmem
      rcases List.mem_map.mp hmem with ⟨entry, hentry, rfl⟩
      have hne := hafter entry (List.mem_reverse.mp hentry)
      simp at hne

/-- Setting a cell leaves the entries of all other names as they are, each at its place. -/
theorem getElem?_put {other : String} (h : other ≠ key) (cell : Cell)
    (entries : List (String × Cell)) (i : Nat) (c : Cell) :
    (put key cell entries)[i]? = some (other, c) ↔ entries[i]? = some (other, c) := by
  induction entries generalizing i with
  | nil =>
      cases i with
      | zero =>
          simp [put, Ne.symm h]
      | succ i =>
          simp [put]
  | cons entry entries ih =>
      by_cases hkey : entry.1 = key
      · rw [put, if_pos hkey]
        cases i with
        | zero =>
            have hentry : entry ≠ (other, c) := by
              rintro rfl
              exact h hkey
            simp [Ne.symm h, hentry]
        | succ i =>
            rfl
      · rw [put, if_neg hkey]
        cases i with
        | zero =>
            rfl
        | succ i =>
            exact ih i

end Entries

namespace Row

open Entries

variable {row : Row} {entries : List (String × Cell)} {key : String} {cell : Cell}

/-!
## What a row keeps of its entries
-/

/-- The names of the row are those of the entries in the order in which they first came, and under
each name stands the cell of its last entry. -/
structure Follows (row : Row) (entries : List (String × Cell)) : Prop where
  keys : row.keys = (entries.map Prod.fst).eraseDups
  cells : ∀ key cell, row.get? key = some cell ↔ HasLast entries key cell
  missing : ∀ key, row.get? key = none ↔ key ∉ entries.map Prod.fst

theorem follows_empty : empty.Follows [] where
  keys := rfl
  cells := by
    intro key cell
    rw [hasLast_iff_lookup_reverse]
    rfl
  missing := by
    simp

theorem Follows.insert (h : row.Follows entries) (key : String) (cell : Cell) :
    (row.insert key cell).Follows (entries ++ [(key, cell)]) where
  keys := by
    rw [keys_insert, h.keys, List.map_append, List.map_singleton, eraseDups_concat]
    simp only [List.mem_eraseDups]
  cells := by
    intro name c
    rw [get?_insert, hasLast_iff_lookup_reverse, List.reverse_concat, List.lookup_cons]
    by_cases hname : name = key
    · simp [hname]
    · have hne : (name == key) = false := by simpa using hname
      rw [if_neg hname, hne, h.cells, hasLast_iff_lookup_reverse]
  missing := by
    intro name
    rw [get?_insert, List.map_append, List.mem_append, not_or]
    by_cases hname : name = key
    · simp [hname]
    · rw [if_neg hname, h.missing]
      simp [hname]

theorem follows_ofList (entries : List (String × Cell)) : (ofList entries).Follows entries := by
  induction entries using List.reverseRecOn with
  | nil =>
      exact follows_empty
  | append_singleton entries entry ih =>
      rw [ofList_concat]
      exact ih.insert entry.1 entry.2

theorem entries_eq_map_keys (row : Row) :
    row.entries = row.keys.map fun key => (key, row.getD key) := by
  have hentry : ∀ entry ∈ row.entries, (entry.1, row.getD entry.1) = entry := by
    intro entry hmem
    have hget : row.get? entry.1 = some entry.2 := get?_eq_some_iff.mpr hmem
    rw [getD, hget]
    rfl
  rw [keys, List.map_map]
  exact (List.map_id _).symm.trans (List.map_congr_left fun entry h => (hentry entry h).symm)

/-- Nothing is left of the entries but their first and last places. -/
theorem Follows.eq_ofList (h : row.Follows entries) : row = ofList entries := by
  have hkeys : row.keys = (ofList entries).keys := by
    rw [h.keys, (follows_ofList entries).keys]
  have hget : ∀ key, row.getD key = (ofList entries).getD key := by
    intro key
    rw [getD, getD]
    apply congrArg (Option.getD · Cell.null)
    ext cell
    rw [h.cells, (follows_ofList entries).cells]
  apply ext
  rw [entries_eq_map_keys, entries_eq_map_keys (ofList entries), hkeys]
  apply List.map_congr_left
  intro key _
  rw [hget]

end Row

/-!
## Entries that are read
-/

namespace Json

open Row (entryTokens)

variable {ts rest : List Token} {entries : List (String × Cell)} {row : Row}

theorem eq_token_of_takeCell {token : Token} {cell : Cell}
    (h : takeCell [token] = .ok (cell, rest)) : token = cell.token := by
  unfold takeCell at h
  split at h
  case h_4 =>
      cases h
  all_goals
    rename_i heq
    cases heq
    cases h
    rfl

theorem eq_listed_of_takeEntries (h : takeEntries ts = .ok (entries, rest)) :
    entries ≠ [] ∧ ts = listed (entries.map entryTokens) ++ .closeBrace :: rest := by
  induction ts using takeEntries.induct generalizing entries rest with
  | case1 name value after ih =>
      rw [takeEntries] at h
      rcases bind_eq_ok_iff.mp h with ⟨⟨cell, _⟩, hcell, h⟩
      have hvalue := eq_token_of_takeCell hcell
      dsimp only at h
      split at h
      · rcases bind_eq_ok_iff.mp h with ⟨⟨others, _⟩, hothers, h⟩
        cases h
        rcases ih hothers with ⟨hne, rfl⟩
        rcases List.exists_cons_of_ne_nil hne with ⟨next, others, rfl⟩
        refine ⟨List.cons_ne_nil _ _, ?_⟩
        rw [listed_map_cons_cons, hvalue]
        simp [entryTokens, memberTokens]
      · cases h
        refine ⟨List.cons_ne_nil _ _, ?_⟩
        rw [List.map_singleton, listed_singleton, hvalue]
        simp [entryTokens, memberTokens]
      · cases h
  | case2 ts hnot =>
      unfold takeEntries at h
      split at h
      · exact (hnot _ _ _ rfl).elim
      · cases h

/-- A row is read from the tokens of an object, and it is made of the members of the object in
their order, repeated names included. -/
theorem takeRow_eq_ok_iff :
    takeRow ts = .ok (row, rest) ↔
      ∃ entries, ts = objectTokens (entries.map entryTokens) ++ rest ∧
        row = Row.ofList entries := by
  constructor
  · intro h
    unfold takeRow at h
    split at h
    · cases h
      exact ⟨[], rfl, rfl⟩
    · rcases bind_eq_ok_iff.mp h with ⟨⟨entries, _⟩, hentries, h⟩
      cases h
      refine ⟨entries, ?_, rfl⟩
      rw [(eq_listed_of_takeEntries hentries).2, objectTokens]
      simp
    · cases h
  · rintro ⟨entries, rfl, rfl⟩
    exact takeRow_objectTokens entries rest

theorem readRow_eq_ok_iff {text : String} :
    readRow text = .ok row ↔
      ∃ entries, tokens text = objectTokens (entries.map entryTokens) ∧
        row = Row.ofList entries := by
  rw [readRow, readAll]
  constructor
  · intro h
    split at h
    · cases h
    · rename_i htake
      cases h
      rcases takeRow_eq_ok_iff.mp htake with ⟨entries, htokens, hrow⟩
      rw [List.append_nil] at htokens
      exact ⟨entries, htokens, hrow⟩
    · cases h
  · rintro ⟨entries, htokens, rfl⟩
    have htake := takeRow_objectTokens entries []
    rw [List.append_nil] at htake
    rw [htokens, htake]

end Json

namespace Row

open Json (objectTokens)

variable {row : Row} {entries : List (String × Cell)}

/-!
## Names with a table in front
-/

/-- What is found at a name: the cell at the whole name, or else the one at what stands behind the
first dot of the name. -/
inductive Finds (row : Row) (name : String) : Option Cell → Prop where
  | whole {cell : Cell} : row.get? name = some cell → Finds row name (some cell)
  | bare {before after : List Char} : row.get? name = none →
      name.toList = before ++ '.' :: after → '.' ∉ before →
        Finds row name (row.get? (String.ofList after))
  | nothing : row.get? name = none → '.' ∉ name.toList → Finds row name none

theorem finds_lookup? (row : Row) (name : String) : row.Finds name (row.lookup? name) := by
  rw [lookup?, Name.column?]
  cases hget : row.get? name with
  | some cell =>
      exact Finds.whole hget
  | none =>
      cases hcut : Text.cut? '.' name.toList with
      | none =>
          exact Finds.nothing hget (Text.cut?_eq_none_iff.mp hcut)
      | some parts =>
          rcases Text.cut?_eq_some_iff.mp hcut with ⟨hname, hbefore⟩
          exact Finds.bare hget hname hbefore

theorem Finds.lookup?_eq {name : String} {found : Option Cell} (h : row.Finds name found) :
    row.lookup? name = found := by
  rw [lookup?, Name.column?]
  cases h with
  | whole hget =>
      rw [hget]
      rfl
  | bare hget hname hbefore =>
      rw [hget, Text.cut?_eq_some_iff.mpr ⟨hname, hbefore⟩]
      rfl
  | nothing hget hdot =>
      rw [hget, Text.cut?_eq_none_iff.mpr hdot]
      rfl

/-!
## Rows that are made of entries
-/

/-- The ways in which a row is made of entries. -/
inductive Made : List (String × Cell) → Row → Prop where
  | empty : Made [] Row.empty
  | insert {entries : List (String × Cell)} {row : Row} (h : Made entries row) (key : String)
      (cell : Cell) : Made (entries ++ [(key, cell)]) (row.insert key cell)
  | collect (entries : List (String × Cell)) : Made entries (ofList entries)
  | read {entries : List (String × Cell)} {row : Row} {text : String} :
      Json.tokens text = objectTokens (entries.map entryTokens) →
        Json.readRow text = .ok row → Made entries row

theorem Made.follows (h : Made entries row) : row.Follows entries := by
  induction h with
  | empty =>
      exact follows_empty
  | insert _ key cell ih =>
      exact ih.insert key cell
  | collect entries =>
      exact follows_ofList entries
  | @read entries row text htokens hread =>
      have hrow : Json.readRow text = .ok (ofList entries) :=
        Json.readRow_eq_ok_iff.mpr ⟨entries, htokens, rfl⟩
      rw [hread] at hrow
      cases hrow
      exact follows_ofList entries

/-- A row is made of entries exactly if it has their names in the order in which they first came,
and under each name the cell of the last entry.  Setting one more cell changes no other entry and
moves none. -/
theorem made_iff_follows (entries : List (String × Cell)) (row : Row) :
    (Made entries row ↔ row.Follows entries) ∧
      (∀ text, Json.readRow text = .ok row ↔
        ∃ members, Json.tokens text = objectTokens (members.map entryTokens) ∧
          Made members row) ∧
      (∀ name found, row.lookup? name = found ↔ row.Finds name found) ∧
      ∀ (key : String) (cell : Cell) (other : String) (c : Cell) (i : Nat), other ≠ key →
        ((row.insert key cell).entries[i]? = some (other, c) ↔
          row.entries[i]? = some (other, c)) := by
  refine ⟨⟨Made.follows, ?_⟩, ?_, ?_, ?_⟩
  · intro h
    rw [h.eq_ofList]
    exact Made.collect entries
  · intro text
    rw [Json.readRow_eq_ok_iff]
    constructor
    · rintro ⟨members, htokens, rfl⟩
      exact ⟨members, htokens, Made.collect members⟩
    · rintro ⟨members, htokens, hmade⟩
      exact ⟨members, htokens, hmade.follows.eq_ofList⟩
  · intro name found
    constructor
    · rintro rfl
      exact finds_lookup? row name
    · exact Finds.lookup?_eq
  · intro key cell other c i hother
    exact Entries.getElem?_put hother cell row.entries i c

/-- An object with a name that is repeated, and one more cell that is set in its row. -/
theorem made_iff_follows_repeated :
    let members := [("b", Cell.text "1"), ("a", .null), ("b", .text "x.y")]
    let text := String.ofList (Json.writeObject
      (members.map fun member => Json.writeMember member.1 (Json.writeCell member.2)))
    ∃ row, Json.tokens text = objectTokens (members.map entryTokens) ∧
      Json.readRow text = .ok row ∧ row.Follows members ∧ row.keys = ["b", "a"] ∧
      row.Finds "t.b" (some (.text "x.y")) ∧
      (row.insert "a" (.text "z")).entries[0]? = some ("b", .text "x.y") := by
  intro members text
  have htokens : Json.tokens text = objectTokens (members.map entryTokens) := by
    apply Json.Spells.tokens_eq
    apply Json.spells_writeObject
    exact .cons (Json.spells_writeMember "b" (Json.spells_writeString "1"))
      (.cons (Json.spells_writeMember "a" Json.spells_null)
        (.cons (Json.spells_writeMember "b" (Json.spells_writeString "x.y")) .nil))
  rcases made_iff_follows members (ofList members) with ⟨hmade, hread, hlookup, hkept⟩
  have hfollows := hmade.mp (Made.collect members)
  exact ⟨ofList members, htokens, (hread text).mpr ⟨members, htokens, Made.collect members⟩,
    hfollows, hfollows.keys, (hlookup "t.b" _).mp rfl, (hkept "a" _ "b" _ 0 (by decide)).mpr rfl⟩

end Row
end TableQuery
