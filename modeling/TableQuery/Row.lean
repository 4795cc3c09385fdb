import TableQuery.Cell
import TableQuery.Name

/-!
# Rows

A row maps names to cells and remembers the order in which the names came.
Setting a name that is present keeps its place and replaces its cell, so no name
occurs twice.
-/

namespace TableQuery

namespace Entries

/-- Sets the cell at `key`, in place if the key is present and at the end if not. -/
def put (key : String) (cell : Cell) : List (String × Cell) → List (String × Cell)
  | [] => [(key, cell)]
  | entry :: rest =>
      if entry.1 = key then (key, cell) :: rest else entry :: put key cell rest

theorem keys_put (key : String) (cell : Cell) (entries : List (String × Cell)) :
    (put key cell entries).map Prod.fst =
      if key ∈ entries.map Prod.fst then
        entries.map Prod.fst
      else
        entries.map Prod.fst ++ [key] := by
  induction entries with
  | nil =>
      simp [put]
  | cons entry rest ih =>
      by_cases h : entry.1 = key
      · simp [put, h]
      · have hne : ¬ key = entry.1 := fun heq => h heq.symm
        simp only [put, if_neg h, List.map_cons, ih, List.mem_cons, hne, false_or]
        split <;> simp

theorem nodup_keys_put {key : String} {cell : Cell} {entries : List (String × Cell)}
    (h : (entries.map Prod.fst).Nodup) : ((put key cell entries).map Prod.fst).Nodup := by
  rw [keys_put]
  split
  · exact h
  · rename_i hmem
    rw [List.nodup_append]
    refine ⟨h, by simp, ?_⟩
    intro a ha b hb
    rw [List.mem_singleton] at hb
    subst hb
    exact fun heq => hmem (heq ▸ ha)

theorem lookup_put (key name : String) (cell : Cell) (entries : List (String × Cell)) :
    (put key cell entries).lookup name =
      if name = key then some cell else entries.lookup name := by
  induction entries with
  | nil =>
      by_cases h : name = key
      · simp [put, h]
      · have hb : (name == key) = false := by simpa using h
        simp [put, List.lookup_cons, h, hb]
  | cons entry rest ih =>
      obtain ⟨k, c⟩ := entry
      by_cases hk : k = key
      · subst hk
        by_cases h : name = k
        · simp [put, h]
        · have hb : (name == k) = false := by simpa using h
          simp [put, List.lookup_cons, h, hb]
      · by_cases h : name = k
        · subst h
          simp [put, hk]
        · have hb : (name == k) = false := by simpa using h
          simp [put, List.lookup_cons, hk, hb, ih]

end Entries

/-- Cells under distinct names, in the order in which the names were first set. -/
structure Row where
  entries : List (String × Cell)
  distinct : (entries.map Prod.fst).Nodup

namespace Row

def empty : Row :=
  { entries := [], distinct := List.nodup_nil }

instance : Inhabited Row :=
  ⟨empty⟩

instance : BEq Row :=
  ⟨fun r s => r.entries == s.entries⟩

@[ext]
theorem ext {r s : Row} (h : r.entries = s.entries) : r = s := by
  cases r
  cases s
  cases h
  rfl

def keys (r : Row) : List String :=
  r.entries.map Prod.fst

def size (r : Row) : Nat :=
  r.entries.length

def isEmpty (r : Row) : Bool :=
  r.entries.isEmpty

/-- Sets a cell: a name that is present keeps its place. -/
def insert (r : Row) (key : String) (cell : Cell) : Row :=
  { entries := Entries.put key cell r.entries
    distinct := Entries.nodup_keys_put r.distinct }

def insertAll (r : Row) (entries : List (String × Cell)) : Row :=
  entries.foldl (fun row entry => row.insert entry.1 entry.2) r

/-- The row that setting the given cells one by one leads to. -/
def ofList (entries : List (String × Cell)) : Row :=
  empty.insertAll entries

def get? (r : Row) (key : String) : Option Cell :=
  r.entries.lookup key

/-- The cell at a name, null if there is none. -/
def getD (r : Row) (key : String) : Cell :=
  (r.get? key).getD .null

/-- The cell at a name, or else at the column that a qualified name ends in. -/
def lookup? (r : Row) (name : String) : Option Cell :=
  (r.get? name).or ((Name.column? name).bind r.get?)

/-!
## Laws of setting and getting
-/

theorem nodup_keys (r : Row) : r.keys.Nodup :=
  r.distinct

@[simp]
theorem keys_empty : empty.keys = [] :=
  rfl

@[simp]
theorem get?_empty (key : String) : empty.get? key = none :=
  rfl

theorem keys_insert (r : Row) (key : String) (cell : Cell) :
    (r.insert key cell).keys = if key ∈ r.keys then r.keys else r.keys ++ [key] :=
  Entries.keys_put key cell r.entries

theorem get?_insert (r : Row) (key name : String) (cell : Cell) :
    (r.insert key cell).get? name = if name = key then some cell else r.get? name :=
  Entries.lookup_put key name cell r.entries

@[simp]
theorem get?_insert_self (r : Row) (key : String) (cell : Cell) :
    (r.insert key cell).get? key = some cell := by
  simp [get?_insert]

@[simp]
theorem insertAll_nil (r : Row) : r.insertAll [] = r :=
  rfl

@[simp]
theorem insertAll_cons (r : Row) (entry : String × Cell) (entries : List (String × Cell)) :
    r.insertAll (entry :: entries) = (r.insert entry.1 entry.2).insertAll entries :=
  rfl

theorem insertAll_append (r : Row) (xs ys : List (String × Cell)) :
    r.insertAll (xs ++ ys) = (r.insertAll xs).insertAll ys := by
  simp [insertAll]

end Row
end TableQuery
