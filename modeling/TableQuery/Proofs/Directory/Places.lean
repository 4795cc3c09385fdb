import Mathlib.Data.List.Induction
import TableQuery.Directory
import TableQuery.Proofs.Text.Pieces

/-!
# Places of files

The path of a table's file is appended to that of the data directory, and an absolute path
stands for itself.  A path leads to a place in the file system once its climbs are undone.
The place lies in the directory, whichever that is, exactly if the path of the table is
relative and never climbs out.
-/

namespace TableQuery

/-!
## Pieces at the end
-/

namespace Text

variable {sep : Char}

theorem exists_pieces_append {tail : List Char} (h : sep ∉ tail) (cs : List Char) :
    ∃ before last, pieces sep (cs ++ tail) = before ++ [last ++ tail] := by
  induction cs with
  | nil =>
      exact ⟨[], [], pieces_of_notMem h⟩
  | cons c cs ih =>
      rcases ih with ⟨before, last, hpieces⟩
      by_cases hc : c = sep
      · subst hc
        refine ⟨[] :: before, last, ?_⟩
        rw [List.cons_append, pieces_cons_self, hpieces, List.cons_append]
      · rcases pieces_cons_of_ne hc (cs ++ tail) with ⟨piece, rest, htail, hcons⟩
        rw [hpieces] at htail
        rw [List.cons_append, hcons]
        cases before with
        | nil =>
            cases htail
            exact ⟨[], c :: last, rfl⟩
        | cons given before =>
            cases htail
            exact ⟨(c :: piece) :: before, last, rfl⟩

theorem length_le_of_mem_pieces {cs piece : List Char} (h : piece ∈ pieces sep cs) :
    piece.length ≤ cs.length := by
  rcases List.append_of_mem h with ⟨before, after, hpieces⟩
  rcases exists_intercalate [sep] before after with ⟨front, back, hjoined⟩
  have hcs := intercalate_pieces sep cs
  rw [hpieces, hjoined] at hcs
  rw [← hcs, List.length_append, List.length_append]
  omega

end Text

/-!
## Places
-/

namespace Path

/-- The place that steps lead to from a place, both given by their steps from the root of
the file system, the last one first.  Nothing is above the root. -/
def arrive : List (List Char) → List (List Char) → List (List Char)
  | here, [] => here
  | here, step :: rest =>
      if step = ['.', '.'] then arrive here.tail rest else arrive (step :: here) rest

/-- The place of a path that is followed from a working folder. -/
def place (working : List (List Char)) (path : String) : List (List Char) :=
  arrive (if isAbsolute path.toList then [] else working) (steps path.toList)

/-- The path behind that of a folder; an absolute path stands for itself. -/
def append (folder path : String) : String :=
  if isAbsolute path.toList then path
  else if folder = "" ∨ folder.toList.getLast? = some '/' then folder ++ path
  else folder ++ "/" ++ path

/-- The place is below a folder, by at least one step. -/
def IsInside (folder place : List (List Char)) : Prop :=
  folder <:+ place ∧ place ≠ folder

instance (folder place : List (List Char)) : Decidable (IsInside folder place) :=
  inferInstanceAs (Decidable (_ ∧ _))

variable {here way : List (List Char)} {step : List Char}

theorem arrive_climb (here way : List (List Char)) :
    arrive here (['.', '.'] :: way) = arrive here.tail way := by
  rw [arrive, if_pos rfl]

theorem arrive_step (h : step ≠ ['.', '.']) (here way : List (List Char)) :
    arrive here (step :: way) = arrive (step :: here) way := by
  rw [arrive, if_neg h]

theorem resolve_climb_nil (way : List (List Char)) : resolve [] (['.', '.'] :: way) = none := by
  simp [resolve]

theorem resolve_climb_cons (last : List Char) (here way : List (List Char)) :
    resolve (last :: here) (['.', '.'] :: way) = resolve here way := by
  simp [resolve]

theorem resolve_step (h : step ≠ ['.', '.']) (here way : List (List Char)) :
    resolve here (step :: way) = resolve (step :: here) way := by
  simp [resolve, h]

theorem arrive_append (here xs ys : List (List Char)) :
    arrive here (xs ++ ys) = arrive (arrive here xs) ys := by
  induction xs generalizing here with
  | nil =>
      rfl
  | cons step xs ih =>
      rw [List.cons_append, arrive, arrive]
      split
      · exact ih here.tail
      · exact ih (step :: here)

theorem mem_arrive (h : step ∈ arrive here way) : step ∈ here ∨ step ∈ way := by
  induction way generalizing here with
  | nil =>
      exact Or.inl h
  | cons first way ih =>
      rw [arrive] at h
      split at h
      · rcases ih h with hhere | hway
        · exact Or.inl (List.mem_of_mem_tail hhere)
        · exact Or.inr (List.mem_cons_of_mem _ hway)
      · rcases ih h with hhere | hway
        · rcases List.mem_cons.mp hhere with rfl | hhere
          · exact Or.inr List.mem_cons_self
          · exact Or.inl hhere
        · exact Or.inr (List.mem_cons_of_mem _ hway)

/-- The file of a table is in the data directory, given by its path from a working folder. -/
def HoldsFile (working : List (List Char)) (folder table : String) : Prop :=
  IsInside (place working folder) (place working (append folder (tablePath table)))

instance (working : List (List Char)) (folder table : String) :
    Decidable (HoldsFile working folder table) :=
  inferInstanceAs (Decidable (IsInside _ _))

/-!
## Ways that climb out
-/

theorem arrive_of_resolve {found : List (List Char)} (h : resolve here way = some found)
    (folder : List (List Char)) : arrive (here ++ folder) way = found ++ folder := by
  induction way generalizing here with
  | nil =>
      cases h
      rfl
  | cons step way ih =>
      by_cases hclimb : step = ['.', '.']
      · subst hclimb
        rw [arrive_climb]
        cases here with
        | nil =>
            rw [resolve_climb_nil] at h
            cases h
        | cons last here =>
            rw [resolve_climb_cons] at h
            exact ih h
      · rw [resolve_step hclimb] at h
        rw [arrive_step hclimb]
        exact ih h

/-- A way that climbs out of a folder next to the root leads to a place of its own steps. -/
theorem mem_of_mem_arrive_of_resolve {folder : List Char} (h : resolve here way = none)
    (hstep : step ∈ arrive (here ++ [folder]) way) : step ∈ way := by
  induction way generalizing here with
  | nil =>
      cases h
  | cons first way ih =>
      by_cases hclimb : first = ['.', '.']
      · subst hclimb
        rw [arrive_climb] at hstep
        cases here with
        | nil =>
            rcases mem_arrive hstep with hhere | hway
            · cases hhere
            · exact List.mem_cons_of_mem _ hway
        | cons last here =>
            rw [resolve_climb_cons] at h
            exact List.mem_cons_of_mem _ (ih h hstep)
      · rw [resolve_step hclimb] at h
        rw [arrive_step hclimb] at hstep
        exact List.mem_cons_of_mem _ (ih h hstep)

/-!
## Appended paths
-/

theorem steps_append_slash (xs ys : List Char) :
    steps (xs ++ '/' :: ys) = steps xs ++ steps ys := by
  rw [steps, Text.pieces_append_cons, List.filter_append]
  rfl

theorem steps_nil : steps [] = [] :=
  rfl

theorem length_le_of_mem_steps {cs step : List Char} (h : step ∈ steps cs) :
    step.length ≤ cs.length :=
  Text.length_le_of_mem_pieces (List.mem_of_mem_filter h)

theorem place_append_of_isAbsolute {path : String} (h : isAbsolute path.toList = true)
    (working : List (List Char)) (folder : String) :
    place working (append folder path) = arrive [] (steps path.toList) := by
  rw [append, if_pos h, place, if_pos h]

theorem isAbsolute_append {xs : List Char} (h : xs ≠ []) (ys : List Char) :
    isAbsolute (xs ++ ys) = isAbsolute xs := by
  cases xs with
  | nil =>
      exact absurd rfl h
  | cons x xs =>
      rfl

theorem place_append_of_not_isAbsolute {path : String} (h : isAbsolute path.toList = false)
    (working : List (List Char)) (folder : String) :
    place working (append folder path) =
      arrive (place working folder) (steps path.toList) := by
  have hrelative : ¬isAbsolute path.toList = true := by simp [h]
  rw [append, if_neg hrelative]
  by_cases hempty : folder = ""
  · subst hempty
    rw [if_pos (Or.inl rfl), String.empty_append, place, if_neg hrelative]
    rfl
  · have hne : folder.toList ≠ [] := by simpa using hempty
    -- With or without the slash between them, the steps of the two stand one after the other.
    have hjoined : ∀ xs : List Char, steps (folder.toList ++ xs) =
        steps folder.toList ++ steps path.toList →
        arrive (if isAbsolute (folder.toList ++ xs) then [] else working)
          (steps (folder.toList ++ xs)) =
            arrive (place working folder) (steps path.toList) := by
      intro xs hsteps
      rw [hsteps, isAbsolute_append hne, arrive_append]
      rfl
    split
    · rename_i hslash
      rcases List.getLast?_eq_some_iff.mp (hslash.resolve_left hempty) with ⟨front, hfront⟩
      rw [place, String.toList_append]
      apply hjoined
      rw [hfront, List.append_assoc, List.singleton_append, steps_append_slash,
        steps_append_slash, steps_nil, List.append_nil]
    · rw [place, String.toList_append, String.toList_append, List.append_assoc]
      apply hjoined
      exact steps_append_slash _ _

/-!
## Files of tables
-/

theorem exists_steps_tablePath (table : String) :
    ∃ before last, steps (tablePath table).toList = before ++ [last] ∧ last ≠ ['.', '.'] := by
  have hslash : '/' ∉ ".csv".toList := by decide
  rcases Text.exists_pieces_append hslash table.toList with ⟨before, last, hpieces⟩
  refine ⟨before.filter fun step => !step.isEmpty && step != ['.'], last ++ ".csv".toList,
    ?_, ?_⟩
  · have hlong : (last ++ ".csv".toList).length ≠ 1 := by simp
    have hkept : (!(last ++ ".csv".toList).isEmpty &&
        (last ++ ".csv".toList) != ['.']) = true := by
      rw [Bool.and_eq_true, bne_iff_ne]
      constructor
      · simp
      · intro hdot
        rw [hdot] at hlong
        exact hlong rfl
    rw [tablePath, String.toList_append, steps, hpieces, List.filter_append,
      List.filter_singleton, hkept, cond_true]
  · intro hdots
    have hlength := congrArg List.length hdots
    simp at hlength

theorem arrive_tablePath_ne_nil (table : String) (here : List (List Char)) :
    arrive here (steps (tablePath table).toList) ≠ [] := by
  rcases exists_steps_tablePath table with ⟨before, last, hsteps, hlast⟩
  rw [hsteps, arrive_append, arrive_step hlast]
  exact List.cons_ne_nil _ _

theorem staysInside_iff {path : String} :
    staysInside path = true ↔
      isAbsolute path.toList = false ∧ ∃ found, resolve [] (steps path.toList) = some found := by
  rw [staysInside, Bool.and_eq_true, Bool.not_eq_true', Option.isSome_iff_exists]

theorem holdsFile_of_staysInside {table : String} (h : staysInside (tablePath table) = true)
    (working : List (List Char)) (folder : String) : HoldsFile working folder table := by
  rcases staysInside_iff.mp h with ⟨hrelative, found, hfound⟩
  have hplace := arrive_of_resolve hfound
  have hne : found ≠ [] := by
    have hroot := hplace []
    rw [List.nil_append, List.append_nil] at hroot
    rw [← hroot]
    exact arrive_tablePath_ne_nil table []
  have hfolder := hplace (place working folder)
  rw [List.nil_append] at hfolder
  rw [HoldsFile, place_append_of_not_isAbsolute hrelative, hfolder]
  constructor
  · exact List.suffix_append found _
  · simpa using hne

/-- The path of a folder next to the root whose name is longer than a text. -/
def longFolder (text : String) : String :=
  "/" ++ String.ofList (List.replicate (text.toList.length + 1) 'd')

theorem steps_longFolder (text : String) :
    steps (longFolder text).toList = [List.replicate (text.toList.length + 1) 'd'] := by
  have hslash : '/' ∉ List.replicate (text.toList.length + 1) 'd' := by
    intro h
    exact absurd (List.eq_of_mem_replicate h) (by decide)
  have hdot : List.replicate (text.toList.length + 1) 'd' ≠ ['.'] := by
    simp [List.replicate_succ]
  have htext : (longFolder text).toList =
      '/' :: List.replicate (text.toList.length + 1) 'd' := by
    simp [longFolder]
  rw [htext, steps, Text.pieces_cons_self, Text.pieces_of_notMem hslash]
  simp [hdot]

theorem place_longFolder (working : List (List Char)) (text : String) :
    place working (longFolder text) = [List.replicate (text.toList.length + 1) 'd'] := by
  have habsolute : isAbsolute (longFolder text).toList = true := by
    rw [longFolder, String.toList_append]
    rfl
  rw [place, if_pos habsolute, steps_longFolder, arrive_step]
  · rfl
  · simp [List.replicate_succ]

theorem staysInside_of_isInside {path : String}
    (h : IsInside (place [] (longFolder path)) (place [] (append (longFolder path) path))) :
    staysInside path = true := by
  by_contra hleaves
  rw [place_longFolder] at h
  -- The name of the folder is too long to be one of the steps of the path.
  have hlong : List.replicate (path.toList.length + 1) 'd' ∉ steps path.toList := by
    intro hstep
    have hle := length_le_of_mem_steps hstep
    rw [List.length_replicate] at hle
    omega
  have hmem := h.1.subset List.mem_cons_self
  by_cases habsolute : isAbsolute path.toList = true
  · rw [place_append_of_isAbsolute habsolute] at hmem
    rcases mem_arrive hmem with hnil | hstep
    · cases hnil
    · exact hlong hstep
  · rw [Bool.not_eq_true] at habsolute
    rw [place_append_of_not_isAbsolute habsolute, place_longFolder] at hmem
    cases hresolve : resolve [] (steps path.toList) with
    | none =>
        exact hlong (mem_of_mem_arrive_of_resolve hresolve hmem)
    | some found =>
        exact hleaves (staysInside_iff.mpr ⟨habsolute, found, hresolve⟩)

/-- Every data directory holds the file of a table exactly if the path of the file stays
inside. -/
theorem forall_holdsFile_iff (table : String) :
    (∀ working folder, HoldsFile working folder table) ↔
      staysInside (tablePath table) = true := by
  constructor
  · intro h
    exact staysInside_of_isInside (h [] (longFolder (tablePath table)))
  · intro h working folder
    exact holdsFile_of_staysInside h working folder

end Path

/-!
## Tables in files
-/

/-- Tables read from the files below a folder, by whatever gives the outcome of reading a
path. -/
def Source.ofFiles (read : String → FileOutcome) (folder : String) : Source := fun table =>
  tableOfFile table (read (Path.append folder (tablePath table)))

/-- A file without any bytes is a table without columns. -/
theorem tableOfFile_empty (table : String) :
    tableOfFile table (.found []) = .ok { name := table, columns := [], rows := [] } := by
  have hrecords : Csv.records (Csv.dropMark []) = [] := by
    rw [Csv.dropMark, Csv.records]
    · rfl
    · intro rest h
      cases h
  rw [tableOfFile, Csv.readTable, hrecords]
  rfl

namespace DataDirectory

/-- A data directory reads paths as they are seen from it. -/
theorem load_eq_ofFiles (d : DataDirectory) : d.load = Source.ofFiles d.readFile "" := by
  funext table
  have hpath : Path.append "" (tablePath table) = tablePath table := by
    rw [Path.append, if_pos (Or.inl rfl), String.empty_append]
    split <;> rfl
  rw [load, Source.ofFiles, hpath]

end DataDirectory
end TableQuery
