import TableQuery.Console
import TableQuery.Proofs.Text.Utf8

/-!
# Lines and their commands

An input is taken line by line.  What a line asks for is told by its text without the blanks
at its ends, and so the line break behind it, if there is one, does not count.
-/

namespace TableQuery
namespace Console

open Text (Utf8.IsValid)

/-!
## Lines
-/

/-- The lines of an input without their line breaks.  What follows the last line break is a
line if it is not empty. -/
def linesOf : List UInt8 → List (List UInt8)
  | [] => []
  | b :: rest =>
      if b = 0x0A then
        [] :: linesOf rest
      else
        match linesOf rest with
        | [] => [[b]]
        | line :: lines => (b :: line) :: lines

/-- The bytes are taken for the line: they are its own, or its own and a line break. -/
inductive Ends (line : List UInt8) : List UInt8 → Prop
  | broken : Ends line (line ++ [0x0A])
  | last : Ends line line

theorem Ends.cons {line raw : List UInt8} (b : UInt8) (h : Ends line raw) :
    Ends (b :: line) (b :: raw) := by
  cases h with
  | broken =>
      exact .broken
  | last =>
      exact .last

theorem takeLine?_eq_none {input : List UInt8} (h : takeLine? input = none) : input = [] := by
  cases input with
  | nil =>
      rfl
  | cons b rest =>
      rw [takeLine?] at h
      split at h
      · cases h
      · split at h
        · cases h
        · cases h

theorem linesOf_of_takeLine? {input raw rest : List UInt8}
    (h : takeLine? input = some (raw, rest)) :
    ∃ line, linesOf input = line :: linesOf rest ∧ Ends line raw := by
  induction input generalizing raw rest with
  | nil =>
      cases h
  | cons b input ih =>
      rw [takeLine?] at h
      rw [linesOf]
      split at h
      · rename_i hbreak
        cases h
        rw [if_pos hbreak, hbreak]
        exact ⟨[], rfl, .broken⟩
      · rename_i hother
        rw [if_neg hother]
        split at h
        · rename_i hnone
          cases h
          rw [takeLine?_eq_none hnone]
          exact ⟨[b], rfl, .last⟩
        · rename_i found after hfound
          cases h
          rcases ih hfound with ⟨line, hlines, hends⟩
          rw [hlines]
          exact ⟨b :: line, rfl, hends.cons b⟩

theorem exists_takeLine? {input line : List UInt8} {lines : List (List UInt8)}
    (h : linesOf input = line :: lines) :
    ∃ raw rest, takeLine? input = some (raw, rest) ∧ Ends line raw ∧ linesOf rest = lines := by
  cases htake : takeLine? input with
  | none =>
      rw [takeLine?_eq_none htake] at h
      cases h
  | some parts =>
      rcases parts with ⟨raw, rest⟩
      rcases linesOf_of_takeLine? htake with ⟨found, hlines, hends⟩
      rw [h] at hlines
      cases hlines
      exact ⟨raw, rest, rfl, hends, rfl⟩

theorem eq_nil_of_linesOf {input : List UInt8} (h : linesOf input = []) : input = [] := by
  cases htake : takeLine? input with
  | none =>
      exact takeLine?_eq_none htake
  | some parts =>
      rcases linesOf_of_takeLine? htake with ⟨line, hlines, _⟩
      rw [h] at hlines
      cases hlines

/-!
## Texts of lines
-/

/-- The bytes of the line are those of a text, and this is the text without the blanks at
its ends. -/
def HasText (line : List UInt8) (text : List Char) : Prop :=
  ∃ cs, Text.Utf8.encode cs = line ∧ Text.trim cs = text

/-- The text of the line is the word, whatever the case of its ASCII letters. -/
def HasWord (line : List UInt8) (word : String) : Prop :=
  ∃ text, HasText line text ∧ text.map Char.toLower = word.toList

/-- The line ends the session. -/
def Leaves (line : List UInt8) : Prop :=
  HasWord line "exit" ∨ HasWord line "quit"

/-- The text of the line is none of the commands, and is run as a query. -/
structure IsQuery (line : List UInt8) (text : String) : Prop where
  hasText : HasText line text.toList
  not_blank : text.toList ≠ []
  not_leaves : ¬Leaves line
  not_help : ¬HasWord line "help"
  not_outline : ¬outlineWord <+: text.toList

theorem hasText_or_not_isValid (line : List UInt8) :
    (∃ text, HasText line text) ∨ ¬Utf8.IsValid line := by
  by_cases h : Utf8.IsValid line
  · rcases h with ⟨cs, hcs⟩
    exact Or.inl ⟨Text.trim cs, cs, hcs, rfl⟩
  · exact Or.inr h

section Commands

variable {line raw : List UInt8} {text : List Char} {word : String}

theorem commandOf_of_not_isValid (h : ¬Utf8.IsValid line) : commandOf line = .unreadable := by
  rw [commandOf, Text.Utf8.decode?_eq_none_iff.mpr h]

theorem HasText.commandOf_eq (h : HasText line text) : commandOf line = commandOfText text := by
  rcases h with ⟨cs, hcs, rfl⟩
  rw [commandOf, Text.Utf8.decode?_eq_some_iff.mpr hcs]

theorem HasText.unique {text' : List Char} (h : HasText line text) (h' : HasText line text') :
    text = text' := by
  rcases h with ⟨cs, hcs, rfl⟩
  rcases h' with ⟨ds, hds, rfl⟩
  rw [Text.Utf8.encode_inj (hcs.trans hds.symm)]

theorem HasText.hasWord_iff (h : HasText line text) :
    HasWord line word ↔ text.map Char.toLower = word.toList := by
  constructor
  · rintro ⟨text', htext, hword⟩
    rwa [h.unique htext]
  · intro hword
    exact ⟨text, h, hword⟩

/-- The line break of a line does not count. -/
theorem Ends.commandOf_eq (h : Ends line raw) : commandOf raw = commandOf line := by
  cases h with
  | last =>
      rfl
  | broken =>
      rcases hasText_or_not_isValid line with ⟨_, cs, hcs, rfl⟩ | hinvalid
      · have htext : HasText (line ++ [0x0A]) (Text.trim cs) := by
          refine ⟨cs ++ ['\n'], ?_, Text.trim_concat (by decide) cs⟩
          rw [Text.Utf8.encode_append, hcs]
          rfl
        rw [htext.commandOf_eq, HasText.commandOf_eq ⟨cs, hcs, rfl⟩]
      · have hbroken : ¬Utf8.IsValid (line ++ [0x0A]) := fun h =>
          hinvalid (h.of_concat (by decide))
        rw [commandOf_of_not_isValid hinvalid, commandOf_of_not_isValid hbroken]

theorem map_toLower_eq_iff (hword : word.toList.map Char.toLower = word.toList) :
    text.map Char.toLower = word.toList ↔ Text.sameWord text word.toList = true := by
  rw [Text.sameWord, beq_iff_eq, hword]

theorem HasText.leaves_iff (h : HasText line text) :
    Leaves line ↔
      (Text.sameWord text "exit".toList || Text.sameWord text "quit".toList) = true := by
  rw [Leaves, h.hasWord_iff, h.hasWord_iff, map_toLower_eq_iff (by decide),
    map_toLower_eq_iff (by decide), Bool.or_eq_true]

theorem HasText.hasWord_help_iff (h : HasText line text) :
    HasWord line "help" ↔ Text.sameWord text "help".toList = true := by
  rw [h.hasWord_iff, map_toLower_eq_iff (by decide)]

theorem Leaves.exists_hasText (h : Leaves line) : ∃ text, HasText line text ∧ text ≠ [] := by
  rcases h with ⟨text, htext, hword⟩ | ⟨text, htext, hword⟩
  · exact ⟨text, htext, by rintro rfl; cases hword⟩
  · exact ⟨text, htext, by rintro rfl; cases hword⟩

theorem HasWord.not_leaves (h : HasWord line "help") : ¬Leaves line := by
  rcases h with ⟨text, htext, hword⟩
  rw [Leaves, htext.hasWord_iff, htext.hasWord_iff, hword]
  decide

theorem HasText.hasWord_of_outline {query : List Char} (h : HasText line (outlineWord ++ query))
    (hword : HasWord line word) : word.toList.head? = some 'p' := by
  rw [h.hasWord_iff] at hword
  rw [← hword]
  rfl

end Commands

/-- What a line asks for. -/
inductive Means (line : List UInt8) : Command → Prop
  | unreadable (h : ¬Utf8.IsValid line) : Means line .unreadable
  | blank (h : HasText line []) : Means line .blank
  | exit (h : Leaves line) : Means line .exit
  | help (h : HasWord line "help") : Means line .help
  | outline {query : String} (h : HasText line (outlineWord ++ query.toList)) :
      Means line (.outline query)
  | run {text : String} (h : IsQuery line text) : Means line (.run text)

section Meanings

variable {line : List UInt8} {command : Command}

theorem Means.commandOf_eq (h : Means line command) : commandOf line = command := by
  cases h with
  | unreadable h =>
      exact commandOf_of_not_isValid h
  | blank h =>
      exact h.commandOf_eq
  | exit h =>
      rcases h.exists_hasText with ⟨text, htext, hne⟩
      rw [htext.commandOf_eq, commandOfText, if_neg (by simp [hne]),
        if_pos (htext.leaves_iff.mp h)]
  | help h =>
      have hnot := h.not_leaves
      rcases h with ⟨text, htext, hword⟩
      have hne : text ≠ [] := by
        rintro rfl
        cases hword
      rw [htext.leaves_iff] at hnot
      rw [htext.commandOf_eq, commandOfText, if_neg (by simp [hne]), if_neg hnot,
        if_pos ((map_toLower_eq_iff (by decide)).mp hword)]
  | @outline query h =>
      have hleaves : ¬Leaves line := by
        rintro (hword | hword)
        · exact absurd (h.hasWord_of_outline hword) (by decide)
        · exact absurd (h.hasWord_of_outline hword) (by decide)
      have hhelp : ¬HasWord line "help" := fun hword =>
        absurd (h.hasWord_of_outline hword) (by decide)
      rw [h.leaves_iff] at hleaves
      rw [h.hasWord_help_iff] at hhelp
      have hprefix : outlineWord.isPrefixOf (outlineWord ++ query.toList) = true :=
        List.isPrefixOf_iff_prefix.mpr (List.prefix_append _ _)
      rw [h.commandOf_eq, commandOfText, if_neg (by simp [outlineWord]), if_neg hleaves,
        if_neg hhelp, if_pos hprefix, List.drop_left, String.ofList_toList]
  | @run text h =>
      have hleaves := h.not_leaves
      have hhelp := h.not_help
      rw [h.hasText.leaves_iff] at hleaves
      rw [h.hasText.hasWord_help_iff] at hhelp
      have hprefix : ¬outlineWord.isPrefixOf text.toList = true := fun hprefix =>
        h.not_outline (List.isPrefixOf_iff_prefix.mp hprefix)
      rw [h.hasText.commandOf_eq, commandOfText, if_neg (by simp [h.not_blank]),
        if_neg hleaves, if_neg hhelp, if_neg hprefix, String.ofList_toList]

theorem means_commandOf (line : List UInt8) : Means line (commandOf line) := by
  rcases hasText_or_not_isValid line with ⟨text, htext⟩ | hinvalid
  · rw [htext.commandOf_eq, commandOfText]
    split
    · rename_i hempty
      rw [List.isEmpty_iff.mp hempty] at htext
      exact .blank htext
    · rename_i hne
      split
      · rename_i hleaves
        exact .exit (htext.leaves_iff.mpr hleaves)
      · rename_i hleaves
        rw [← htext.leaves_iff] at hleaves
        split
        · rename_i hhelp
          exact .help (htext.hasWord_help_iff.mpr hhelp)
        · rename_i hhelp
          rw [← htext.hasWord_help_iff] at hhelp
          split
          · rename_i hprefix
            rcases List.isPrefixOf_iff_prefix.mp hprefix with ⟨query, rfl⟩
            rw [List.drop_left]
            exact .outline (by rwa [String.toList_ofList])
          · rename_i hprefix
            rw [List.isPrefixOf_iff_prefix] at hprefix
            exact .run
              { hasText := by rwa [String.toList_ofList]
                not_blank := by simpa using hne
                not_leaves := hleaves
                not_help := hhelp
                not_outline := by rwa [String.toList_ofList] }
  · rw [commandOf_of_not_isValid hinvalid]
    exact .unreadable hinvalid

theorem means_iff : Means line command ↔ commandOf line = command := by
  constructor
  · exact Means.commandOf_eq
  · rintro rfl
    exact means_commandOf line

theorem commandOf_eq_exit_iff : commandOf line = .exit ↔ Leaves line := by
  rw [← means_iff]
  constructor
  · rintro (_ | _ | h)
    exact h
  · exact .exit

end Meanings

end Console
end TableQuery
