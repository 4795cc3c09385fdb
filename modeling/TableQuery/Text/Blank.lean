/-!
# Blank characters

The characters that separate words are those with the Unicode property
`White_Space`.  Trimming a text drops them at both ends and nowhere else.
-/

namespace TableQuery
namespace Text

/-- The characters with the Unicode property `White_Space`. -/
def isBlank (c : Char) : Bool :=
  let n := c.toNat
  (0x09 ≤ n && n ≤ 0x0D) || n == 0x20 || n == 0x85 || n == 0xA0 || n == 0x1680 ||
    (0x2000 ≤ n && n ≤ 0x200A) || n == 0x2028 || n == 0x2029 || n == 0x202F ||
    n == 0x205F || n == 0x3000

/-!
## Trimming
-/

def trimLeft (cs : List Char) : List Char :=
  cs.dropWhile isBlank

def trimRight (cs : List Char) : List Char :=
  (cs.reverse.dropWhile isBlank).reverse

def trim (cs : List Char) : List Char :=
  trimRight (trimLeft cs)

theorem trimLeft_append_cons {c : Char} (h : isBlank c = false) (cs rest : List Char) :
    trimLeft (cs ++ c :: rest) = trimLeft cs ++ c :: rest := by
  unfold trimLeft
  rw [List.dropWhile_append]
  split
  · rename_i hempty
    simp [List.isEmpty_iff.mp hempty, h]
  · rfl

theorem mem_trimLeft {c : Char} (h : isBlank c = false) {cs : List Char} (hc : c ∈ cs) :
    c ∈ trimLeft cs := by
  rcases List.append_of_mem hc with ⟨before, after, rfl⟩
  rw [trimLeft_append_cons h]
  simp

theorem trimRight_append_cons {c : Char} (h : isBlank c = false) (cs rest : List Char) :
    trimRight (cs ++ c :: rest) = cs ++ c :: trimRight rest := by
  have hreverse := trimLeft_append_cons h rest.reverse cs.reverse
  rw [trimLeft, trimLeft] at hreverse
  simp [trimRight, hreverse]

theorem trimRight_prefix (cs : List Char) : trimRight cs <+: cs := by
  rw [trimRight, ← List.reverse_suffix, List.reverse_reverse]
  exact List.dropWhile_suffix isBlank

/-- A blank behind a text does not count. -/
theorem trim_concat {c : Char} (h : isBlank c = true) (cs : List Char) :
    trim (cs ++ [c]) = trim cs := by
  rw [trim, trim, trimLeft, trimLeft, List.dropWhile_append]
  split
  · rename_i hempty
    rw [List.isEmpty_iff.mp hempty, List.dropWhile_cons_of_pos h, List.dropWhile_nil]
  · rw [trimRight, trimRight, List.reverse_concat, List.dropWhile_cons_of_pos h]

theorem trim_of_forall {cs : List Char} (h : ∀ c ∈ cs, isBlank c = false) : trim cs = cs := by
  have hdrop : ∀ ds : List Char, (∀ c ∈ ds, isBlank c = false) → ds.dropWhile isBlank = ds := by
    intro ds hds
    cases ds with
    | nil =>
        rfl
    | cons d ds =>
        simp [hds d List.mem_cons_self]
  have hreverse : ∀ c ∈ cs.reverse, isBlank c = false := by
    intro c hc
    exact h c (List.mem_reverse.mp hc)
  rw [trim, trimLeft, trimRight, hdrop cs h, hdrop cs.reverse hreverse, List.reverse_reverse]

end Text
end TableQuery
