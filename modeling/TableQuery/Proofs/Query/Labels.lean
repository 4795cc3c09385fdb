import TableQuery.Proofs.Query.Literal
import TableQuery.Proofs.Text.Trimming

/-!
# Labels of fields

The label of a field that a text asks for is a text that asks for the same field.  Two such
fields with one label are therefore one field, and rows that carry fields under their labels
keep any two of them apart.
-/

namespace TableQuery

namespace Argument

/-- The argument as it stands between the parentheses of a label. -/
def text : Argument → List Char
  | star => ['*']
  | column name => name.toList

/-- The arguments that a call can have: a column has a name without blanks around it, which is
not the star. -/
def IsCanonical : Argument → Prop
  | star => True
  | column name => name ≠ "" ∧ name ≠ "*" ∧ Text.IsTrimmed name.toList

end Argument

namespace Field

/-- The fields that texts ask for: a column has a name without blanks around it, which does not
read as a call. -/
def IsCanonical : Field → Prop
  | column name => Text.IsTrimmed name.toList ∧ call? name.toList = none
  | aggregate _ argument => argument.IsCanonical

theorem toList_label_aggregate (f : Aggregate) (argument : Argument) :
    (aggregate f argument).label.toList =
      f.name.toList ++ '(' :: (argument.text ++ [')']) := by
  cases argument <;> simp [label, Argument.text]

/-!
## Calls
-/

theorem isCanonical_of_argument? {cs : List Char} {argument : Argument}
    (h : argument? cs = some argument) : argument.IsCanonical := by
  unfold argument? at h
  split at h
  · cases h
  · cases h
    exact trivial
  · rename_i hnil hstar
    cases h
    refine ⟨?_, ?_, ?_⟩
    · intro hempty
      exact hnil (String.ofList_eq_empty_iff.mp hempty)
    · intro heq
      exact hstar (String.ofList_inj.mp heq)
    · rw [String.toList_ofList]
      exact Text.isTrimmed_trim cs

theorem argument?_text {argument : Argument} (h : argument.IsCanonical) :
    argument? argument.text = some argument := by
  cases argument with
  | star =>
      rfl
  | column name =>
      rcases h with ⟨hempty, hstar, htrimmed⟩
      unfold argument? Argument.text
      rw [htrimmed.trim_eq]
      split
      · rename_i heq
        exact absurd (String.toList_eq_nil_iff.mp heq) hempty
      · rename_i heq
        exact absurd (String.toList_inj.mp heq) hstar
      · rw [String.ofList_toList]

theorem isCanonical_of_call? {cs : List Char} {field : Field} (h : call? cs = some field) :
    field.IsCanonical := by
  simp only [call?, Option.bind_eq_bind, Option.bind_eq_some_iff] at h
  rcases h with ⟨_, _, inside, _, f, _, argument, hargument, hfield⟩
  cases hfield
  exact isCanonical_of_argument? hargument

/-- A function's name, without blanks around it and in capitals. -/
theorem trim_name (f : Aggregate) : Text.trim f.name.toList = f.name.toList := by
  cases f <;> decide

theorem ofName?_name (f : Aggregate) : Aggregate.ofName? f.name.toList = some f := by
  cases f <;> decide

theorem call?_label (f : Aggregate) {argument : Argument} (h : argument.IsCanonical) :
    call? (aggregate f argument).label.toList = some (.aggregate f argument) := by
  have hname : '(' ∉ f.name.toList := by
    cases f <;> decide
  have hcut : Text.cut? '(' (aggregate f argument).label.toList =
      some (f.name.toList, argument.text ++ [')']) := by
    rw [toList_label_aggregate]
    exact Text.cut?_eq_some_iff.mpr ⟨rfl, hname⟩
  simp [call?, hcut, trim_name, ofName?_name, argument?_text h]

theorem isTrimmed_label (f : Aggregate) (argument : Argument) :
    Text.IsTrimmed (aggregate f argument).label.toList := by
  rw [toList_label_aggregate]
  constructor
  · cases f <;> rfl
  · rw [← List.cons_append, ← List.append_assoc, List.getLast?_concat]
    rfl

/-!
## Fields that texts ask for
-/

theorem isCanonical_ofText (text : String) : (ofText text).IsCanonical := by
  cases hcall : call? (Text.trim text.toList) with
  | none =>
      have hcolumn := column_of_call?_eq_none hcall
      rw [String.ofList_toList] at hcolumn
      rw [hcolumn, IsCanonical, String.toList_ofList]
      exact ⟨Text.isTrimmed_trim _, hcall⟩
  | some field =>
      have hfield : ofText text = field := by
        rw [ofText, hcall]
        rfl
      rw [hfield]
      exact isCanonical_of_call? hcall

theorem ofText_label {field : Field} (h : field.IsCanonical) : ofText field.label = field := by
  cases field with
  | column name =>
      rcases h with ⟨htrimmed, hcall⟩
      rw [label, ofText, htrimmed.trim_eq, hcall, String.ofList_toList]
      rfl
  | aggregate f argument =>
      rw [ofText, (isTrimmed_label f argument).trim_eq, call?_label f h]
      rfl

theorem ofText_label_ofText (text : String) : ofText (ofText text).label = ofText text :=
  ofText_label (isCanonical_ofText text)

theorem isCanonical_iff_exists {field : Field} :
    field.IsCanonical ↔ ∃ text, ofText text = field := by
  constructor
  · intro h
    exact ⟨field.label, ofText_label h⟩
  · rintro ⟨text, rfl⟩
    exact isCanonical_ofText text

/-- No two of the fields have the same label. -/
def AreToldApart (fields : List Field) : Prop :=
  ∀ field ∈ fields, ∀ other ∈ fields, field.label = other.label → field = other

theorem areToldApart_of_isCanonical {fields : List Field} (h : ∀ field ∈ fields, field.IsCanonical) :
    AreToldApart fields := by
  intro field hfield other hother hlabel
  rw [← ofText_label (h field hfield), hlabel, ofText_label (h other hother)]

theorem areToldApart_ofText (texts : List String) : AreToldApart (texts.map ofText) := by
  apply areToldApart_of_isCanonical
  intro field hfield
  rcases List.mem_map.mp hfield with ⟨text, _, rfl⟩
  exact isCanonical_ofText text

end Field
end TableQuery
