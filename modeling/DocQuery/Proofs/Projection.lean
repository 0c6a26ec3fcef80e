import DocQuery.Proofs.Building
import DocQuery.Selection

/-!
# What a selection keeps

A projection has a field exactly when the field is selected and the document has it.  So its
keys are the selected fields that are there, each where the selection first names it, and of
two selections in a row the second keeps what it names of the first.
-/

namespace DocQuery

namespace Selection

/-- The selected fields that a document has, each once, in the order in which the selection
first names them. -/
def present (selection : Selection) (document : Json) : List String :=
  (selection.fields.filter fun field => (document.field? field).isSome).eraseDups

def within (selection outer : Selection) : Selection where
  fields := selection.fields.filter fun field => field ∈ outer.fields

/-! ## Picked fields -/

section

variable (document : Json) (fields : List String)

theorem keys_filterMap_field? :
    Entries.keys (fields.filterMap fun field =>
        (document.field? field).map fun value => (field, value)) =
      fields.filter fun field => (document.field? field).isSome := by
  induction fields with
  | nil =>
      rfl
  | cons field rest ih =>
      rw [List.filterMap_cons, List.filter_cons]
      cases document.field? field with
      | none =>
          exact ih
      | some value =>
          exact congrArg (field :: ·) ih

theorem find?_filterMap_field? (key : String) :
    Entries.find? key (fields.filterMap fun field =>
        (document.field? field).map fun value => (field, value)) =
      if key ∈ fields then document.field? key else none := by
  induction fields with
  | nil =>
      rfl
  | cons field rest ih =>
      rw [List.filterMap_cons]
      by_cases hkey : field = key
      · subst hkey
        cases hfield : document.field? field with
        | none => simp [ih, hfield]
        | some value => simp [Entries.find?]
      · have hmem : (key ∈ field :: rest) = (key ∈ rest) := by
          simp [List.mem_cons, Ne.symm hkey]
        cases document.field? field with
        | none => simp only [Option.map_none, ih, hmem]
        | some value => simp only [Option.map_some, Entries.find?_cons, if_neg hkey, ih, hmem]

theorem keys_pick :
    Entries.keys (pick document fields) =
      (fields.filter fun field => (document.field? field).isSome).eraseDups := by
  rw [pick, Entries.keys_ofPairs, keys_filterMap_field?]

theorem find?_pick (key : String) :
    Entries.find? key (pick document fields) =
      if key ∈ fields then document.field? key else none := by
  rw [pick, Entries.find?_ofPairs, ← List.filterMap_reverse, find?_filterMap_field?]
  simp only [List.mem_reverse]

end

/-! ## Projections -/

/-- A projection has the selected fields of a document, with their values. -/
theorem field?_project (selection : Selection) (document : Json) (key : String) :
    (selection.project document).field? key =
      if key ∈ selection.fields then document.field? key else none :=
  find?_pick document selection.fields key

/-- Of two selections in a row the second keeps those of its fields that the first names. -/
theorem project_project (first second : Selection) (document : Json) :
    second.project (first.project document) = (second.within first).project document := by
  have hfields : (second.fields.filterMap fun field =>
      ((first.project document).field? field).map fun value => (field, value)) =
        (second.within first).fields.filterMap fun field =>
          (document.field? field).map fun value => (field, value) := by
    rw [within, List.filterMap_filter]
    refine List.filterMap_congr fun field _ => ?_
    rw [field?_project]
    by_cases hmem : field ∈ first.fields <;> simp [hmem]
  rw [project, pick, hfields]
  rfl

theorem within_self (selection : Selection) : selection.within selection = selection := by
  have hfields : selection.fields.filter (fun field => field ∈ selection.fields) =
      selection.fields := by
    rw [List.filter_eq_self]
    intro field hfield
    exact decide_eq_true hfield
  rw [within, hfields]

/-- A projection is an object of the selected fields that the document has, each once, in the
order of the selection, with the values of the document.  A second projection keeps the fields
that both selections name, and repeating one changes nothing. -/
theorem project_keeps_present (selection : Selection) (document : Json) :
    (∃ members, selection.project document = .object members ∧
        Entries.keys members = selection.present document ∧ Entries.Distinct members ∧
        ∀ field value, (field, value) ∈ members → document.field? field = some value) ∧
      (∀ next : Selection,
        next.project (selection.project document) = (next.within selection).project document) ∧
      selection.project (selection.project document) = selection.project document := by
  refine ⟨⟨pick document selection.fields, rfl, keys_pick document selection.fields,
    Entries.distinct_ofPairs _, ?_⟩, fun next => project_project selection next document, ?_⟩
  · intro field value hmem
    have hfound := (Entries.Distinct.mem_iff (Entries.distinct_ofPairs _) field value).mp hmem
    have hpicked := find?_pick document selection.fields field
    rw [pick, hfound] at hpicked
    split at hpicked
    · exact hpicked.symm
    · cases hpicked
  · rw [project_project, within_self]

example :
    ({ fields := ["b", "x", "a", "b"] } : Selection).project
        (.object [("a", .null), ("c", .null), ("b", .bool true)]) =
      .object [("b", .bool true), ("a", .null)] :=
  rfl

end Selection

end DocQuery
