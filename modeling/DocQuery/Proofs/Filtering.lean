import DocQuery.Filter
import DocQuery.Proofs.Order.Trichotomy
import DocQuery.Proofs.Sorting.Documents

/-!
# What filtering returns

The documents that pass come back in their order, or in the order of the sort keys, and
are cut to the selected fields last.  The order is a law on the values of the fields as long
as all numbers under the sort keys are signed words.
-/

namespace DocQuery

namespace Compiler

variable {compiler : Compiler} {options : FilterOptions} {predicate : Predicate}

theorem result_filter (documents : List Json)
    (hquery : (compiler.compileOptional options.query).result = .ok predicate) :
    (compiler.filter documents options).result =
      .ok ((options.arrange (documents.filter predicate.matchesDocument)).map
        options.project) := by
  simp only [filter, Reported.result_bind, Reported.result_pure, Reported.result_report, hquery]
  rfl

/-- Sorted documents pass the query again, and sorting them again leaves them as they are. -/
theorem result_filter_sorted {spec : SortSpec} {documents : List Json}
    (hquery : (compiler.compileOptional options.query).result = .ok predicate)
    (hspec : options.sortBy = some spec)
    (hwords : SortSpec.HoldsWords spec.keys (documents.filter predicate.matchesDocument)) :
    let sorted := spec.sort (documents.filter predicate.matchesDocument)
    (compiler.filter sorted { options with select := none }).result = .ok sorted := by
  intro sorted
  have hperm := (SortSpec.sort_stable hwords).perm
  have hpass : sorted.filter predicate.matchesDocument = sorted :=
    List.filter_eq_self.mpr fun document hdocument =>
      (List.mem_filter.mp (hperm.subset hdocument)).2
  have hagain : spec.sort sorted = sorted := SortSpec.sort_sort hwords
  have hresult := @result_filter compiler { options with select := none } predicate sorted hquery
  rw [hresult, hpass]
  simp only [FilterOptions.arrange, hspec, hagain]
  exact congrArg Except.ok (List.map_id sorted)

/-- Filtering returns the documents that pass, in their order or sorted, and then cut to the
selected fields.  Sorted means the one list that is sorted stably by all keys, or by each
in turn from the last one, and filtering that list again changes nothing. -/
theorem filter_sorts_then_projects (documents : List Json)
    (hquery : (compiler.compileOptional options.query).result = .ok predicate) :
    let passing := documents.filter predicate.matchesDocument
    (options.query = none → passing = documents) ∧
      (options.sortBy = none →
        (compiler.filter documents options).result = .ok (passing.map options.project)) ∧
      ∀ spec, options.sortBy = some spec → SortSpec.HoldsWords spec.keys passing →
        ∃ sorted, (compiler.filter documents options).result = .ok (sorted.map options.project) ∧
          (∀ list, SortSpec.StablySorted spec.keys passing list ↔ list = sorted) ∧
          (∀ list, SortSpec.SortedInTurn spec.keys passing list ↔ list = sorted) ∧
          (compiler.filter sorted { options with select := none }).result = .ok sorted := by
  have hresult := result_filter documents hquery
  refine ⟨fun hnone => ?_, fun hunsorted => ?_, fun spec hspec hwords => ?_⟩
  · rw [hnone] at hquery
    cases hquery
    exact List.filter_eq_self.mpr fun _ _ => rfl
  · rw [hresult, FilterOptions.arrange, hunsorted]
  · refine ⟨spec.sort (documents.filter predicate.matchesDocument), ?_,
      fun _ => SortSpec.stablySorted_iff hwords, fun _ => SortSpec.sortedInTurn_iff hwords,
      result_filter_sorted hquery hspec hwords⟩
    rw [hresult, FilterOptions.arrange, hspec]

def activeByAge : FilterOptions where
  query := some (equalTo "active" (.bool true))
  sortBy := some { keys := [("age", .desc), ("name", .asc)] }
  select := some { fields := ["name"] }

def activeUser (name : String) (fields : List (String × Json)) : Json :=
  .object (("active", .bool true) :: ("name", .string name) :: fields)

theorem filter_sorts_then_projects_users :
    let thirty : Number := .int 30 (by decide) (by decide)
    let forty : Number := .int 40 (by decide) (by decide)
    let users := [activeUser "b" [("age", .number thirty)],
      activeUser "c" [],
      .object [("name", .string "d"), ("age", .number forty)],
      activeUser "a" [("age", .string "?")],
      activeUser "a" [("age", .number thirty), ("since", .number forty)],
      activeUser "a" [("age", .number thirty)],
      activeUser "e" [("age", .null)]]
    ∃ predicate sorted,
      (({} : Compiler).compileOptional activeByAge.query).result = .ok predicate ∧
      SortSpec.HoldsWords [("age", .desc), ("name", .asc)]
        (users.filter predicate.matchesDocument) ∧
      (({} : Compiler).filter users activeByAge).result =
        .ok (["a", "a", "a", "b", "e", "c"].map fun name => .object [("name", .string name)]) ∧
      sorted[1]? = some (activeUser "a" [("age", .number thirty), ("since", .number forty)]) ∧
      (({} : Compiler).filter sorted { activeByAge with select := none }).result =
        .ok sorted := by
  intro thirty forty users
  let active : Predicate := .ofRevision fun revision =>
    Json.sameField (revision.field "active").now (some (.bool true))
  have hquery : (({} : Compiler).compileOptional activeByAge.query).result = .ok active :=
    result_compile_equality {} rfl (.bool true)
  have hwords : SortSpec.HoldsWords [("age", .desc), ("name", .asc)]
      (users.filter active.matchesDocument) := by
    intro key hkey document hdocument number hnumber
    have hmem : document ∈ users := List.mem_of_mem_filter hdocument
    simp only [users, List.mem_cons, List.not_mem_nil, or_false] at hkey hmem
    rcases hkey with rfl | rfl <;> rcases hmem with rfl | rfl | rfl | rfl | rfl | rfl | rfl <;>
      cases hnumber <;> rfl
  obtain ⟨_, _, hsort⟩ := filter_sorts_then_projects users hquery
  obtain ⟨sorted, hresult, hstable, _, hagain⟩ := hsort _ rfl hwords
  have hsorted := (SortSpec.stablySorted_iff hwords).mp ((hstable sorted).mpr rfl)
  refine ⟨active, sorted, hquery, hwords, ?_, ?_, hagain⟩
  · rw [hresult, hsorted]
    rfl
  · rw [hsorted]
    rfl

end Compiler

end DocQuery
