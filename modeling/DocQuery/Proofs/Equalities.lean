import DocQuery.Proofs.Conjunction
import DocQuery.Proofs.Grammar.Reading
import DocQuery.Proofs.Strictness

/-!
# Equalities as operators

An equality says what the operator for one of some values says of its value alone.  So a
query with distinct keys means the same with all its equalities written as operators, at
any depth, although equalities are tested together and first.
-/

namespace DocQuery

/-! ## Equalities written as operators -/

/-- The term of a field with its equality written as the operator `$any` of a single value,
if the field is one, and with rewritten sub-queries, if it has some. -/
def anyTerm (key : String) (term rewritten : Term) : Term :=
  if isEquality key term then .map [("$any", .list [term])]
  else if takesQueries key then rewritten
  else term

/-- A query with all its equalities written as operators, at any depth. -/
def withAny : List (String × Term) → List (String × Term) :=
  rewrite anyTerm

/-- Whether no key comes twice in a query, nor in any of its sub-queries. -/
inductive DistinctKeys : List (String × Term) → Prop
  | fields {fields : List (String × Term)} (distinct : Entries.Distinct fields)
      (subqueries : ∀ field ∈ fields, takesQueries field.1 = true →
        ∀ query, Term.map query ∈ field.2.elements → DistinctKeys query) : DistinctKeys fields

theorem DistinctKeys.tail {field : String × Term} {rest : List (String × Term)}
    (keys : DistinctKeys (field :: rest)) : DistinctKeys rest := by
  obtain ⟨distinct, subqueries⟩ := keys
  refine .fields (List.nodup_cons.mp distinct).2 fun other hmem => ?_
  exact subqueries other (List.mem_cons_of_mem _ hmem)

theorem DistinctKeys.subquery {key : String} {term : Term} {rest query : List (String × Term)}
    (keys : DistinctKeys ((key, term) :: rest)) (hkey : takesQueries key = true)
    (hquery : Term.map query ∈ term.elements) : DistinctKeys query := by
  obtain ⟨distinct, subqueries⟩ := keys
  exact subqueries _ List.mem_cons_self hkey query hquery

/-! ## Forms -/

theorem ofText?_of_plainKey {key : String} (hkey : isOperatorKey key = false) :
    (Signed.ofText? key : Option (Signed ClauseWord)) = none := by
  cases h : (Signed.ofText? key : Option (Signed ClauseWord)) with
  | none => rfl
  | some signed =>
      rw [Signed.isOperatorKey_of_ofText? h] at hkey
      cases hkey

theorem form_of_isEquality {key : String} {term : Term} (h : isEquality key term = true) :
    form key term = .equality ∧ isOperatorKey key = false ∧ FieldWord.isValue term = true := by
  cases term with
  | map | regex => cases h
  | scalar | list =>
      rw [isEquality, Bool.not_eq_true'] at h
      simp [form, ofText?_of_plainKey h, h, FieldWord.isValue]

theorem hasEquality_eq_false {key : String} {fields : List (String × Term)}
    (h : key ∉ fields.map Prod.fst) : hasEquality key fields = false := by
  rw [hasEquality, List.any_eq_false]
  rintro ⟨other, term⟩ hmem hboth
  obtain ⟨heq, _⟩ := Bool.and_eq_true_iff.mp hboth
  exact h (List.mem_map.mpr ⟨(other, term), hmem, beq_iff_eq.mp heq⟩)

/-! ## Fields -/

/-- Whether two terms read alike in a field whose key has no other equality. -/
structure SameAlone (key : String) (term other : Term) : Prop where
  found : fieldFindings key other (other.elements.flatMap itemFindings) =
    fieldFindings key term (term.elements.flatMap itemFindings)
  meaning : ∀ revision,
    fieldHolds key other false (meansSome other revision) revision =
      fieldHolds key term false (meansSome term revision) revision

theorem SameField.alone {key : String} {term other : Term} (alike : SameField key term other) :
    SameAlone key term other :=
  ⟨alike.found, alike.meaning false⟩

/-- An equality says what the operator says of its value. -/
theorem sameAlone_any {key : String} {term : Term} (h : isEquality key term = true) :
    SameAlone key term (.map [("$any", .list [term])]) := by
  obtain ⟨hform, hkey, hvalue⟩ := form_of_isEquality h
  have hany : form key (.map [("$any", .list [term])]) = .operators [("$any", .list [term])] :=
    form_eq_operators_iff.mpr ⟨ofText?_of_plainKey hkey, rfl⟩
  have hword : Signed.ofText? "$any" = some ⟨FieldWord.anyOf, false⟩ := rfl
  constructor
  · simp [fieldFindings, hform, hany, entryFindings, hword, FieldWord.fault?,
      FieldWord.takesEach, FieldWord.partFault?, FieldWord.takes, Term.elements, hvalue]
  · intro revision
    simp [fieldHolds, hform, hany, entryHolds, hword, Signed.holds, Signed.outcome,
      FieldWord.holds, Term.elements]

theorem sameAlone_anyTerm (key : String) {term : Term}
    (subqueries : takesQueries key = true → ∀ query, Term.map query ∈ term.elements →
      SameItem (.map query) (.map (withAny query))) :
    SameAlone key term (anyTerm key term (rewriteOperand anyTerm term)) := by
  unfold anyTerm
  split
  · rename_i hequality
    exact sameAlone_any hequality
  · split
    · rename_i hkey
      by_cases hterm : ∀ pattern, term ≠ .regex pattern
      · obtain ⟨negated, hform⟩ := form_of_takesQueries hkey hterm
        obtain ⟨_, hword⟩ := form_eq_clause_iff.mp hform
        have hother := form_eq_clause_iff.mpr ⟨rewriteOperand_ne_regex anyTerm hterm, hword⟩
        refine (SameField.subqueries hform hother (elements_rewriteOperand anyTerm term)
          fun item hitem => ?_).alone
        cases item with
        | map query => exact subqueries hkey query hitem
        | scalar | regex | list => exact SameItem.refl _
      · -- A pattern stands for the pattern operator and has no sub-queries.
        cases term with
        | regex pattern => exact (SameField.refl key (.regex pattern)).alone
        | scalar | map | list => exact absurd nofun hterm
    · exact (SameField.refl key term).alone

/-! ## Queries -/

theorem sameItem_withAny {fields : List (String × Term)} (keys : DistinctKeys fields) :
    SameItem (.map fields) (.map (withAny fields)) := by
  induction fields using fields_induction with
  | nil =>
      rw [withAny, rewrite]
      exact SameItem.refl _
  | cons key term rest hsub ih =>
      have hrest := ih keys.tail
      have hfield := sameAlone_anyTerm key fun hkey query hquery =>
        hsub query hquery (keys.subquery hkey hquery)
      have hkey : key ∉ rest.map Prod.fst := by
        obtain ⟨distinct, _⟩ := keys
        exact (List.nodup_cons.mp distinct).1
      have hother : key ∉ (withAny rest).map Prod.fst := by
        rw [withAny, keys_rewrite]
        exact hkey
      rw [withAny, rewrite, ← withAny]
      constructor
      · show findings _ = findings _
        rw [findings_cons, findings_cons, hfield.found]
        exact congrArg (_ ++ ·) hrest.found
      · intro revision
        show means _ revision = means _ revision
        rw [means, means, hasEquality_eq_false hkey, hasEquality_eq_false hother, hfield.meaning]
        exact congrArg (_ && ·) (hrest.meaning revision)

/-- In either mode a query with distinct keys is compiled as it is with all its equalities
written as operators. -/
theorem compile_withAny (config : Config) (query : Query) (keys : DistinctKeys query.fields) :
    (({ config } : Compiler).compile { fields := withAny query.fields }).result =
      (({ config } : Compiler).compile query).result := by
  have hitem := sameItem_withAny keys
  have hresult : (({ config } : Compiler).compile { fields := withAny query.fields }).result =
      (({ config } : Compiler).compile { fields := query.fields }).result :=
    Compiler.result_compile_congr hitem.found hitem.meaning config
  exact hresult

def nestedEqualities : Query where
  fields :=
    [("a", .list [.list [.scalar .null], .map [("b", .scalar .null)]]),
      ("$notor", .list [.map [("a", .scalar .null), ("$or", .map [("a", .scalar (.bool true))])]]),
      ("b", .map [("$gt", .scalar (.bool true)), ("$gt", .scalar (.bool false))])]

theorem distinctKeys_nestedEqualities : DistinctKeys nestedEqualities.fields := by
  have hinner : DistinctKeys [("a", .scalar (.bool true))] :=
    .fields (by decide) fun field hmem hkey => by
      cases List.mem_singleton.mp hmem
      cases hkey
  have hmiddle : DistinctKeys
      [("a", .scalar .null), ("$or", .map [("a", .scalar (.bool true))])] := by
    refine .fields (by decide) (List.forall_mem_cons.mpr ⟨nofun, ?_⟩)
    refine List.forall_mem_cons.mpr ⟨fun _ query hquery => ?_, nofun⟩
    cases List.mem_singleton.mp hquery
    exact hinner
  refine .fields (by decide) (List.forall_mem_cons.mpr ⟨nofun, ?_⟩)
  refine List.forall_mem_cons.mpr ⟨fun _ query hquery => ?_, ?_⟩
  · cases List.mem_singleton.mp hquery
    exact hmiddle
  · exact List.forall_mem_cons.mpr ⟨nofun, nofun⟩

theorem compile_withAny_nestedEqualities :
    DistinctKeys nestedEqualities.fields ∧
      (withAny nestedEqualities.fields).map Prod.fst = ["a", "$notor", "b"] ∧
      withAny nestedEqualities.fields ≠ nestedEqualities.fields ∧
      (({} : Compiler).compile { fields := withAny nestedEqualities.fields }).result =
        (({} : Compiler).compile nestedEqualities).result := by
  refine ⟨distinctKeys_nestedEqualities, rfl, fun h => ?_,
    compile_withAny {} nestedEqualities distinctKeys_nestedEqualities⟩
  cases h

end DocQuery
