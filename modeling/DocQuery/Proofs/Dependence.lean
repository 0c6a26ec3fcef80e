import DocQuery.Proofs.Strictness

/-!
# What a query depends on

A query reads documents through look-ups of the fields that it mentions: those that are
keys of it or of its sub-queries, and those whose presence it asks for.  Documents that agree
on these fields are the same to it, and a value without fields is the same to it as an object
without members.
-/

namespace DocQuery

/-! ## Mentioned fields -/

/-- The fields that a field of a query mentions: its key, and the names that a test of
presence lists. -/
def mentionedBy (field : String × Term) : List String :=
  field.1 ::
    if field.1 = "$has" ∨ field.1 = "$nothas" then field.2.elements.filterMap Term.string?
    else []

def mentioned (fields : List (String × Term)) : List String :=
  (positions fields).flatMap mentionedBy

section

variable {key name : String} {term : Term} {rest fields : List (String × Term)}

theorem mem_mentioned_of_position {field : String × Term} (hfield : field ∈ positions fields)
    (hname : name ∈ mentionedBy field) : name ∈ mentioned fields :=
  List.mem_flatMap.mpr ⟨field, hfield, hname⟩

theorem key_mem_mentioned (key : String) (term : Term) (rest : List (String × Term)) :
    key ∈ mentioned ((key, term) :: rest) :=
  mem_mentioned_of_position (mem_positions_self key term rest) List.mem_cons_self

theorem mem_mentioned_of_rest (h : name ∈ mentioned rest) :
    name ∈ mentioned ((key, term) :: rest) := by
  obtain ⟨field, hfield, hname⟩ := List.mem_flatMap.mp h
  exact mem_mentioned_of_position (mem_positions_of_rest hfield) hname

theorem mem_mentioned_of_subquery (hkey : takesQueries key = true)
    (hfields : Term.map fields ∈ term.elements) (h : name ∈ mentioned fields) :
    name ∈ mentioned ((key, term) :: rest) := by
  obtain ⟨field, hfield, hname⟩ := List.mem_flatMap.mp h
  exact mem_mentioned_of_position (mem_positions_of_subquery hkey hfields hfield) hname

theorem mem_mentioned_of_name {negated : Bool} {part : Term}
    (hkey : Signed.ofText? key = some ⟨ClauseWord.hasFields, negated⟩)
    (hpart : part ∈ term.elements) (hname : part.string? = some name) :
    name ∈ mentioned ((key, term) :: rest) := by
  have htext : key = "$has" ∨ key = "$nothas" := by
    rw [← Signed.text_of_ofText? hkey]
    cases negated
    · exact .inl rfl
    · exact .inr rfl
  refine mem_mentioned_of_position (mem_positions_self key term rest) ?_
  rw [mentionedBy, if_pos htext]
  exact List.mem_cons_of_mem key (List.mem_filterMap.mpr ⟨part, hpart, hname⟩)

end

/-! ## Agreement -/

/-- Whether two revisions agree on fields: both have a previous version or neither, and the
same is found under each of the keys, in each version. -/
structure Revision.AgreesOn (keys : List String) (revision other : Revision) : Prop where
  current : ∀ key ∈ keys, other.current.field? key = revision.current.field? key
  previous : Option.Rel (fun before after => ∀ key ∈ keys, after.field? key = before.field? key)
    revision.previous other.previous

theorem Revision.AgreesOn.field {keys : List String} {revision other : Revision}
    (h : revision.AgreesOn keys other) :
    ∀ key ∈ keys, other.field key = revision.field key := by
  intro key hkey
  obtain ⟨current, previous⟩ := revision
  obtain ⟨current', previous'⟩ := other
  obtain ⟨hcurrent, hprevious⟩ := h
  have hbefore : previous'.map (Json.field? key) = previous.map (Json.field? key) := by
    cases hprevious with
    | none => rfl
    | some hsame => exact congrArg some (hsame key hkey)
  rw [Revision.field, Revision.field, hcurrent key hkey, hbefore]

/-! ## Meanings -/

section

variable {revision other : Revision} {key : String} {term : Term}
  {rest : List (String × Term)}

theorem holds_hasFields_congr
    (agree : ∀ part ∈ term.elements, ∀ name, part.string? = some name →
      other.field name = revision.field name) (before after : Bool) :
    ClauseWord.hasFields.holds term after other =
      ClauseWord.hasFields.holds term before revision := by
  simp only [ClauseWord.holds]
  rw [Bool.eq_iff_iff, List.all_eq_true, List.all_eq_true]
  refine forall₂_congr fun part hpart => ?_
  cases hname : part.string? with
  | none => rfl
  | some name => rw [Option.any_some, Option.any_some, agree part hpart name hname]

theorem meansSome_congr
    (agree : ∀ fields, Term.map fields ∈ term.elements →
      means fields other = means fields revision) :
    meansSome term other = meansSome term revision := by
  rw [meansSome_eq, meansSome_eq, Bool.eq_iff_iff, List.any_eq_true, List.any_eq_true]
  refine exists_congr fun item => and_congr_right fun hitem => ?_
  cases item with
  | map fields => rw [meansItem, meansItem, agree fields hitem]
  | scalar | regex | list => rfl

/-- A field of a query says the same of revisions that agree on what it mentions. -/
theorem fieldHolds_congr (superseded : Bool)
    (agree : ∀ name ∈ mentioned ((key, term) :: rest), other.field name = revision.field name)
    (subqueries : takesQueries key = true → ∀ fields, Term.map fields ∈ term.elements →
      means fields other = means fields revision) :
    fieldHolds key term superseded (meansSome term other) other =
      fieldHolds key term superseded (meansSome term revision) revision := by
  have hown := agree key (key_mem_mentioned key term rest)
  unfold fieldHolds
  -- Maps in the term of another form are no queries, and nothing is said about them.
  cases hform : form key term with
  | pattern pattern => rw [hown]
  | operators entries => rw [hown]
  | ignored => rfl
  | equality => rw [hown]
  | clause signed =>
      obtain ⟨word, negated⟩ := signed
      have hkey := (form_eq_clause_iff.mp hform).2
      refine congrArg (Signed.outcome _) ?_
      cases word with
      | hasFields =>
          exact holds_hasFields_congr (fun part hpart name hname =>
            agree name (mem_mentioned_of_name hkey hpart hname)) _ _
      | anyQuery =>
          have hqueries : takesQueries key = true := by
            rw [takesQueries_eq, hkey]
            rfl
          exact meansSome_congr (subqueries hqueries)

end

/-- A query means the same of revisions that agree on what it mentions. -/
theorem means_congr {fields : List (String × Term)} {revision other : Revision}
    (agree : ∀ name ∈ mentioned fields, other.field name = revision.field name) :
    means fields other = means fields revision := by
  induction fields using fields_induction with
  | nil => rfl
  | cons key term rest hsub ih =>
      rw [means, means, ih fun name hname => agree name (mem_mentioned_of_rest hname),
        fieldHolds_congr (hasEquality key rest) agree fun hkey inner hinner =>
          hsub inner hinner fun name hname =>
            agree name (mem_mentioned_of_subquery hkey hinner hname)]

/-! ## Compiled queries -/

theorem Json.field?_eq_none {value : Json} (h : value.kind ≠ .object) (key : String) :
    value.field? key = none := by
  cases value with
  | object members => exact absurd rfl h
  | null | bool | number | string | array => rfl

/-- The test of a query gives the same result for revisions that agree on the fields that the
query mentions.  So it takes any value that is no object for one without members, as the
document and as its previous version. -/
theorem passes_depends_on_mentioned (config : Config) {query : Query} {predicate : Predicate}
    (compiled : (({ config } : Compiler).compile query).result = .ok predicate) :
    (∀ revision other, Revision.AgreesOn (mentioned query.fields) revision other →
        predicate.passes other = predicate.passes revision) ∧
      (∀ document previous, document.kind ≠ .object →
        predicate.passes { current := document, previous } =
          predicate.passes { current := .object [], previous }) ∧
      ∀ document before, before.kind ≠ .object →
        predicate.passes { current := document, previous := some before } =
          predicate.passes { current := document, previous := some (.object []) } := by
  rw [Compiler.result_compile_standard, verdict_eq_ok_iff] at compiled
  obtain ⟨-, rfl⟩ := compiled
  have hagree (revision other : Revision)
      (h : Revision.AgreesOn (mentioned query.fields) revision other) :
      (Predicate.ofRevision (means query.fields)).passes other =
        (Predicate.ofRevision (means query.fields)).passes revision :=
    means_congr h.field
  refine ⟨hagree, fun document previous hkind => ?_, fun document before hkind => ?_⟩
  · refine hagree _ _ ⟨fun key _ => Json.field?_eq_none hkind key, ?_⟩
    cases previous with
    | none => exact .none
    | some before => exact .some fun _ _ => rfl
  · exact hagree _ _ ⟨fun _ _ => rfl, .some fun key _ => Json.field?_eq_none hkind key⟩

/-- A change of one field, and no presence of others in the sub-queries. -/
def changedAlone : Query where
  fields := [("a", .map [("$changed", .scalar (.bool true))]),
    ("$notor", .list [.map [("b", .scalar (.bool true))],
      .map [("$has", .list [.scalar (.string "c")])]])]

theorem passes_depends_on_mentioned_changedAlone :
    let before := Json.object [("a", .null), ("c", .null)]
    let after := Json.object [("x", .bool true), ("a", .bool true), ("b", .null)]
    ∃ predicate, (strictCompiler.compile changedAlone).result = .ok predicate ∧
      mentioned changedAlone.fields = ["a", "$notor", "b", "$has", "c"] ∧
      predicate.passes { current := after, previous := some before } = true ∧
      predicate.passes
        { current := .object [("b", .null), ("a", .bool true)],
          previous := some (.object [("c", .null), ("y", before), ("a", .null)]) } = true ∧
      predicate.passes { current := .string "a", previous := some (.array [before]) } =
        predicate.passes { current := .object [], previous := some (.object []) } := by
  intro before after
  have hcompiled : (strictCompiler.compile changedAlone).result = .ok _ := rfl
  have hmentioned : mentioned changedAlone.fields = ["a", "$notor", "b", "$has", "c"] := rfl
  obtain ⟨hagree, hcurrent, hprevious⟩ := passes_depends_on_mentioned _ hcompiled
  refine ⟨_, hcompiled, hmentioned, rfl, ?_, ?_⟩
  · refine (hagree { current := after, previous := some before } _ ⟨?_, .some ?_⟩).trans rfl
    · rw [hmentioned]
      simp only [List.forall_mem_cons]
      exact ⟨rfl, rfl, rfl, rfl, rfl, List.forall_mem_nil _⟩
    · rw [hmentioned]
      simp only [List.forall_mem_cons]
      exact ⟨rfl, rfl, rfl, rfl, rfl, List.forall_mem_nil _⟩
  · rw [hcurrent _ _ (by decide), hprevious _ _ (by decide)]

end DocQuery
