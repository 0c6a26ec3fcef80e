import DocQuery.Proofs.ByteOrder
import DocQuery.Proofs.Registration

/-!
# What catalogs hold

Every registration writes two texts, the name of its operator and that of the negation,
and either can be one that an earlier registration wrote.  The main statement is that a
catalog holds under each text what the last registration left there that wrote it, and
nothing else, whatever the history; definitions that are refused leave no trace.
-/

namespace DocQuery

variable {κ : Type}

/-- Whether a registration writes a text: as the name of its operator, or as the name of
the negation. -/
def Registration.Writes (registration : Registration κ) (text : String) : Prop :=
  registration.1.text = text ∨ registration.1.negated.text = text

instance (registration : Registration κ) (text : String) :
    Decidable (registration.Writes text) :=
  inferInstanceAs (Decidable (_ ∨ _))

theorem Registration.written?_eq_none_iff (registration : Registration κ) (negate : κ → κ)
    (text : String) : registration.written? negate text = none ↔ ¬ registration.Writes text := by
  unfold written? Writes
  by_cases hname : registration.1.text = text
  · simp [hname]
  · by_cases hnegated : registration.1.negated.text = text
    · simp [hname, hnegated]
    · simp [hname, hnegated]

/-- What is written as derived is the negation of the operator that is registered. -/
theorem Registration.operator_of_written? {registration : Registration κ} {negate : κ → κ}
    {text : String} {entry : TableEntry κ}
    (written : registration.written? negate text = some entry)
    (derived : entry.origin = .derived) :
    registration.1.negated.text = text ∧ entry.operator = negate registration.2 := by
  unfold written? at written
  split at written
  · cases written
    cases derived
  · split at written
    · rename_i hnegated
      cases written
      exact ⟨hnegated, rfl⟩
    · cases written

/-! ## Tables -/

namespace OperatorTable

/-- A table holds what registrations in order wrote last. -/
structure Records (table : OperatorTable κ) (negate : κ → κ)
    (registrations : List (Registration κ)) : Prop where
  absent : ∀ text, (∀ registration ∈ registrations, ¬ registration.Writes text) →
    table.find? text = none
  defined : ∀ before registration after,
    registrations = before ++ registration :: after →
    (∀ later ∈ after, ¬ later.Writes registration.1.text) →
    table.find? registration.1.text =
      some { operator := registration.2, origin := .defined }
  derived : ∀ before registration after,
    registrations = before ++ registration :: after →
    (∀ later ∈ after, ¬ later.Writes registration.1.negated.text) →
    table.find? registration.1.negated.text =
      some { operator := negate registration.2, origin := .derived }
  /-- No operator is negated but those that were registered. -/
  negated_once : ∀ text entry, table.find? text = some entry → entry.origin = .derived →
    ∃ registration ∈ registrations, registration.1.negated.text = text ∧
      entry.operator = negate registration.2
  ascending : table.names.Pairwise fun a b => compare a b = .lt
  listed : ∀ text, text ∈ table.names ↔
    ∃ registration ∈ registrations, registration.Writes text

theorem find?_eq_none_iff_not_mem_names (table : OperatorTable κ) (text : String) :
    table.find? text = none ↔ text ∉ table.names := by
  rw [find?, Entries.find?_eq_none_iff, names, List.mem_mergeSort]

theorem distinct_registerAll {table : OperatorTable κ} (negate : κ → κ)
    (registrations : List (Registration κ)) (distinct : Entries.Distinct table.entries) :
    Entries.Distinct (table.registerAll negate registrations).entries := by
  induction registrations generalizing table with
  | nil =>
      exact distinct
  | cons registration rest ih =>
      exact ih ((distinct.insert _ _).insert _ _)

/-- Of distinct names none comes twice, and each stands before those that are greater. -/
theorem ascending_names {table : OperatorTable κ} (distinct : Entries.Distinct table.entries) :
    table.names.Pairwise fun a b => compare a b = .lt :=
  Text.ascending_mergeSort id (by rw [List.map_id]; exact distinct)

theorem exists_written_of_find? {negate : κ → κ} {registrations : List (Registration κ)}
    {text : String} {entry : TableEntry κ}
    (found : (({} : OperatorTable κ).registerAll negate registrations).find? text = some entry) :
    ∃ registration ∈ registrations, registration.written? negate text = some entry := by
  rw [find?_registerAll] at found
  have hempty : ({} : OperatorTable κ).find? text = none := rfl
  rw [hempty, Option.or_none] at found
  obtain ⟨registration, hmem, hwritten⟩ := List.exists_of_findSome?_eq_some found
  exact ⟨registration, List.mem_reverse.mp hmem, hwritten⟩

/-- What a table holds after registrations in order, when it was empty before. -/
theorem records_registerAll (negate : κ → κ) (registrations : List (Registration κ)) :
    (({} : OperatorTable κ).registerAll negate registrations).Records negate registrations where
  absent text untouched :=
    find?_registerAll_of_untouched {} negate fun registration hmem =>
      (registration.written?_eq_none_iff negate text).mpr (untouched registration hmem)
  defined before registration after split untouched := by
    rw [split]
    exact find?_registerAll_middle {} negate before
      (Registration.written?_self negate registration.1 registration.2)
      fun later hmem => (later.written?_eq_none_iff negate _).mpr (untouched later hmem)
  derived before registration after split untouched := by
    rw [split]
    exact find?_registerAll_middle {} negate before
      (Registration.written?_negated negate registration.1 registration.2)
      fun later hmem => (later.written?_eq_none_iff negate _).mpr (untouched later hmem)
  negated_once text entry found derived := by
    obtain ⟨registration, hmem, hwritten⟩ := exists_written_of_find? found
    exact ⟨registration, hmem, Registration.operator_of_written? hwritten derived⟩
  ascending := ascending_names (distinct_registerAll negate registrations List.nodup_nil)
  listed text := by
    constructor
    · intro hlisted
      cases hfind : (({} : OperatorTable κ).registerAll negate registrations).find? text with
      | none =>
          exact absurd hlisted ((find?_eq_none_iff_not_mem_names _ text).mp hfind)
      | some entry =>
          obtain ⟨registration, hmem, hwritten⟩ := exists_written_of_find? hfind
          refine ⟨registration, hmem, Decidable.byContradiction fun hwrites => ?_⟩
          rw [(registration.written?_eq_none_iff negate text).mpr hwrites] at hwritten
          cases hwritten
    · rintro ⟨registration, hmem, hwrites⟩
      refine Decidable.byContradiction fun hunlisted => ?_
      have hnone := (find?_eq_none_iff_not_mem_names _ text).mpr hunlisted
      rw [find?_registerAll] at hnone
      have hall := List.findSome?_eq_none_iff.mp (Option.or_eq_none_iff.mp hnone).1
        registration (List.mem_reverse.mpr hmem)
      exact (registration.written?_eq_none_iff negate text).mp hall hwrites

end OperatorTable

/-! ## Lists of definitions -/

/-- Whether every text of some definitions is a name. -/
def AllNamed (definitions : List (String × κ)) : Prop :=
  ∀ definition ∈ definitions, ∃ name, OperatorName.parse definition.1 = .ok name

namespace Catalog

variable (catalog : Catalog)

theorem define_of_error {text : String} {error : QueryError}
    (refused : OperatorName.parse text = .error error) (operator : FieldOperator) :
    catalog.define text operator = (catalog, Reported.fail error) := by
  rw [define, refused]

theorem defineClause_of_error {text : String} {error : QueryError}
    (refused : OperatorName.parse text = .error error) (operator : ClauseOperator) :
    catalog.defineClause text operator = (catalog, Reported.fail error) := by
  rw [defineClause, refused]

theorem defineAll_cons_of_error {text : String} {error : QueryError}
    (refused : OperatorName.parse text = .error error) (operator : FieldOperator)
    (rest : List (String × FieldOperator)) :
    catalog.defineAll ((text, operator) :: rest) = (catalog, Reported.fail error) := by
  rw [defineAll, define_of_error catalog refused]
  rfl

theorem defineAll_cons_of_ok {text : String} {name : OperatorName}
    (named : OperatorName.parse text = .ok name) (operator : FieldOperator)
    (rest : List (String × FieldOperator)) :
    catalog.defineAll ((text, operator) :: rest) =
      (((catalog.define text operator).1.defineAll rest).1,
        (catalog.define text operator).2.andThen fun _ =>
          ((catalog.define text operator).1.defineAll rest).2) := by
  rw [defineAll, define, named]
  rfl

/-- Names in a list are registered one after the other, as if each was defined alone. -/
theorem defineAll_append {before : List (String × FieldOperator)} (named : AllNamed before)
    (after : List (String × FieldOperator)) :
    catalog.defineAll (before ++ after) =
      (((catalog.defineAll before).1.defineAll after).1,
        (catalog.defineAll before).2.andThen fun _ =>
          ((catalog.defineAll before).1.defineAll after).2) := by
  induction before generalizing catalog with
  | nil =>
      have hafter : (Reported.ofExcept (.ok ())).andThen (fun _ => (catalog.defineAll after).2) =
          (catalog.defineAll after).2 := Reported.pure_andThen () _
      exact Prod.ext rfl hafter.symm
  | cons definition rest ih =>
      obtain ⟨text, operator⟩ := definition
      obtain ⟨name, hname⟩ := named (text, operator) List.mem_cons_self
      have hrest : AllNamed rest := fun other hmem =>
        named other (List.mem_cons_of_mem _ hmem)
      rw [List.cons_append, defineAll_cons_of_ok catalog hname,
        defineAll_cons_of_ok catalog hname, ih _ hrest]
      exact Prod.ext rfl (Reported.andThen_assoc _ _ _).symm

theorem result_defineAll_of_named {definitions : List (String × FieldOperator)}
    (named : AllNamed definitions) : (catalog.defineAll definitions).2.result = .ok () := by
  induction definitions generalizing catalog with
  | nil =>
      rfl
  | cons definition rest ih =>
      obtain ⟨text, operator⟩ := definition
      obtain ⟨name, hname⟩ := named (text, operator) List.mem_cons_self
      have hrest := ih (catalog.define text operator).1 fun other hmem =>
        named other (List.mem_cons_of_mem _ hmem)
      have hfirst : (catalog.define text operator).2.result = .ok () := by
        rw [define, hname]
        rfl
      rw [defineAll_cons_of_ok catalog hname]
      simp only [Reported.andThen, hfirst, hrest]

theorem defineAll_eq_foldl {definitions : List (String × FieldOperator)}
    (named : AllNamed definitions) :
    (catalog.defineAll definitions).1 =
      definitions.foldl
        (fun catalog definition => (catalog.define definition.1 definition.2).1) catalog := by
  induction definitions generalizing catalog with
  | nil =>
      rfl
  | cons definition rest ih =>
      obtain ⟨text, operator⟩ := definition
      obtain ⟨name, hname⟩ := named (text, operator) List.mem_cons_self
      rw [defineAll_cons_of_ok catalog hname, List.foldl_cons]
      exact ih _ fun other hmem => named other (List.mem_cons_of_mem _ hmem)

/-- A refused text in a list ends it, and what stands before is registered. -/
theorem defineAll_of_refused {before : List (String × FieldOperator)} (named : AllNamed before)
    {text : String} {error : QueryError} (refused : OperatorName.parse text = .error error)
    (operator : FieldOperator) (after : List (String × FieldOperator)) :
    (catalog.defineAll (before ++ (text, operator) :: after)).1 =
        before.foldl
          (fun catalog definition => (catalog.define definition.1 definition.2).1) catalog ∧
      (catalog.defineAll (before ++ (text, operator) :: after)).2.result = .error error := by
  have hstop := defineAll_cons_of_error (catalog.defineAll before).1 refused operator after
  have hnamed := catalog.result_defineAll_of_named named
  rw [catalog.defineAll_append named, hstop]
  refine ⟨catalog.defineAll_eq_foldl named, ?_⟩
  simp only [Reported.andThen, hnamed, Reported.result_fail]

/-! ## The two tables -/

theorem clauses_define (text : String) (operator : FieldOperator) :
    (catalog.define text operator).1.clauses = catalog.clauses := by
  rw [Definition.define_eq]

theorem clauses_defineAll (definitions : List (String × FieldOperator)) :
    (catalog.defineAll definitions).1.clauses = catalog.clauses := by
  rw [Definition.defineAll_eq]

theorem fields_defineClause (text : String) (operator : ClauseOperator) :
    (catalog.defineClause text operator).1.fields = catalog.fields := by
  rw [Definition.defineClause_eq]

end Catalog

/-! ## Histories -/

/-- Whatever the history, each table of a catalog holds what was registered for it last
under each text.  A text that is no name is refused and changes nothing, or ends a list of
definitions after those before it; and neither table is touched by definitions for the
other one. -/
theorem catalog_holds_last_writes (history : History) :
    history.catalog.fields.Records FieldOperator.negate history.fieldRegistrations ∧
      history.catalog.clauses.Records ClauseOperator.negate history.clauseRegistrations ∧
      (∀ text error, OperatorName.parse text = .error error →
        (∀ operator,
          history.catalog.define text operator = (history.catalog, Reported.fail error)) ∧
        (∀ operator,
          history.catalog.defineClause text operator =
            (history.catalog, Reported.fail error)) ∧
        ∀ before, AllNamed before → ∀ operator after,
          (history.catalog.defineAll (before ++ (text, operator) :: after)).1 =
              before.foldl
                (fun catalog definition => (catalog.define definition.1 definition.2).1)
                history.catalog ∧
            (history.catalog.defineAll (before ++ (text, operator) :: after)).2.result =
              .error error) ∧
      (∀ text operator,
        (history.catalog.define text operator).1.clauses = history.catalog.clauses) ∧
      (∀ definitions,
        (history.catalog.defineAll definitions).1.clauses = history.catalog.clauses) ∧
      ∀ text operator,
        (history.catalog.defineClause text operator).1.fields = history.catalog.fields := by
  refine ⟨?_, ?_, ?_, history.catalog.clauses_define, history.catalog.clauses_defineAll,
    history.catalog.fields_defineClause⟩
  · rw [history.catalog_eq]
    exact OperatorTable.records_registerAll _ _
  · rw [history.catalog_eq]
    exact OperatorTable.records_registerAll _ _
  · intro text error refused
    refine ⟨history.catalog.define_of_error refused,
      history.catalog.defineClause_of_error refused, ?_⟩
    intro before named operator after
    exact history.catalog.defineAll_of_refused named refused operator after

/-- The name `$notx` is defined, then taken by the negation of `$x`; that of its own
negation is then defined in turn, and a text that is no name keeps `$y` out. -/
def collisions : History where
  start := .empty
  definitions :=
    [.field "$notx" Standard.nil,
      .fields [("$x", Standard.present), ("x", Standard.like), ("$y", Standard.like)],
      .field "$notnotx" Standard.anyOf,
      .clause "$x" Standard.hasFields]

theorem catalog_holds_last_writes_collisions :
    collisions.catalog.fields.find? "$notx" =
        some { operator := Standard.present.negate, origin := .derived } ∧
      collisions.catalog.fields.find? "$notnotx" =
        some { operator := Standard.anyOf, origin := .defined } ∧
      collisions.catalog.fields.find? "$y" = none ∧
      collisions.catalog.clauses.find? "$notx" =
        some { operator := Standard.hasFields.negate, origin := .derived } ∧
      (collisions.catalog.defineAll
          [("$y", Standard.like), ("y", Standard.like), ("$z", Standard.like)]).1 =
        (collisions.catalog.define "$y" Standard.like).1 := by
  obtain ⟨hfields, hclauses, hrefused, _⟩ := catalog_holds_last_writes collisions
  have hnotx := hfields.derived [({ body := "notx" }, Standard.nil)]
    ({ body := "x" }, Standard.present) [({ body := "notnotx" }, Standard.anyOf)] rfl (by decide)
  have hnotnotx := hfields.defined
    [({ body := "notx" }, Standard.nil), ({ body := "x" }, Standard.present)]
    ({ body := "notnotx" }, Standard.anyOf) [] rfl nofun
  have habsent := hfields.absent "$y" (by decide)
  have hclause := hclauses.derived [] ({ body := "x" }, Standard.hasFields) [] rfl nofun
  have hnamed : AllNamed [("$y", Standard.like)] := by
    intro definition hmem
    cases List.mem_singleton.mp hmem
    exact ⟨{ body := "y" }, rfl⟩
  have hlist := ((hrefused "y" _ rfl).2.2 _ hnamed Standard.like [("$z", Standard.like)]).1
  exact ⟨hnotx, hnotnotx, habsent, hclause, hlist⟩

end DocQuery
