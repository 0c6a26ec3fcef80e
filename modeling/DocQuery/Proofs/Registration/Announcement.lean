import DocQuery.Proofs.Registration

/-!
# What registrations announce

A registration reports one entry, and looks for it at the name alone that it registers.
So it says that a defined operator was replaced exactly if one was registered under that
name; a defined operator that only the negation replaces goes without a word.
-/

namespace DocQuery

variable {κ : Type}

/-! ## Tables -/

namespace OperatorTable

/-- Whether registering a name replaces a defined operator, under the name or under that
of the negation. -/
def replacesDefined (table : OperatorTable κ) (name : OperatorName) : Bool :=
  table.origin? name.text == some .defined || table.origin? name.negated.text == some .defined

/-- The report of a registration that heeds all that it replaces. -/
def fullAnnouncement (table : OperatorTable κ) (name : OperatorName) : LogEntry :=
  if table.replacesDefined name then
    LogEntry.ofEvent .operatorOverridden .info [("operator", name.text)]
  else LogEntry.ofEvent .operatorDefined .trace [("operator", name.text)]

theorem announcement_of_defined {table : OperatorTable κ} {name : OperatorName}
    (h : table.origin? name.text = some .defined) :
    table.announcement name =
      LogEntry.ofEvent .operatorOverridden .info [("operator", name.text)] := by
  rw [announcement, h]

theorem announcement_of_not_defined {table : OperatorTable κ} {name : OperatorName}
    (h : table.origin? name.text ≠ some .defined) :
    table.announcement name =
      LogEntry.ofEvent .operatorDefined .trace [("operator", name.text)] := by
  unfold announcement
  split
  · exact absurd ‹_› h
  · rfl

/-- The announcement misses just the operators that are replaced by the negation alone. -/
theorem announcement_eq_fullAnnouncement_iff (table : OperatorTable κ) (name : OperatorName) :
    table.announcement name = table.fullAnnouncement name ↔
      (table.origin? name.negated.text = some .defined →
        table.origin? name.text = some .defined) := by
  have hreplaces : table.replacesDefined name = true ↔
      table.origin? name.text = some .defined ∨
        table.origin? name.negated.text = some .defined := by
    rw [replacesDefined, Bool.or_eq_true, beq_iff_eq, beq_iff_eq]
  unfold fullAnnouncement
  by_cases hname : table.origin? name.text = some .defined
  · rw [announcement_of_defined hname, if_pos (hreplaces.mpr (.inl hname))]
    exact iff_of_true rfl fun _ => hname
  · rw [announcement_of_not_defined hname]
    by_cases hnegated : table.origin? name.negated.text = some .defined
    · rw [if_pos (hreplaces.mpr (.inr hnegated))]
      refine iff_of_false ?_ fun h => hname (h hnegated)
      intro h
      cases congrArg LogEntry.severity h
    · rw [if_neg fun h => (hreplaces.mp h).elim hname hnegated]
      exact iff_of_true rfl fun h => absurd h hnegated

def announcements (negate : κ → κ) :
    OperatorTable κ → List (Registration κ) → List LogEntry
  | _, [] => []
  | table, registration :: rest =>
      table.announcement registration.1 ::
        announcements negate (table.register negate registration.1 registration.2) rest

/-- Each registration is announced against the table that those before it made. -/
theorem announcements_middle (negate : κ → κ) (table : OperatorTable κ)
    (before : List (Registration κ)) (registration : Registration κ)
    (after : List (Registration κ)) :
    (announcements negate table (before ++ registration :: after))[before.length]? =
      some ((table.registerAll negate before).announcement registration.1) := by
  induction before generalizing table with
  | nil =>
      rfl
  | cons first rest ih =>
      exact ih (table.register negate first.1 first.2)

end OperatorTable

/-! ## Definitions -/

namespace Definition

def reported (catalog : Catalog) : Definition → List LogEntry
  | field name operator => (catalog.define name operator).2.entries
  | fields definitions => (catalog.defineAll definitions).2.entries
  | clause name operator => (catalog.defineClause name operator).2.entries

theorem entries_defineAll (catalog : Catalog) (definitions : List (String × FieldOperator)) :
    (catalog.defineAll definitions).2.entries =
      catalog.fields.announcements FieldOperator.negate (accepted definitions) := by
  induction definitions generalizing catalog with
  | nil =>
      rfl
  | cons definition rest ih =>
      obtain ⟨text, operator⟩ := definition
      simp only [Catalog.defineAll, Catalog.define, accepted]
      cases OperatorName.parse text with
      | error error =>
          rfl
      | ok name =>
          exact congrArg (catalog.fields.announcement name :: ·)
            (ih (catalog.registerField name operator))

theorem reported_eq (catalog : Catalog) (definition : Definition) :
    definition.reported catalog =
      catalog.fields.announcements FieldOperator.negate definition.fieldRegistrations ++
        catalog.clauses.announcements ClauseOperator.negate definition.clauseRegistrations := by
  cases definition with
  | field name operator =>
      simp only [reported, Catalog.define, fieldRegistrations, clauseRegistrations, accepted]
      cases OperatorName.parse name <;> rfl
  | fields definitions =>
      simp only [reported, entries_defineAll, fieldRegistrations, clauseRegistrations,
        OperatorTable.announcements, List.append_nil]
  | clause name operator =>
      simp only [reported, Catalog.defineClause, fieldRegistrations, clauseRegistrations,
        accepted]
      cases OperatorName.parse name <;> rfl

theorem reported_field (catalog : Catalog) {definition : Definition}
    {before after : List (Registration FieldOperator)} {registration : Registration FieldOperator}
    (split : definition.fieldRegistrations = before ++ registration :: after) :
    (definition.reported catalog)[before.length]? =
      some ((catalog.fields.registerAll FieldOperator.negate before).announcement
        registration.1) := by
  have hmiddle := catalog.fields.announcements_middle FieldOperator.negate before registration
    after
  obtain ⟨hlength, _⟩ := List.getElem?_eq_some_iff.mp hmiddle
  rw [reported_eq, split, List.getElem?_append_left hlength, hmiddle]

theorem reported_clause (catalog : Catalog) {definition : Definition}
    {before after : List (Registration ClauseOperator)}
    {registration : Registration ClauseOperator}
    (split : definition.clauseRegistrations = before ++ registration :: after) :
    (definition.reported catalog)[before.length]? =
      some ((catalog.clauses.registerAll ClauseOperator.negate before).announcement
        registration.1) := by
  have hmiddle := catalog.clauses.announcements_middle ClauseOperator.negate before
    registration after
  have hfields : definition.fieldRegistrations = [] := by
    cases definition with
    | clause name operator => rfl
    | field | fields => cases before <;> cases split
  rw [reported_eq, split, hfields, OperatorTable.announcements, List.nil_append, hmiddle]

end Definition

/-! ## Histories -/

/-- A registration can replace a defined operator without saying so. -/
theorem replaces_silently :
    ¬ ∀ (history : History) (definition : Definition) before registration after,
      definition.fieldRegistrations = before ++ registration :: after →
        (definition.reported history.catalog)[before.length]? =
          some ((history.catalog.fields.registerAll FieldOperator.negate before).fullAnnouncement
            registration.1) := by
  intro h
  -- Nothing stands under `$x`, but its negation takes the place of `$notx`.
  have hx := h { start := .empty, definitions := [.field "$notx" Standard.nil] }
    (.field "$x" Standard.present) [] ({ body := "x" }, Standard.present) [] rfl
  revert hx
  decide

/-- Whatever the history, each registration that a definition makes announces all that it
replaces exactly if a defined operator under the name of the negation comes with one under
the name itself. -/
theorem replacement_reported_iff (history : History) (definition : Definition) :
    (∀ before registration after,
      definition.fieldRegistrations = before ++ registration :: after →
      let table := history.catalog.fields.registerAll FieldOperator.negate before
      (definition.reported history.catalog)[before.length]? =
          some (table.fullAnnouncement registration.1) ↔
        (table.origin? registration.1.negated.text = some .defined →
          table.origin? registration.1.text = some .defined)) ∧
    ∀ before registration after,
      definition.clauseRegistrations = before ++ registration :: after →
      let table := history.catalog.clauses.registerAll ClauseOperator.negate before
      (definition.reported history.catalog)[before.length]? =
          some (table.fullAnnouncement registration.1) ↔
        (table.origin? registration.1.negated.text = some .defined →
          table.origin? registration.1.text = some .defined) := by
  constructor
  · intro before registration after split table
    rw [Definition.reported_field history.catalog split, Option.some_inj]
    exact table.announcement_eq_fullAnnouncement_iff registration.1
  · intro before registration after split table
    rw [Definition.reported_clause history.catalog split, Option.some_inj]
    exact table.announcement_eq_fullAnnouncement_iff registration.1

def bothDefined : History where
  start := .empty
  definitions := [.field "$x" Standard.nil, .field "$notx" Standard.present]

theorem replacement_reported_iff_bothDefined :
    ((Definition.fields [("$y", Standard.nil), ("$x", Standard.like)]).reported
        bothDefined.catalog)[1]? =
      some (LogEntry.ofEvent .operatorOverridden .info [("operator", "$x")]) := by
  have hreported := (replacement_reported_iff bothDefined
    (.fields [("$y", Standard.nil), ("$x", Standard.like)])).1
    [({ body := "y" }, Standard.nil)] ({ body := "x" }, Standard.like) [] rfl
  exact hreported.mpr fun _ => by decide +kernel

end DocQuery
