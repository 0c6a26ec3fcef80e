import DocQuery.Proofs.Dependence

/-!
# Queries without transitions

Of the field operators three, with their negations, look at the previous version of a
document.  A query that names none of them is about the current document alone, whatever
stands in its operands.
-/

namespace DocQuery

/-! ## Names of operators -/

def transitionNames : List String :=
  ["$changed", "$notchanged", "$from", "$notfrom", "$to", "$notto"]

/-- The operators that a field of a query names: the keys of its map, unless the map is the
operand of a clause operator. -/
def operatorNamesOf (field : String × Term) : List String :=
  match field.2 with
  | .map entries => if isClauseOperator field.1 then [] else Entries.keys entries
  | _ => []

def operatorNames (fields : List (String × Term)) : List String :=
  (positions fields).flatMap operatorNamesOf

section

variable {key name : String} {term : Term} {rest fields : List (String × Term)}

theorem mem_operatorNames_of_position {field : String × Term} (hfield : field ∈ positions fields)
    (hname : name ∈ operatorNamesOf field) : name ∈ operatorNames fields :=
  List.mem_flatMap.mpr ⟨field, hfield, hname⟩

theorem mem_operatorNames_of_entry {entries : List (String × Term)} {entry : String × Term}
    (hform : form key term = .operators entries) (hentry : entry ∈ entries) :
    entry.1 ∈ operatorNames ((key, term) :: rest) := by
  obtain ⟨hkey, rfl⟩ := form_eq_operators_iff.mp hform
  refine mem_operatorNames_of_position (mem_positions_self key _ rest) ?_
  have hclause : isClauseOperator key = false := by
    rw [isClauseOperator_eq, hkey]
    rfl
  rw [operatorNamesOf, hclause]
  exact List.mem_map_of_mem hentry

theorem mem_operatorNames_of_rest (h : name ∈ operatorNames rest) :
    name ∈ operatorNames ((key, term) :: rest) := by
  obtain ⟨field, hfield, hname⟩ := List.mem_flatMap.mp h
  exact mem_operatorNames_of_position (mem_positions_of_rest hfield) hname

theorem mem_operatorNames_of_subquery (hkey : takesQueries key = true)
    (hfields : Term.map fields ∈ term.elements) (h : name ∈ operatorNames fields) :
    name ∈ operatorNames ((key, term) :: rest) := by
  obtain ⟨field, hfield, hname⟩ := List.mem_flatMap.mp h
  exact mem_operatorNames_of_position (mem_positions_of_subquery hkey hfields hfield) hname

end

/-! ## Words -/

namespace FieldWord

/-- Whether a word says something of the value that a field had before. -/
def isTransition : FieldWord → Bool
  | changed | leftFrom | changedTo => true
  | _ => false

/-- Any other word is about the present value alone. -/
theorem holds_of_now {word : FieldWord} (plain : word.isTransition = false) (operand : Term)
    {field other : FieldHistory} (now : other.now = field.now) :
    word.holds operand other = word.holds operand field := by
  cases word with
  | changed | leftFrom | changedTo => cases plain
  | differs | present | nil | anyOf | like | regex | greater | notLess | less | notGreater
  | modulo => simp only [holds, now]

end FieldWord

theorem isTransition_of_not_mem {name : String} {signed : Signed FieldWord}
    (hname : Signed.ofText? name = some signed) (plain : name ∉ transitionNames) :
    signed.word.isTransition = false := by
  rw [← Signed.text_of_ofText? hname] at plain
  obtain ⟨word, negated⟩ := signed
  cases word with
  | changed | leftFrom | changedTo => cases negated <;> exact absurd (by decide) plain
  | differs | present | nil | anyOf | like | regex | greater | notLess | less | notGreater
  | modulo => rfl

theorem entryHolds_of_now {entry : String × Term} (plain : entry.1 ∉ transitionNames)
    {field other : FieldHistory} (now : other.now = field.now) :
    entryHolds entry other = entryHolds entry field := by
  unfold entryHolds
  cases hname : (Signed.ofText? entry.1 : Option (Signed FieldWord)) with
  | none => rfl
  | some signed =>
      exact congrArg signed.outcome
        (FieldWord.holds_of_now (isTransition_of_not_mem hname plain) entry.2 now)

/-! ## Queries -/

section

variable {revision other : Revision}

/-- A field without transitions says the same of revisions with one current document. -/
theorem fieldHolds_of_current (same : other.current = revision.current) {key : String}
    {term : Term} {rest : List (String × Term)} (superseded : Bool)
    (plain : ∀ name ∈ operatorNames ((key, term) :: rest), name ∉ transitionNames)
    (subqueries : takesQueries key = true → ∀ fields, Term.map fields ∈ term.elements →
      means fields other = means fields revision) :
    fieldHolds key term superseded (meansSome term other) other =
      fieldHolds key term superseded (meansSome term revision) revision := by
  have now (name : String) : (other.field name).now = (revision.field name).now :=
    congrArg (Json.field? name) same
  unfold fieldHolds
  cases hform : form key term with
  | pattern pattern => rw [now]
  | operators entries =>
      rw [Bool.eq_iff_iff, List.all_eq_true, List.all_eq_true]
      refine forall₂_congr fun entry hentry => ?_
      rw [entryHolds_of_now (plain _ (mem_operatorNames_of_entry hform hentry)) (now key)]
  | ignored => rfl
  | equality => rw [now]
  | clause signed =>
      obtain ⟨word, negated⟩ := signed
      refine congrArg (Signed.outcome _) ?_
      cases word with
      | hasFields => simp only [ClauseWord.holds, now]
      | anyQuery =>
          exact meansSome_congr
            (subqueries (takesQueries_of_word (form_eq_clause_iff.mp hform).2 rfl))

theorem means_of_current (same : other.current = revision.current)
    {fields : List (String × Term)}
    (plain : ∀ name ∈ operatorNames fields, name ∉ transitionNames) :
    means fields other = means fields revision := by
  induction fields using fields_induction with
  | nil => rfl
  | cons key term rest hsub ih =>
      rw [means, means, ih fun name hname => plain name (mem_operatorNames_of_rest hname),
        fieldHolds_of_current same (hasEquality key rest) plain fun hkey inner hinner =>
          hsub inner hinner fun name hname =>
            plain name (mem_operatorNames_of_subquery hkey hinner hname)]

end

/-- The test of a query without transition operators does not look at the previous version
of a document: with one it gives what it gives without. -/
theorem passes_ignores_previous (config : Config) {query : Query} {predicate : Predicate}
    (compiled : (({ config } : Compiler).compile query).result = .ok predicate)
    (plain : ∀ name ∈ operatorNames query.fields, name ∉ transitionNames)
    (document before : Json) :
    predicate.passes { current := document, previous := some before } =
        predicate.passes { current := document, previous := none } ∧
      predicate.passes { current := document, previous := none } =
        predicate.matchesDocument document := by
  rw [Compiler.result_compile_standard, verdict_eq_ok_iff] at compiled
  obtain ⟨-, rfl⟩ := compiled
  refine ⟨?_, rfl⟩
  rw [Predicate.passes_ofRevision, Predicate.passes_ofRevision]
  refine means_of_current ?_ plain
  rfl

/-- Names of transition operators as keys of the query and inside operands, where they are
no operators. -/
def transitionsAsValues : Query where
  fields := [("a", .map [("$any", .list [.map [("$changed", .scalar (.bool true))]])]),
    ("$from", .scalar (.string "x")),
    ("$notor", .list [.map [("b", .list [.map [("$to", .scalar .null)]])],
      .map [("c", .map [("$notexists", .scalar (.bool false))])]])]

theorem passes_ignores_previous_asValues :
    let document := Json.object [("a", .object [("$changed", .bool true)])]
    ∃ predicate, (permissiveCompiler.compile transitionsAsValues).result = .ok predicate ∧
      operatorNames transitionsAsValues.fields = ["$any", "$notexists"] ∧
      predicate.matchesDocument document = true ∧
      predicate.passes { current := document, previous := some document } = true := by
  intro document
  have hcompiled : (permissiveCompiler.compile transitionsAsValues).result = .ok _ := rfl
  have hnames : operatorNames transitionsAsValues.fields = ["$any", "$notexists"] := rfl
  obtain ⟨hprevious, hnone⟩ := passes_ignores_previous _ hcompiled
    (by rw [hnames]; decide) document document
  exact ⟨_, hcompiled, hnames, rfl, (hprevious.trans hnone).trans rfl⟩

end DocQuery
