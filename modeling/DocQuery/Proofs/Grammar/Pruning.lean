import DocQuery.Proofs.Grammar.Finding

/-!
# Pruned queries

Pruning removes what a catalog has no operator for: entries of maps with unknown names,
and operator keys with plain values.  It removes nothing else, so a pruned query means
the same, and what was found wrong in the query besides unknown names is still found.
-/

namespace DocQuery

/-! ## Registered names -/

/-- Whether a field operator is registered under a name. -/
def isFieldOperator (name : String) : Bool :=
  (Catalog.standard.fields.operator? name).isSome

/-- Whether a clause operator is registered under a key. -/
def isClauseOperator (key : String) : Bool :=
  (Catalog.standard.clauses.operator? key).isSome

/-- Whether the operand of a key is read as sub-queries. -/
def takesQueries (key : String) : Bool :=
  key == "$or" || key == "$notor"

theorem isFieldOperator_eq (name : String) :
    isFieldOperator name = (Signed.ofText? name : Option (Signed FieldWord)).isSome := by
  rw [isFieldOperator, Catalog.standard_field, Option.isSome_map]

theorem isClauseOperator_eq (key : String) :
    isClauseOperator key = (Signed.ofText? key : Option (Signed ClauseWord)).isSome := by
  rw [isClauseOperator, Catalog.standard_clause, Option.isSome_map]

theorem takesQueries_eq (key : String) :
    takesQueries key =
      (Signed.ofText? key : Option (Signed ClauseWord)).any fun signed =>
        signed.word == .anyQuery := by
  cases h : (Signed.ofText? key : Option (Signed ClauseWord)) with
  | some signed =>
      obtain ⟨word, negated⟩ := signed
      rw [← Signed.text_of_ofText? h]
      cases word <;> cases negated <;> rfl
  | none =>
      have hne : ∀ other, (Signed.ofText? other : Option (Signed ClauseWord)).isSome →
          key ≠ other := by
        rintro other hother rfl
        rw [h] at hother
        cases hother
      have hor := hne "$or" rfl
      have hnotor := hne "$notor" rfl
      simp [takesQueries, hor, hnotor]

theorem takesQueries_of_word {key : String} {signed : Signed ClauseWord}
    (hkey : Signed.ofText? key = some signed) (hword : signed.word = .anyQuery) :
    takesQueries key = true := by
  rw [takesQueries_eq, hkey, Option.any_some, hword]
  rfl

/-! ## Cuts -/

/-- What pruning cuts from a field: nothing, something inside its sub-queries, entries of
its map, or the whole field. -/
inductive Cut
  | nothing
  | inside
  | entries (entries : List (String × Term))
  | whole

def cut (key : String) (term : Term) : Cut :=
  match term with
  -- A pattern stands for the pattern operator, whatever its key.
  | .regex _ => .nothing
  | _ =>
      if takesQueries key then .inside
      else if isClauseOperator key then .nothing
      else
        match term with
        | .map entries => .entries entries
        | _ => if isOperatorKey key then .whole else .nothing

def Form.cut : Form → Cut
  | pattern _ | equality | clause ⟨.hasFields, _⟩ => .nothing
  | clause ⟨.anyQuery, _⟩ => .inside
  | operators entries => .entries entries
  | ignored => .whole

theorem cut_eq (key : String) (term : Term) : cut key term = (form key term).cut := by
  unfold cut form
  rw [takesQueries_eq, isClauseOperator_eq]
  cases hkey : (Signed.ofText? key : Option (Signed ClauseWord)) with
  | some signed =>
      obtain ⟨word, negated⟩ := signed
      cases term <;> cases word <;> rfl
  | none =>
      cases term with
      | regex | map => rfl
      | scalar | list => cases isOperatorKey key <;> rfl

/-! ## Pruning -/

/-- What is left of a field, given its term with pruned sub-queries. -/
def pruneField (key : String) (term pruned : Term) : List (String × Term) :=
  match cut key term with
  | .nothing => [(key, term)]
  | .inside => [(key, pruned)]
  | .entries entries => [(key, .map (entries.filter fun entry => isFieldOperator entry.1))]
  | .whole => []

mutual

/-- A query without the entries of maps whose names are not registered, and without the
fields with operator keys that are not registered and values that are neither maps nor
patterns. -/
def prune : List (String × Term) → List (String × Term)
  | [] => []
  | (key, term) :: rest => pruneField key term (pruneOperand term) ++ prune rest

def pruneOperand : Term → Term
  | .map fields => .map (prune fields)
  | .list items => .list (pruneItems items)
  | term => term

def pruneItems : List Term → List Term
  | [] => []
  | .map fields :: rest => .map (prune fields) :: pruneItems rest
  | item :: rest => item :: pruneItems rest

end

def pruneItem : Term → Term
  | .map fields => .map (prune fields)
  | item => item

theorem pruneItems_eq (items : List Term) : pruneItems items = items.map pruneItem := by
  induction items with
  | nil =>
      rw [pruneItems, List.map_nil]
  | cons item rest ih =>
      rw [List.map_cons, ← ih]
      cases item <;> simp [pruneItems, pruneItem]

theorem elements_pruneOperand (term : Term) :
    (pruneOperand term).elements = term.elements.map pruneItem := by
  cases term with
  | list items =>
      simp only [pruneOperand, Term.elements, pruneItems_eq]
  | scalar | regex | map =>
      simp [pruneOperand, Term.elements, pruneItem]

/-! ## Deleted names -/

/-- The names that pruning removes with a field, given those it removes from the
sub-queries. -/
def fieldDeleted (key : String) (term : Term) (subqueries : List String) : List String :=
  match cut key term with
  | .nothing => []
  | .inside => subqueries
  | .entries entries => (entries.map Prod.fst).filter fun name => !isFieldOperator name
  | .whole => [key]

/-- The names that pruning removes, from left to right. -/
def deleted : List (String × Term) → List String :=
  gather fieldDeleted []

def itemDeleted : Term → List String :=
  gatherItem fieldDeleted []

theorem deleted_cons (key : String) (term : Term) (rest : List (String × Term)) :
    deleted ((key, term) :: rest) =
      fieldDeleted key term (term.elements.flatMap itemDeleted) ++ deleted rest :=
  gather_cons _ _ key term rest

/-! ## Findings of pruned queries -/

theorem form_pruneOperand {key : String} {term : Term} {signed : Signed ClauseWord}
    (h : form key term = .clause signed) : form key (pruneOperand term) = .clause signed := by
  obtain ⟨hterm, hkey⟩ := form_eq_clause_iff.mp h
  refine form_eq_clause_iff.mpr ⟨?_, hkey⟩
  intro pattern
  cases term with
  | regex other => exact absurd rfl (hterm other)
  | scalar | map | list => simp [pruneOperand]

theorem form_map {key : String} {term : Term} {entries : List (String × Term)}
    (h : form key term = .operators entries) (others : List (String × Term)) :
    form key (.map others) = .operators others :=
  form_eq_operators_iff.mpr ⟨(form_eq_operators_iff.mp h).1, rfl⟩

theorem entryFindings_filter (entries : List (String × Term)) :
    (entries.filter fun entry => isFieldOperator entry.1).flatMap entryFindings =
      (entries.flatMap entryFindings).filter Finding.isMalformed := by
  induction entries with
  | nil =>
      rfl
  | cons entry rest ih =>
      rw [List.flatMap_cons, List.filter_append, ← ih, List.filter_cons, isFieldOperator_eq]
      cases hname : (Signed.ofText? entry.1 : Option (Signed FieldWord)) with
      | none =>
          rw [entryFindings, hname]
          rfl
      | some signed =>
          have hkept := filter_of_malformed (malformed_entryFindings hname)
          rw [Option.isSome_some, if_pos rfl, List.flatMap_cons, hkept]

/-- In a pruned query is found what was found before, apart from unknown names. -/
theorem findings_prune (fields : List (String × Term)) :
    findings (prune fields) = (findings fields).filter Finding.isMalformed := by
  induction fields using fields_induction with
  | nil =>
      rw [prune]
      rfl
  | cons key term rest hsub ih =>
      have hitems : (pruneOperand term).elements.flatMap itemFindings =
          (term.elements.flatMap itemFindings).filter Finding.isMalformed := by
        rw [elements_pruneOperand, List.flatMap_map, List.filter_flatMap, List.flatMap_def,
          List.flatMap_def]
        refine congrArg List.flatten (List.map_congr_left fun item hitem => ?_)
        cases item with
        | map fields => exact hsub fields hitem
        | scalar | regex | list => rfl
      rw [prune, findings_cons, List.filter_append, ← ih, pruneField, cut_eq, fieldFindings]
      cases hform : form key term with
      | pattern | equality =>
          rw [Form.cut, List.singleton_append, findings_cons, fieldFindings, hform]
          rfl
      | ignored =>
          rfl
      | operators entries =>
          rw [Form.cut, List.singleton_append, findings_cons, fieldFindings, form_map hform]
          exact congrArg (· ++ _) (entryFindings_filter entries)
      | clause signed =>
          obtain ⟨word, negated⟩ := signed
          cases word with
          | hasFields =>
              rw [Form.cut, List.singleton_append, findings_cons, fieldFindings, hform]
              exact congrArg (· ++ _) (filter_of_malformed
                (ClauseWord.malformed_hasFields term _)).symm
          | anyQuery =>
              rw [Form.cut, List.singleton_append, findings_cons, fieldFindings,
                form_pruneOperand hform]
              exact congrArg (· ++ _) hitems

/-! ## Meaning of pruned queries -/

theorem hasEquality_prune (key : String) (fields : List (String × Term)) :
    hasEquality key (prune fields) = hasEquality key fields := by
  induction fields with
  | nil =>
      rw [prune]
  | cons field rest ih =>
      obtain ⟨other, term⟩ := field
      rw [prune, hasEquality_append, ih, hasEquality_cons, pruneField, cut_eq]
      cases hform : form other term with
      | pattern | equality =>
          simp [Form.cut, hasEquality, hform]
      | ignored =>
          simp [Form.cut, hasEquality, Form.isEquality]
      | operators entries =>
          simp [Form.cut, hasEquality, Form.isEquality, form_map hform]
      | clause signed =>
          obtain ⟨word, negated⟩ := signed
          cases word with
          | hasFields => simp [Form.cut, hasEquality, hform]
          | anyQuery => simp [Form.cut, hasEquality, Form.isEquality, form_pruneOperand hform]

theorem entryHolds_filter (entries : List (String × Term)) (field : FieldHistory) :
    ((entries.filter fun entry => isFieldOperator entry.1).all fun entry =>
        entryHolds entry field) =
      entries.all fun entry => entryHolds entry field := by
  induction entries with
  | nil =>
      rfl
  | cons entry rest ih =>
      rw [List.all_cons, ← ih, List.filter_cons, isFieldOperator_eq]
      cases hname : (Signed.ofText? entry.1 : Option (Signed FieldWord)) with
      | none =>
          rw [entryHolds, hname]
          rfl
      | some signed =>
          rw [Option.isSome_some, if_pos rfl, List.all_cons]

/-- A pruned query means what the query means. -/
theorem means_prune (fields : List (String × Term)) (revision : Revision) :
    means (prune fields) revision = means fields revision := by
  induction fields using fields_induction with
  | nil =>
      rw [prune]
  | cons key term rest hsub ih =>
      have hsome : meansSome (pruneOperand term) revision = meansSome term revision := by
        have hitems : term.elements.map (fun item => meansItem (pruneItem item) revision) =
            term.elements.map fun item => meansItem item revision := by
          refine List.map_congr_left fun item hitem => ?_
          cases item with
          | map fields => exact hsub fields hitem
          | scalar | regex | list => rfl
        have hany := congrArg (List.any · id) hitems
        rw [meansSome_eq, meansSome_eq, elements_pruneOperand]
        simpa only [List.any_map, Function.comp_def, id] using hany
      rw [prune, pruneField, cut_eq, means, ← ih, fieldHolds]
      cases hform : form key term with
      | pattern | equality =>
          rw [Form.cut, List.singleton_append, means, fieldHolds, hform, hasEquality_prune]
      | ignored =>
          rfl
      | operators entries =>
          rw [Form.cut, List.singleton_append, means, fieldHolds, form_map hform]
          exact congrArg (· && _) (entryHolds_filter entries _)
      | clause signed =>
          obtain ⟨word, negated⟩ := signed
          cases word with
          | hasFields =>
              rw [Form.cut, List.singleton_append, means, fieldHolds, hform]
          | anyQuery =>
              rw [Form.cut, List.singleton_append, means, fieldHolds, form_pruneOperand hform,
                hsome]
              rfl

/-! ## Deletions and findings -/

theorem names_entryFindings (entries : List (String × Term)) :
    (entries.flatMap entryFindings).filterMap Finding.name? =
      (entries.map Prod.fst).filter fun name => !isFieldOperator name := by
  induction entries with
  | nil =>
      rfl
  | cons entry rest ih =>
      rw [List.flatMap_cons, List.filterMap_append, ih, List.map_cons, List.filter_cons,
        isFieldOperator_eq]
      cases hname : (Signed.ofText? entry.1 : Option (Signed FieldWord)) with
      | none =>
          rw [entryFindings, hname]
          rfl
      | some signed =>
          have hnames := names_of_malformed (malformed_entryFindings hname)
          rw [hnames]
          rfl

/-- Pruning deletes the names that are found unknown. -/
theorem deleted_eq (fields : List (String × Term)) :
    deleted fields = (findings fields).filterMap Finding.name? := by
  induction fields using fields_induction with
  | nil =>
      rfl
  | cons key term rest hsub ih =>
      have hitems : term.elements.flatMap itemDeleted =
          (term.elements.flatMap itemFindings).filterMap Finding.name? := by
        rw [List.filterMap_flatMap, List.flatMap_def, List.flatMap_def]
        refine congrArg List.flatten (List.map_congr_left fun item hitem => ?_)
        cases item with
        | map fields => exact hsub fields hitem
        | scalar | regex | list => rfl
      rw [deleted_cons, findings_cons, List.filterMap_append, ih, fieldDeleted, cut_eq,
        fieldFindings]
      congr 1
      cases hform : form key term with
      | pattern | equality | ignored =>
          rfl
      | operators entries =>
          exact (names_entryFindings entries).symm
      | clause signed =>
          obtain ⟨word, negated⟩ := signed
          cases word with
          | hasFields =>
              exact (names_of_malformed (ClauseWord.malformed_hasFields term _)).symm
          | anyQuery => exact hitems

theorem pruneOperand_eq_self {term : Term}
    (h : ∀ item ∈ term.elements, pruneItem item = item) : pruneOperand term = term := by
  cases term with
  | list items =>
      have hitems : items.map pruneItem = items :=
        (List.map_congr_left h).trans (List.map_id items)
      rw [pruneOperand, pruneItems_eq, hitems]
  | map fields =>
      have hmap := h (.map fields) List.mem_cons_self
      rw [pruneOperand]
      exact hmap
  | scalar | regex =>
      simp [pruneOperand]

/-- Without a deletion nothing changes. -/
theorem prune_eq_self_of_deleted {fields : List (String × Term)} (h : deleted fields = []) :
    prune fields = fields := by
  induction fields using fields_induction with
  | nil =>
      rw [prune]
  | cons key term rest hsub ih =>
      rw [deleted_cons, List.append_eq_nil_iff, fieldDeleted, cut_eq] at h
      obtain ⟨hfield, hrest⟩ := h
      rw [prune, ih hrest, pruneField, cut_eq]
      cases hform : form key term with
      | pattern | equality =>
          rfl
      | ignored =>
          rw [hform] at hfield
          cases hfield
      | operators entries =>
          rw [hform] at hfield
          obtain ⟨_, rfl⟩ := form_eq_operators_iff.mp hform
          have hall : ∀ entry ∈ entries, isFieldOperator entry.1 = true := by
            intro entry hmem
            have hname := List.filter_eq_nil_iff.mp hfield entry.1
              (List.mem_map_of_mem hmem)
            simpa using hname
          have hkept := List.filter_eq_self.mpr hall
          simp only [Form.cut, hkept, List.singleton_append]
      | clause signed =>
          obtain ⟨word, negated⟩ := signed
          cases word with
          | hasFields => rfl
          | anyQuery =>
              rw [hform] at hfield
              have hitems : ∀ item ∈ term.elements, pruneItem item = item := by
                intro item hitem
                have hnone := List.flatMap_eq_nil_iff.mp hfield item hitem
                cases item with
                | map fields => exact congrArg Term.map (hsub fields hitem hnone)
                | scalar | regex | list => rfl
              have hkept := pruneOperand_eq_self hitems
              simp only [Form.cut, hkept, List.singleton_append]

end DocQuery
