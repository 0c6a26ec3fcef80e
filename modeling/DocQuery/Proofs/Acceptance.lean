import DocQuery.Proofs.Grammar.Compilation
import DocQuery.Proofs.Grammar.Fitting
import DocQuery.Proofs.Strictness

/-!
# Accepted queries

The grammar of the queries that a permissive compiler accepts, and the fault that it
reports of any other: the one that is reached first, with nothing but fitting parts before
it.  Both are read off a query alone, without operators and without a catalog.
-/

namespace DocQuery

/-! ## The grammar -/

/-- Whether no clause word stands in the place of a field. -/
def NamesField (key : String) : Prop :=
  ∀ signed : Signed ClauseWord, key ≠ signed.text

/-- Whether an entry of a map fits: under the name of a field word, plain or negated, stands
an operand of that word, and under any other name anything. -/
def EntryFits (entry : String × Term) : Prop :=
  ∀ signed : Signed FieldWord, entry.1 = signed.text → signed.word.Fits entry.2

def NameFits (item : Term) : Prop :=
  ∃ name, item = .scalar (.string name)

/-- The fields of accepted queries. -/
inductive FieldFits : String → Term → Prop
  | pattern (key : String) (pattern : Pattern) : FieldFits key (.regex pattern)
  | queries (negated : Bool) {operand : Term}
      (items : ∀ item ∈ operand.elements, ∃ query, item = .map query)
      (fields : ∀ query, Term.map query ∈ operand.elements →
        ∀ field ∈ query, FieldFits field.1 field.2) :
      FieldFits (Signed.text ⟨ClauseWord.anyQuery, negated⟩) operand
  | names (negated : Bool) {operand : Term} (items : ∀ item ∈ operand.elements, NameFits item) :
      FieldFits (Signed.text ⟨ClauseWord.hasFields, negated⟩) operand
  | operators {key : String} (field : NamesField key) {entries : List (String × Term)}
      (fits : ∀ entry ∈ entries, EntryFits entry) : FieldFits key (.map entries)
  | value {key : String} (field : NamesField key) {term : Term}
      (plain : ∀ entries, term ≠ .map entries) : FieldFits key term

def WellFormed (fields : List (String × Term)) : Prop :=
  ∀ field ∈ fields, FieldFits field.1 field.2

def QueryFits (item : Term) : Prop :=
  ∃ query, item = .map query ∧ WellFormed query

/-! ## First faults -/

/-- Whether a list leads to an item: all before it fits. -/
def LeadsTo {α : Type} (fits : α → Prop) (list : List α) (item : α) : Prop :=
  ∃ before after, list = before ++ item :: after ∧ ∀ other ∈ before, fits other

theorem LeadsTo.mem {α : Type} {fits : α → Prop} {list : List α} {item : α}
    (leads : LeadsTo fits list item) : item ∈ list := by
  obtain ⟨before, after, rfl, _⟩ := leads
  exact List.mem_append_right before List.mem_cons_self

/-- The first fault of a field. -/
inductive FieldFault : String → Term → QueryError → Prop
  | noQuery (negated : Bool) {operand item : Term}
      (value : ∀ pattern, operand ≠ .regex pattern)
      (leads : LeadsTo QueryFits operand.elements item) (unfit : ∀ query, item ≠ .map query) :
      FieldFault (Signed.text ⟨ClauseWord.anyQuery, negated⟩) operand ClauseWord.anyQuery.fault
  | inQuery (negated : Bool) {operand : Term} {query : List (String × Term)} {key : String}
      {term : Term} {error : QueryError}
      (leads : LeadsTo QueryFits operand.elements (.map query))
      (field : LeadsTo (fun other => FieldFits other.1 other.2) query (key, term))
      (fault : FieldFault key term error) :
      FieldFault (Signed.text ⟨ClauseWord.anyQuery, negated⟩) operand error
  | noName (negated : Bool) {operand item : Term} (value : ∀ pattern, operand ≠ .regex pattern)
      (leads : LeadsTo NameFits operand.elements item) (unfit : ¬ NameFits item) :
      FieldFault (Signed.text ⟨ClauseWord.hasFields, negated⟩) operand
        ClauseWord.hasFields.fault
  | entry {key : String} (field : NamesField key) {entries : List (String × Term)}
      {signed : Signed FieldWord} {operand : Term} {error : QueryError}
      (leads : LeadsTo EntryFits entries (signed.text, operand))
      (misfit : signed.word.Misfit operand error) : FieldFault key (.map entries) error

def FirstFault (fields : List (String × Term)) (error : QueryError) : Prop :=
  ∃ key term, LeadsTo (fun field => FieldFits field.1 field.2) fields (key, term) ∧
    FieldFault key term error

/-! ## Errors of fields -/

theorem findSome?_eq_some_iff_leadsTo {α β : Type} {f : α → Option β} {fits : α → Prop}
    {list : List α} (h : ∀ item ∈ list, f item = none ↔ fits item) {error : β} :
    list.findSome? f = some error ↔ ∃ item, LeadsTo fits list item ∧ f item = some error := by
  rw [List.findSome?_eq_some_iff]
  constructor
  · rintro ⟨before, item, after, rfl, hitem, hbefore⟩
    refine ⟨item, ⟨before, after, rfl, fun other hmem => ?_⟩, hitem⟩
    exact (h other (List.mem_append_left _ hmem)).mp (hbefore other hmem)
  · rintro ⟨item, ⟨before, after, rfl, hbefore⟩, hitem⟩
    refine ⟨before, item, after, rfl, hitem, fun other hmem => ?_⟩
    exact (h other (List.mem_append_left _ hmem)).mpr (hbefore other hmem)

/-- The error that a permissive compiler finds first in a field. -/
def fieldError? (key : String) (term : Term) : Option QueryError :=
  firstError? false (fieldFindings key term (term.elements.flatMap itemFindings))

theorem firstError?_findings (fields : List (String × Term)) :
    firstError? false (findings fields) =
      fields.findSome? fun field => fieldError? field.1 field.2 := by
  induction fields with
  | nil =>
      rfl
  | cons field rest ih =>
      obtain ⟨key, term⟩ := field
      rw [findings_cons, firstError?_append, ih, List.findSome?_cons, ← fieldError?]
      cases fieldError? key term <;> rfl

/-- Whether the error of a field is what the grammar says of it. -/
structure Judged (key : String) (term : Term) : Prop where
  fits : fieldError? key term = none ↔ FieldFits key term
  fault : ∀ error, fieldError? key term = some error ↔ FieldFault key term error

section

variable {fields : List (String × Term)}

theorem firstError?_eq_none_iff (judged : ∀ field ∈ fields, Judged field.1 field.2) :
    firstError? false (findings fields) = none ↔ WellFormed fields := by
  rw [firstError?_findings, List.findSome?_eq_none_iff]
  exact forall₂_congr fun field hmem => (judged field hmem).fits

theorem firstError?_eq_some_iff (judged : ∀ field ∈ fields, Judged field.1 field.2)
    (error : QueryError) :
    firstError? false (findings fields) = some error ↔ FirstFault fields error := by
  rw [firstError?_findings, findSome?_eq_some_iff_leadsTo fun field hmem => (judged field hmem).fits]
  constructor
  · rintro ⟨⟨key, term⟩, leads, herror⟩
    exact ⟨key, term, leads, ((judged _ leads.mem).fault error).mp herror⟩
  · rintro ⟨key, term, leads, fault⟩
    exact ⟨(key, term), leads, ((judged _ leads.mem).fault error).mpr fault⟩

end

/-! ### Clause words -/

section

variable {key : String} {term : Term} {negated : Bool}

theorem fieldFits_queries_iff (hkey : Signed.ofText? key = some ⟨ClauseWord.anyQuery, negated⟩)
    (hterm : ∀ pattern, term ≠ .regex pattern) :
    FieldFits key term ↔ ∀ item ∈ term.elements, QueryFits item := by
  constructor
  · intro fits item hmem
    cases fits with
    | pattern _ pattern => exact absurd rfl (hterm pattern)
    | queries negated items fields =>
        obtain ⟨query, rfl⟩ := items item hmem
        exact ⟨query, rfl, fields query hmem⟩
    | names negated items =>
        rw [Signed.ofText?_text_clause] at hkey
        cases hkey
    | operators field fits => exact absurd (Signed.text_of_ofText? hkey).symm (field _)
    | value field plain => exact absurd (Signed.text_of_ofText? hkey).symm (field _)
  · intro fits
    rw [← Signed.text_of_ofText? hkey]
    refine .queries negated (fun item hmem => ?_) fun query hmem => ?_
    · obtain ⟨query, rfl, _⟩ := fits item hmem
      exact ⟨query, rfl⟩
    · obtain ⟨_, heq, wellFormed⟩ := fits _ hmem
      cases heq
      exact wellFormed

theorem fieldFits_names_iff (hkey : Signed.ofText? key = some ⟨ClauseWord.hasFields, negated⟩)
    (hterm : ∀ pattern, term ≠ .regex pattern) :
    FieldFits key term ↔ ∀ item ∈ term.elements, NameFits item := by
  constructor
  · intro fits
    cases fits with
    | pattern _ pattern => exact absurd rfl (hterm pattern)
    | queries negated items fields =>
        rw [Signed.ofText?_text_clause] at hkey
        cases hkey
    | names negated items => exact items
    | operators field fits => exact absurd (Signed.text_of_ofText? hkey).symm (field _)
    | value field plain => exact absurd (Signed.text_of_ofText? hkey).symm (field _)
  · intro fits
    rw [← Signed.text_of_ofText? hkey]
    exact .names negated fits

theorem itemError?_eq_none_iff {item : Term}
    (judged : ∀ query, item = .map query → ∀ field ∈ query, Judged field.1 field.2) :
    firstError? false (itemFindings item) = none ↔ QueryFits item := by
  cases item with
  | map query =>
      have hquery := firstError?_eq_none_iff (judged query rfl)
      refine ⟨fun h => ⟨query, rfl, hquery.mp h⟩, ?_⟩
      rintro ⟨_, heq, wellFormed⟩
      cases heq
      exact hquery.mpr wellFormed
  | scalar | regex | list =>
      constructor
      · intro h
        cases h
      · rintro ⟨_, heq, _⟩
        cases heq

theorem itemError?_of_ne_map {item : Term} (hitem : ∀ query, item ≠ .map query) :
    firstError? false (itemFindings item) = some ClauseWord.anyQuery.fault := by
  cases item with
  | map query => exact absurd rfl (hitem query)
  | scalar | regex | list => rfl

theorem judged_queries (hkey : Signed.ofText? key = some ⟨ClauseWord.anyQuery, negated⟩)
    (hterm : ∀ pattern, term ≠ .regex pattern)
    (subqueries : ∀ query, Term.map query ∈ term.elements →
      ∀ field ∈ query, Judged field.1 field.2) : Judged key term := by
  have herror : fieldError? key term =
      term.elements.findSome? fun item => firstError? false (itemFindings item) := by
    rw [fieldError?, fieldFindings, form_eq_clause_iff.mpr ⟨hterm, hkey⟩]
    exact firstError?_flatMap false term.elements itemFindings
  have hitem : ∀ item ∈ term.elements,
      firstError? false (itemFindings item) = none ↔ QueryFits item := by
    intro item hmem
    refine itemError?_eq_none_iff ?_
    rintro query rfl
    exact subqueries query hmem
  constructor
  · rw [herror, List.findSome?_eq_none_iff, fieldFits_queries_iff hkey hterm]
    exact forall₂_congr hitem
  · intro error
    rw [herror, findSome?_eq_some_iff_leadsTo hitem]
    constructor
    · rintro ⟨item, leads, h⟩
      rw [← Signed.text_of_ofText? hkey]
      -- The first unfit item is no query at all, or a query with a first fault of its own.
      by_cases hmap : ∃ query, item = .map query
      · obtain ⟨query, rfl⟩ := hmap
        obtain ⟨inner, found, field, fault⟩ :=
          (firstError?_eq_some_iff (subqueries query leads.mem) error).mp h
        exact .inQuery negated leads field fault
      · have hitem : ∀ query, item ≠ .map query := fun query heq => hmap ⟨query, heq⟩
        rw [itemError?_of_ne_map hitem] at h
        cases h
        exact .noQuery negated hterm leads hitem
    · intro fault
      cases fault with
      | noQuery negated value leads unfit =>
          exact ⟨_, leads, itemError?_of_ne_map unfit⟩
      | inQuery negated leads field fault =>
          refine ⟨_, leads, ?_⟩
          exact (firstError?_eq_some_iff (subqueries _ leads.mem) error).mpr
            ⟨_, _, field, fault⟩
      | noName negated value leads unfit =>
          rw [Signed.ofText?_text_clause] at hkey
          cases hkey
      | entry field leads misfit =>
          exact absurd (Signed.text_of_ofText? hkey).symm (field _)

theorem judged_names (hkey : Signed.ofText? key = some ⟨ClauseWord.hasFields, negated⟩)
    (hterm : ∀ pattern, term ≠ .regex pattern) : Judged key term := by
  have herror : fieldError? key term = term.elements.findSome? fun item =>
      if item.string?.isSome then none else some ClauseWord.hasFields.fault := by
    rw [fieldError?, fieldFindings, form_eq_clause_iff.mpr ⟨hterm, hkey⟩]
    simp only [ClauseWord.findings]
    rw [firstError?_flatMap]
    congr 1
    funext item
    cases item.string?.isSome <;> rfl
  have hitem : ∀ item ∈ term.elements,
      (if item.string?.isSome then none else some ClauseWord.hasFields.fault) = none ↔
        NameFits item := by
    intro item _
    rw [NameFits, ← FieldWord.isSome_string?_iff]
    cases item.string?.isSome <;> simp
  constructor
  · rw [herror, List.findSome?_eq_none_iff, fieldFits_names_iff hkey hterm]
    exact forall₂_congr hitem
  · intro error
    rw [herror, findSome?_eq_some_iff_leadsTo hitem]
    constructor
    · rintro ⟨item, leads, h⟩
      rw [← Signed.text_of_ofText? hkey]
      split at h
      · cases h
      · rename_i hname
        cases h
        exact .noName negated hterm leads fun fits => hname (FieldWord.isSome_string?_iff.mpr fits)
    · intro fault
      cases fault with
      | noName negated value leads unfit =>
          refine ⟨_, leads, if_neg fun h => unfit (FieldWord.isSome_string?_iff.mp h)⟩
      | noQuery | inQuery =>
          rw [Signed.ofText?_text_clause] at hkey
          cases hkey
      | entry field leads misfit =>
          exact absurd (Signed.text_of_ofText? hkey).symm (field _)

end

/-! ### Names of fields -/

section

variable {key : String}

theorem namesField_iff :
    NamesField key ↔ (Signed.ofText? key : Option (Signed ClauseWord)) = none := by
  constructor
  · intro field
    cases h : (Signed.ofText? key : Option (Signed ClauseWord)) with
    | none => rfl
    | some signed => exact absurd (Signed.text_of_ofText? h).symm (field signed)
  · rintro h signed rfl
    rw [Signed.ofText?_text_clause] at h
    cases h

theorem judged_pattern (key : String) (pattern : Pattern) : Judged key (.regex pattern) := by
  constructor
  · exact ⟨fun _ => .pattern key pattern, fun _ => rfl⟩
  · intro error
    constructor
    · intro h
      cases h
    · intro fault
      cases fault with
      | noQuery negated value | noName negated value => exact absurd rfl (value pattern)
      | inQuery negated leads => cases List.mem_singleton.mp leads.mem

theorem entryFits_iff (entry : String × Term) :
    firstError? false (entryFindings entry) = none ↔ EntryFits entry := by
  unfold entryFindings EntryFits
  cases hname : (Signed.ofText? entry.1 : Option (Signed FieldWord)) with
  | some signed =>
      simp only [firstError?_toList, FieldWord.fault?_eq_none_iff]
      constructor
      · intro fits other hother
        rw [hother, Signed.ofText?_text_field] at hname
        cases hname
        exact fits
      · exact fun fits => fits signed (Signed.text_of_ofText? hname).symm
  | none =>
      refine ⟨fun _ signed htext => ?_, fun _ => rfl⟩
      rw [htext, Signed.ofText?_text_field] at hname
      cases hname

theorem judged_operators (field : NamesField key) (entries : List (String × Term)) :
    Judged key (.map entries) := by
  have hform : form key (.map entries) = .operators entries :=
    form_eq_operators_iff.mpr ⟨namesField_iff.mp field, rfl⟩
  have herror : fieldError? key (.map entries) =
      entries.findSome? fun entry => firstError? false (entryFindings entry) := by
    rw [fieldError?, fieldFindings, hform]
    exact firstError?_flatMap false entries entryFindings
  constructor
  · rw [herror, List.findSome?_eq_none_iff]
    constructor
    · intro h
      exact .operators field fun entry hmem => (entryFits_iff entry).mp (h entry hmem)
    · intro fits entry hmem
      cases fits with
      | queries | names => exact absurd rfl (field _)
      | operators _ fits => exact (entryFits_iff entry).mpr (fits entry hmem)
      | value _ plain => exact absurd rfl (plain entries)
  · intro error
    rw [herror, findSome?_eq_some_iff_leadsTo fun entry _ => entryFits_iff entry]
    constructor
    · rintro ⟨⟨name, operand⟩, leads, h⟩
      cases hname : (Signed.ofText? name : Option (Signed FieldWord)) with
      | none =>
          simp only [entryFindings, hname] at h
          cases h
      | some signed =>
          simp only [entryFindings, hname, firstError?_toList] at h
          rw [← Signed.text_of_ofText? hname] at leads
          exact .entry field leads (FieldWord.fault?_eq_some_iff.mp h)
    · intro fault
      cases fault with
      | noQuery | inQuery | noName => exact absurd rfl (field _)
      | entry _ leads misfit =>
          refine ⟨_, leads, ?_⟩
          simp only [entryFindings, Signed.ofText?_text_field, firstError?_toList]
          exact FieldWord.fault?_eq_some_iff.mpr misfit

theorem judged_value (field : NamesField key) {term : Term}
    (hpattern : ∀ pattern, term ≠ .regex pattern) (plain : ∀ entries, term ≠ .map entries) :
    Judged key term := by
  have herror : fieldError? key term = none := by
    have hkey := namesField_iff.mp field
    cases term with
    | regex pattern => exact absurd rfl (hpattern pattern)
    | map entries => exact absurd rfl (plain entries)
    | scalar | list =>
        simp only [fieldError?, fieldFindings, form, hkey]
        cases isOperatorKey key <;> rfl
  constructor
  · exact ⟨fun _ => .value field plain, fun _ => herror⟩
  · intro error
    rw [herror]
    constructor
    · intro h
      cases h
    · intro fault
      cases fault with
      | noQuery | inQuery | noName => exact absurd rfl (field _)
      | entry => exact absurd rfl (plain _)

end

/-! ## Queries -/

theorem judged_field (key : String) {term : Term}
    (subqueries : ∀ query, Term.map query ∈ term.elements →
      ∀ field ∈ query, Judged field.1 field.2) : Judged key term := by
  by_cases hpattern : ∃ pattern, term = .regex pattern
  · obtain ⟨pattern, rfl⟩ := hpattern
    exact judged_pattern key pattern
  · have hterm : ∀ pattern, term ≠ .regex pattern := fun pattern heq => hpattern ⟨pattern, heq⟩
    cases hkey : (Signed.ofText? key : Option (Signed ClauseWord)) with
    | some signed =>
        obtain ⟨word, negated⟩ := signed
        cases word with
        | hasFields => exact judged_names hkey hterm
        | anyQuery => exact judged_queries hkey hterm subqueries
    | none =>
        have field := namesField_iff.mpr hkey
        cases term with
        | regex pattern => exact absurd rfl (hterm pattern)
        | map entries => exact judged_operators field entries
        | scalar | list => exact judged_value field hterm (by simp)

theorem judged_fields (fields : List (String × Term)) :
    ∀ field ∈ fields, Judged field.1 field.2 := by
  induction fields using fields_induction with
  | nil =>
      intro field hmem
      cases hmem
  | cons key term rest hsub ih =>
      exact List.forall_mem_cons.mpr ⟨judged_field key hsub, ih⟩

/-- A permissive compiler accepts exactly the well-formed queries, and of any other it
reports the first fault. -/
theorem accepts_wellFormed_reports_firstFault (fields : List (String × Term)) :
    ((∃ predicate, (permissiveCompiler.compileFields fields).result = .ok predicate) ↔
        WellFormed fields) ∧
      ∀ error, (permissiveCompiler.compileFields fields).result = .error error ↔
        FirstFault fields error := by
  rw [permissive_result, ← firstError?_eq_none_iff (judged_fields fields)]
  constructor
  · cases firstError? false (findings fields) <;> simp
  · intro error
    rw [← firstError?_eq_some_iff (judged_fields fields)]
    cases firstError? false (findings fields) <;> simp

-- Entries under other names fit, and what is behind the first fault does not count.
example : (permissiveCompiler.compileFields
    [("a", .map [("$other", .list []), ("$gt", .list [])]), ("$or", .scalar .null)]).result =
      .error (.operand "$gt" FieldWord.greater.expected) :=
  rfl

end DocQuery
