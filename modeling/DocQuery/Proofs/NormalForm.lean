import DocQuery.Proofs.Grammar.Reading
import DocQuery.Proofs.PatternLiteral
import DocQuery.Proofs.Strictness

/-!
# Queries in normal form

A normal form descends under every key with the mark of operators, whereas a compiler
reads sub-queries only under those that are registered.  So a query and its normal form
mean the same where the two agree: where no pattern takes the place of the operand of a
clause operator, and where no operand of a field operator is taken for a sub-query.
-/

namespace DocQuery

/-! ## Keys -/

theorem isOperatorKey_of_isClauseOperator {key : String} (h : isClauseOperator key = true) :
    isOperatorKey key = true := by
  rw [isClauseOperator_eq] at h
  obtain ⟨signed, hsigned⟩ := Option.isSome_iff_exists.mp h
  exact Signed.isOperatorKey_of_ofText? hsigned

theorem isOperatorKey_of_takesQueries {key : String} (h : takesQueries key = true) :
    isOperatorKey key = true := by
  rw [takesQueries_eq, Option.any_eq_true] at h
  obtain ⟨signed, hsigned, _⟩ := h
  exact Signed.isOperatorKey_of_ofText? hsigned

namespace Query

/-! ## Normal forms field by field -/

theorem normalizeFields_eq_map (fields : List (String × Term)) :
    normalizeFields fields = fields.map fun field => (field.1, normalizeTerm field.1 field.2) := by
  induction fields with
  | nil =>
      rw [normalizeFields, List.map_nil]
  | cons field rest ih =>
      rw [normalizeFields, List.map_cons, ih]

def normalizeItem : Term → Term
  | .map fields => .map (normalizeFields fields)
  | item => item

theorem normalizeItems_eq_map (items : List Term) :
    normalizeItems items = items.map normalizeItem := by
  induction items with
  | nil =>
      rw [normalizeItems, List.map_nil]
  | cons item rest ih =>
      rw [List.map_cons, ← ih]
      cases item <;> simp [normalizeItems, normalizeItem]

theorem string?_normalizeItem (item : Term) : (normalizeItem item).string? = item.string? := by
  cases item <;> rfl

section

variable {key : String} {term : Term}

/-- Under a plain key only a pattern is changed. -/
theorem normalizeTerm_of_plain (hkey : isOperatorKey key = false)
    (hterm : ∀ pattern, term ≠ .regex pattern) : normalizeTerm key term = term := by
  cases term with
  | regex pattern => exact absurd rfl (hterm pattern)
  | scalar | map | list => simp [normalizeTerm, hkey]

theorem normalizeTerm_ne_regex (key : String) (term : Term) (pattern : Pattern) :
    normalizeTerm key term ≠ .regex pattern := by
  cases term <;> simp [normalizeTerm]

theorem elements_normalizeTerm (hkey : isOperatorKey key = true)
    (hterm : ∀ pattern, term ≠ .regex pattern) :
    (normalizeTerm key term).elements = term.elements.map normalizeItem := by
  cases term with
  | regex pattern => exact absurd rfl (hterm pattern)
  | scalar | map => simp [normalizeTerm, hkey, Term.elements, normalizeItem]
  | list items => simp only [normalizeTerm, hkey, if_pos, Term.elements, normalizeItems_eq_map]

/-- Whether a field is read in its normal form as it is read itself: no pattern stands for
the operand of a clause operator, and in a map under an operator key that is not registered
every operand of a registered operator is in normal form. -/
structure ReadAlike (key : String) (term : Term) : Prop where
  pattern : ∀ pattern, term = .regex pattern → isClauseOperator key = false
  operands : isUnknownKey key = true → ∀ entries, term = .map entries →
    ∀ entry ∈ entries, isFieldOperator entry.1 = true →
      normalizeTerm entry.1 entry.2 = entry.2

/-- Under a plain key the normal form and a compiler agree. -/
theorem ReadAlike.of_plainKey (hkey : isOperatorKey key = false) (term : Term) :
    ReadAlike key term where
  pattern _ _ := by
    cases hclause : isClauseOperator key with
    | false =>
        rfl
    | true =>
        rw [isOperatorKey_of_isClauseOperator hclause] at hkey
        cases hkey
  operands hunknown := by
    rw [isUnknownKey, hkey] at hunknown
    cases hunknown

theorem sameField_of_clauseWord {signed : Signed ClauseWord}
    (hkey : Signed.ofText? key = some signed) (hterm : ∀ pattern, term ≠ .regex pattern)
    (subqueries : takesQueries key = true → ∀ fields, Term.map fields ∈ term.elements →
      SameReading fields (normalizeFields fields)) :
    SameField key term (normalizeTerm key term) := by
  have helements := elements_normalizeTerm (Signed.isOperatorKey_of_ofText? hkey) hterm
  refine SameField.clause hkey hterm (normalizeTerm_ne_regex key term) helements ?_ ?_
  · exact fun _ item _ => string?_normalizeItem item
  · intro hword item hitem
    cases item with
    | map fields => exact SameItem.map (subqueries (takesQueries_of_word hkey hword) fields hitem)
    | scalar | regex | list => exact SameItem.refl _

theorem sameEntry_normalizeTerm {entry : String × Term}
    (operand : isFieldOperator entry.1 = true → normalizeTerm entry.1 entry.2 = entry.2) :
    SameEntry entry (entry.1, normalizeTerm entry.1 entry.2) := by
  cases hname : (Signed.ofText? entry.1 : Option (Signed FieldWord)) with
  | none =>
      exact SameEntry.of_unknown hname entry.2 _
  | some signed =>
      rw [operand (by rw [isFieldOperator_eq, hname]; rfl)]
      exact SameEntry.refl entry

theorem sameField_of_unknownKey (hkey : isUnknownKey key = true)
    (hterm : ∀ pattern, term ≠ .regex pattern)
    (operands : ∀ entries, term = .map entries → ∀ entry ∈ entries,
      isFieldOperator entry.1 = true → normalizeTerm entry.1 entry.2 = entry.2) :
    SameField key term (normalizeTerm key term) := by
  obtain ⟨hmark, hclause⟩ := Bool.and_eq_true_iff.mp hkey
  cases term with
  | regex pattern => exact absurd rfl (hterm pattern)
  | scalar value => exact SameField.refl key _
  | list items =>
      exact SameField.ignored (form_of_isUnknownKey hkey rfl) (form_of_isUnknownKey hkey rfl)
  | map entries =>
      rw [isClauseOperator_eq, Bool.not_eq_true', Option.isSome_eq_false_iff,
        Option.isNone_iff_eq_none] at hclause
      rw [normalizeTerm, if_pos hmark, normalizeFields_eq_map]
      exact SameField.entries (form_eq_operators_iff.mpr ⟨hclause, rfl⟩) fun entry hentry =>
        sameEntry_normalizeTerm (operands entries rfl entry hentry)

theorem sameField_normalizeTerm (alike : ReadAlike key term)
    (subqueries : takesQueries key = true → ∀ fields, Term.map fields ∈ term.elements →
      SameReading fields (normalizeFields fields)) :
    SameField key term (normalizeTerm key term) := by
  by_cases hterm : ∀ pattern, term ≠ .regex pattern
  · cases hmark : isOperatorKey key with
    | false =>
        rw [normalizeTerm_of_plain hmark hterm]
        exact SameField.refl key term
    | true =>
        cases hkey : (Signed.ofText? key : Option (Signed ClauseWord)) with
        | some signed =>
            exact sameField_of_clauseWord hkey hterm subqueries
        | none =>
            have hunknown : isUnknownKey key = true := by
              rw [isUnknownKey, hmark, isClauseOperator_eq, hkey]
              rfl
            exact sameField_of_unknownKey hunknown hterm (alike.operands hunknown)
  · -- A pattern is read before its key is, but the map in its place is not.
    obtain ⟨pattern, rfl⟩ := Classical.not_forall_not.mp hterm
    have hkey := alike.pattern pattern rfl
    rw [isClauseOperator_eq, Option.isSome_eq_false_iff, Option.isNone_iff_eq_none] at hkey
    exact SameField.pattern hkey pattern

end

/-! ## Normal forms of queries -/

theorem sameReading_normalizeFields {fields : List (String × Term)}
    (alike : ∀ field ∈ positions fields, ReadAlike field.1 field.2) :
    SameReading fields (normalizeFields fields) := by
  induction fields using fields_induction with
  | nil =>
      rw [normalizeFields]
      exact SameReading.refl []
  | cons key term rest hsub ih =>
      rw [normalizeFields]
      have hfield := alike _ (mem_positions_self key term rest)
      refine SameReading.cons (sameField_normalizeTerm hfield ?_) ?_
      · intro hkey fields hfields
        exact hsub fields hfields fun field hmem =>
          alike field (mem_positions_of_subquery hkey hfields hmem)
      · exact ih fun field hmem => alike field (mem_positions_of_rest hmem)

/-- Whether a query and its normal form compile alike, and then to tests that agree. -/
def NormalFormAgrees (config : Config) (query : Query) : Prop :=
  ((∃ predicate, (({ config } : Compiler).compile query).result = .ok predicate) ↔
    ∃ predicate, (({ config } : Compiler).compile query.normalize).result = .ok predicate) ∧
  ∀ before after, (({ config } : Compiler).compile query).result = .ok before →
    (({ config } : Compiler).compile query.normalize).result = .ok after →
    ∀ document previous,
      after.passes { current := document, previous } =
        before.passes { current := document, previous }

end Query

/-- The pattern `/x/`. -/
def Pattern.letterX : Pattern where
  source := "x"
  flags := ""
  program := .literal ['x']
  compiles := rfl

namespace Query

/-- A pattern that is the operand of the pattern operator, in a map under a key with the
mark of operators that is not registered. -/
def operandUnderMark : Query where
  fields := [("$nope", .map [("$regex", .regex Pattern.letterX)])]

/-- A normal form can have a pattern operator whose operand was made a map, which no compiler
accepts. -/
theorem normalForm_rewrites_operand : ¬ ∀ config query, NormalFormAgrees config query := by
  intro h
  obtain ⟨hsuccess, _⟩ := h { strict := true } operandUnderMark
  obtain ⟨predicate, hcompiles⟩ := hsuccess.mp ⟨_, rfl⟩
  cases hcompiles

/-- In either mode a query and its normal form agree, as long as the normal form reads each
field as a compiler does. -/
theorem normalFormAgrees_of_readAlike (config : Config) (query : Query)
    (alike : ∀ field ∈ positions query.fields, ReadAlike field.1 field.2) :
    NormalFormAgrees config query := by
  have hreading : SameReading query.fields query.normalize.fields :=
    sameReading_normalizeFields alike
  have hresult := hreading.result_compile config
  constructor
  · rw [hresult]
  · intro before after hbefore hafter document previous
    rw [hresult, hbefore] at hafter
    cases hafter
    rfl

/-- Patterns as values at two depths and as an operand, and one that a normal form rewrites
under a name that says nothing. -/
def nestedPatterns : Query where
  fields :=
    [("a", .regex Pattern.letterX),
      ("$or", .list [.map [("b", .regex Pattern.letterX)],
        .map [("c", .map [("$not", .regex Pattern.letterX)])]]),
      ("$nope", .map [("$gt", .scalar (.bool true)),
        ("$never", .list [.map [("d", .regex Pattern.letterX)]])])]

theorem readAlike_nestedPatterns :
    ∀ field ∈ positions nestedPatterns.fields, ReadAlike field.1 field.2 := by
  have hpositions : positions nestedPatterns.fields =
      [("a", .regex Pattern.letterX),
        ("$or", .list [.map [("b", .regex Pattern.letterX)],
          .map [("c", .map [("$not", .regex Pattern.letterX)])]]),
        ("b", .regex Pattern.letterX),
        ("c", .map [("$not", .regex Pattern.letterX)]),
        ("$nope", .map [("$gt", .scalar (.bool true)),
          ("$never", .list [.map [("d", .regex Pattern.letterX)]])])] := rfl
  rw [hpositions]
  simp only [List.forall_mem_cons, List.not_mem_nil, false_imp_iff, implies_true, and_true]
  refine ⟨.of_plainKey rfl _, ⟨nofun, fun h => ?_⟩, .of_plainKey rfl _, .of_plainKey rfl _,
    ⟨nofun, fun _ entries h entry hentry hname => ?_⟩⟩
  · cases h
  · cases h
    rcases List.mem_cons.mp hentry with rfl | hentry
    · rfl
    · cases List.mem_singleton.mp hentry
      cases hname

theorem normalFormAgrees_nestedPatterns :
    (positions nestedPatterns.fields).map Prod.fst = ["a", "$or", "b", "c", "$nope"] ∧
      nestedPatterns.normalize.fields ≠ nestedPatterns.fields ∧
      NormalFormAgrees {} nestedPatterns := by
  refine ⟨rfl, ?_, normalFormAgrees_of_readAlike {} nestedPatterns readAlike_nestedPatterns⟩
  intro h
  cases h

end Query

end DocQuery
