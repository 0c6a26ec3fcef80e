import DocQuery.Proofs.Grammar.Compilation
import DocQuery.Proofs.Grammar.Pruning

/-!
# Strict and permissive compilers

A permissive compiler makes of a query what a strict one makes of the pruned query.  A
strict compiler makes the same of a query that pruning leaves as it is, and refuses any
other with the first thing that is found wrong in it.  What it accepts can still have
operator keys that are not registered, over maps and over patterns.
-/

namespace DocQuery

/-- A compiler that reports unknown names and leaves them out. -/
def permissiveCompiler : Compiler := {}

/-- A compiler that refuses unknown names. -/
def strictCompiler : Compiler where
  config := { strict := true }

theorem permissive_result (fields : List (String × Term)) :
    (permissiveCompiler.compileFields fields).result =
      verdict (firstError? false (findings fields)) (Predicate.ofRevision (means fields)) :=
  Compiler.faithful_of_standard rfl fields

theorem strict_result (fields : List (String × Term)) :
    (strictCompiler.compileFields fields).result =
      verdict (firstError? true (findings fields)) (Predicate.ofRevision (means fields)) :=
  Compiler.faithful_of_standard rfl fields

/-! ## Refusals -/

theorem firstError?_filter (findings : List Finding) :
    firstError? true (findings.filter Finding.isMalformed) = firstError? false findings := by
  induction findings with
  | nil =>
      rfl
  | cons finding rest ih =>
      cases finding with
      | malformed error => rfl
      | unknown name => exact ih

theorem permissive_eq_strict_prune (fields : List (String × Term)) :
    (permissiveCompiler.compileFields fields).result =
      (strictCompiler.compileFields (prune fields)).result := by
  have hmeans : means (prune fields) = means fields := funext (means_prune fields)
  rw [permissive_result, strict_result, findings_prune, firstError?_filter, hmeans]

theorem split_of_names {findings : List Finding} {name : String}
    (h : (findings.filterMap Finding.name?).head? = some name) :
    ∃ (before : List QueryError) (after : List Finding),
      findings = before.map .malformed ++ .unknown name :: after := by
  induction findings with
  | nil =>
      cases h
  | cons finding rest ih =>
      cases finding with
      | unknown other =>
          cases h
          exact ⟨[], rest, rfl⟩
      | malformed error =>
          obtain ⟨before, after, hrest⟩ := ih h
          exact ⟨error :: before, after, congrArg (_ :: ·) hrest⟩

theorem firstError?_split (before : List QueryError) (name : String) (after : List Finding) :
    firstError? true (before.map .malformed ++ .unknown name :: after) =
      some (before.head?.getD (.unknownOperator name)) := by
  cases before <;> rfl

theorem strict_refuses {fields : List (String × Term)} (h : prune fields ≠ fields) :
    ∃ (before : List QueryError) (name : String) (after : List Finding),
      findings fields = before.map .malformed ++ .unknown name :: after ∧
        (deleted fields).head? = some name ∧
        (strictCompiler.compileFields fields).result =
          .error (before.head?.getD (.unknownOperator name)) := by
  cases hdeleted : deleted fields with
  | nil =>
      exact absurd (prune_eq_self_of_deleted hdeleted) h
  | cons name names =>
      have hhead : ((findings fields).filterMap Finding.name?).head? = some name := by
        rw [← deleted_eq, hdeleted, List.head?_cons]
      obtain ⟨before, after, hsplit⟩ := split_of_names hhead
      refine ⟨before, name, after, hsplit, rfl, ?_⟩
      rw [strict_result, hsplit, firstError?_split, verdict_some]

/-- A permissive compiler prunes and a strict one refuses.  The two agree on a query that
pruning leaves as it is; of any other the strict one reports the first deleted name, or
the first malformed operand where one comes earlier. -/
theorem permissive_prunes_strict_refuses (fields : List (String × Term)) :
    (permissiveCompiler.compileFields fields).result =
        (strictCompiler.compileFields (prune fields)).result ∧
      (prune fields = fields →
        (strictCompiler.compileFields fields).result =
          (permissiveCompiler.compileFields fields).result) ∧
      (prune fields ≠ fields →
        ∃ (before : List QueryError) (name : String) (after : List Finding),
          findings fields = before.map .malformed ++ .unknown name :: after ∧
            (deleted fields).head? = some name ∧
            (strictCompiler.compileFields fields).result =
              .error (before.head?.getD (.unknownOperator name))) := by
  refine ⟨permissive_eq_strict_prune fields, ?_, strict_refuses⟩
  intro h
  rw [permissive_eq_strict_prune, h]

/-- Every name is registered, also in the sub-query. -/
def registeredOnly : List (String × Term) :=
  [("$notor", .list [.map [("a", .map [("$gt", .scalar (.bool true))])], .map []]),
    ("$has", .scalar (.string "b"))]

/-- A malformed operand stands between two names that are not registered. -/
def malformedBetween : List (String × Term) :=
  [("$or", .map [("a", .map [("$nope", .scalar .null)])]),
    ("b", .map [("$mod", .scalar .null)]),
    ("$never", .scalar .null)]

theorem permissive_prunes_strict_refuses_samples :
    (strictCompiler.compileFields registeredOnly).result =
        (permissiveCompiler.compileFields registeredOnly).result ∧
      deleted malformedBetween = ["$nope", "$never"] ∧
      (strictCompiler.compileFields malformedBetween).result =
        .error (.unknownOperator "$nope") := by
  have hkept := (permissive_prunes_strict_refuses registeredOnly).2.1 rfl
  have hchanged : prune malformedBetween ≠ malformedBetween :=
    fun h => absurd (congrArg List.length h) (by decide)
  obtain ⟨before, name, after, hfindings, hname, hresult⟩ :=
    (permissive_prunes_strict_refuses malformedBetween).2.2 hchanged
  refine ⟨hkept, rfl, ?_⟩
  have hlist : findings malformedBetween =
      [.unknown "$nope",
        .malformed (.operand "$mod" "a [divisor, remainder] list of numbers"),
        .unknown "$never"] := by
    decide
  rw [hlist] at hfindings
  cases before with
  | nil =>
      cases hfindings
      exact hresult
  | cons error errors =>
      cases hfindings

/-! ## What strict compilers accept -/

/-- Whether a key is an operator key without a registered operator. -/
def isUnknownKey (key : String) : Bool :=
  isOperatorKey key && !isClauseOperator key

def Term.isMapOrPattern : Term → Bool
  | .map _ | .regex _ => true
  | .scalar _ | .list _ => false

def fieldPositions (key : String) (term : Term) (subqueries : List (String × Term)) :
    List (String × Term) :=
  (key, term) :: if takesQueries key then subqueries else []

/-- The fields of a query and of its sub-queries, at any depth. -/
def positions : List (String × Term) → List (String × Term) :=
  gather fieldPositions []

def itemPositions : Term → List (String × Term) :=
  gatherItem fieldPositions []

theorem positions_cons (key : String) (term : Term) (rest : List (String × Term)) :
    positions ((key, term) :: rest) =
      fieldPositions key term (term.elements.flatMap itemPositions) ++ positions rest :=
  gather_cons _ _ key term rest

theorem mem_positions_of_rest {key : String} {term : Term} {rest : List (String × Term)}
    {field : String × Term} (h : field ∈ positions rest) :
    field ∈ positions ((key, term) :: rest) := by
  rw [positions_cons]
  exact List.mem_append_right _ h

theorem mem_positions_self (key : String) (term : Term) (rest : List (String × Term)) :
    (key, term) ∈ positions ((key, term) :: rest) := by
  rw [positions_cons]
  exact List.mem_append_left _ List.mem_cons_self

theorem mem_positions_of_subquery {key : String} {term : Term} {rest fields : List (String × Term)}
    {field : String × Term} (hkey : takesQueries key = true)
    (hfields : Term.map fields ∈ term.elements) (h : field ∈ positions fields) :
    field ∈ positions ((key, term) :: rest) := by
  rw [positions_cons, fieldPositions, if_pos hkey]
  exact List.mem_append_left _
    (List.mem_cons_of_mem _ (List.mem_flatMap.mpr ⟨.map fields, hfields, h⟩))

theorem form_of_isUnknownKey {key : String} {term : Term} (hkey : isUnknownKey key = true)
    (hterm : term.isMapOrPattern = false) : form key term = .ignored := by
  obtain ⟨hmark, hclause⟩ := Bool.and_eq_true_iff.mp hkey
  rw [isClauseOperator_eq, Bool.not_eq_true', Option.isSome_eq_false_iff,
    Option.isNone_iff_eq_none] at hclause
  cases term with
  | scalar | list =>
      simp only [form, hclause, if_pos hmark]
  | map | regex =>
      cases hterm

theorem form_of_takesQueries {key : String} {term : Term} (hkey : takesQueries key = true)
    (hterm : ∀ pattern, term ≠ .regex pattern) :
    ∃ negated, form key term = .clause ⟨.anyQuery, negated⟩ := by
  rw [takesQueries_eq, Option.any_eq_true] at hkey
  obtain ⟨⟨word, negated⟩, hsigned, hword⟩ := hkey
  cases beq_iff_eq.mp hword
  exact ⟨negated, form_eq_clause_iff.mpr ⟨hterm, hsigned⟩⟩

theorem isMapOrPattern_of_findings {fields : List (String × Term)} (h : findings fields = []) :
    ∀ field ∈ positions fields, isUnknownKey field.1 = true →
      field.2.isMapOrPattern = true := by
  induction fields using fields_induction with
  | nil =>
      intro field hmem
      cases hmem
  | cons key term rest hsub ih =>
      rw [findings_cons, List.append_eq_nil_iff, fieldFindings] at h
      obtain ⟨hfield, hrest⟩ := h
      intro field hmem hkey
      rw [positions_cons, fieldPositions, List.cons_append, List.mem_cons,
        List.mem_append] at hmem
      -- The field itself, the sub-queries in its operand, and the fields after it.
      rcases hmem with rfl | hmem | hmem
      · cases hterm : term.isMapOrPattern with
        | true =>
            rfl
        | false =>
            rw [form_of_isUnknownKey hkey hterm] at hfield
            cases hfield
      · split at hmem
        · rename_i hqueries
          obtain ⟨item, hitem, hfields⟩ := List.mem_flatMap.mp hmem
          cases item with
          | map fields =>
              have hterm : ∀ pattern, term ≠ .regex pattern := by
                rintro pattern rfl
                cases List.mem_singleton.mp hitem
              obtain ⟨negated, hform⟩ := form_of_takesQueries hqueries hterm
              rw [hform] at hfield
              have hnone := List.flatMap_eq_nil_iff.mp hfield (.map fields) hitem
              exact hsub fields hitem hnone field hfields hkey
          | scalar | regex | list =>
              cases hfields
        · cases hmem
      · exact ih hrest field hmem hkey

theorem findings_of_accepted {fields : List (String × Term)} {predicate : Predicate}
    (accepted : (strictCompiler.compileFields fields).result = .ok predicate) :
    findings fields = [] := by
  rw [strict_result, verdict_eq_ok_iff] at accepted
  cases hfindings : findings fields with
  | nil =>
      rfl
  | cons finding rest =>
      rw [hfindings] at accepted
      cases finding <;> cases accepted.1

/-- A strict compiler accepts unknown keys, namely over maps: there the key is read as the
name of a field. -/
theorem accepts_unknown_key :
    ¬ ∀ fields predicate, (strictCompiler.compileFields fields).result = .ok predicate →
      ∀ field ∈ positions fields, isUnknownKey field.1 = false := by
  intro h
  have hkey := h [("$nope", .map [("$gt", .scalar (.number (.ofNat 1)))])] _ rfl
    ("$nope", .map [("$gt", .scalar (.number (.ofNat 1)))]) List.mem_cons_self
  cases hkey

/-- In a query that a strict compiler accepts, every operator key is registered exactly if
none without a registered operator stands over a map or a pattern. -/
theorem accepted_keys_registered_iff {fields : List (String × Term)} {predicate : Predicate}
    (accepted : (strictCompiler.compileFields fields).result = .ok predicate) :
    (∀ field ∈ positions fields, isUnknownKey field.1 = false) ↔
      ∀ field ∈ positions fields, isUnknownKey field.1 = true →
        field.2.isMapOrPattern = false := by
  have hover := isMapOrPattern_of_findings (findings_of_accepted accepted)
  constructor
  · intro hknown field hmem hkey
    rw [hknown field hmem] at hkey
    cases hkey
  · intro hplain field hmem
    cases hkey : isUnknownKey field.1 with
    | false =>
        rfl
    | true =>
        have hterm := hover field hmem hkey
        rw [hplain field hmem hkey] at hterm
        cases hterm

/-- The sub-query of a negated alternative has an unknown key over a map. -/
def nestedUnknown : List (String × Term) :=
  [("a", .scalar .null),
    ("$notor", .list [.map [("$nope", .map [("$nil", .scalar (.bool true))])]])]

theorem accepted_keys_registered_iff_nested :
    (∃ predicate, (strictCompiler.compileFields nestedUnknown).result = .ok predicate) ∧
      (positions nestedUnknown).map Prod.fst = ["a", "$notor", "$nope"] ∧
      ((∀ field ∈ positions nestedUnknown, isUnknownKey field.1 = false) ↔
        ∀ field ∈ positions nestedUnknown, isUnknownKey field.1 = true →
          field.2.isMapOrPattern = false) :=
  ⟨⟨_, rfl⟩, rfl, accepted_keys_registered_iff rfl⟩

end DocQuery
