import DocQuery.Proofs.Grammar.Spelled
import DocQuery.Proofs.NormalForm

/-!
# Stored queries

A query is stored as the JSON value of its normal form.  Four readings meet there: the
normal form writes patterns in the place of values as operands, the JSON value writes all
other patterns as strings, reading it back leaves them strings, and a compiler reads a
string under the pattern operator as the pattern.  Each reads alike with the one before.
-/

namespace DocQuery

namespace Query

/-! ## Positions of normal forms -/

theorem itemPositions_normalizeItem {item : Term} {change : String × Term → String × Term}
    (h : ∀ fields, item = .map fields →
      positions (normalizeFields fields) = (positions fields).map change) :
    itemPositions (normalizeItem item) = (itemPositions item).map change := by
  cases item with
  | map fields => exact h fields rfl
  | scalar | regex | list => rfl

/-- The fields of a normal form are the normal forms of the fields, at any depth. -/
theorem positions_normalizeFields {fields : List (String × Term)}
    (h : ∀ field ∈ positions fields, takesQueries field.1 = true →
      ∀ pattern, field.2 ≠ .regex pattern) :
    positions (normalizeFields fields) =
      (positions fields).map fun field => (field.1, normalizeTerm field.1 field.2) := by
  induction fields using fields_induction with
  | nil =>
      rw [normalizeFields]
      rfl
  | cons key term rest hsub ih =>
      rw [normalizeFields, positions_cons, positions_cons, List.map_append,
        ih fun field hmem => h field (mem_positions_of_rest hmem)]
      refine congrArg (· ++ _) ?_
      rw [fieldPositions, fieldPositions, List.map_cons]
      refine congrArg (_ :: ·) ?_
      -- Sub-queries move along with their operand; under any other key none are read.
      split
      · rename_i hqueries
        have hterm := h _ (mem_positions_self key term rest) hqueries
        rw [elements_normalizeTerm (isOperatorKey_of_takesQueries hqueries) hterm,
          List.flatMap_map, List.map_flatMap]
        refine List.flatMap_congr fun item hitem => itemPositions_normalizeItem ?_
        rintro fields rfl
        exact hsub fields hitem fun field hmem =>
          h field (mem_positions_of_subquery hqueries hitem hmem)
      · rfl

/-! ## Terms of normal forms -/

theorem keys_normalizeFields (fields : List (String × Term)) :
    Entries.keys (normalizeFields fields) = Entries.keys fields := by
  rw [normalizeFields_eq_map, Entries.keys, Entries.keys, List.map_map]
  rfl

/-- A map under an operator key has the normal form of a sub-query. -/
theorem normalizeItem_eq (item : Term) :
    normalizeItem item = item ∨ normalizeItem item = normalizeTerm patternOperator item := by
  cases item with
  | map fields =>
      right
      rw [normalizeTerm, if_pos (by decide)]
      rfl
  | scalar | regex | list => exact .inl rfl

theorem proper_normalizeTerm {term : Term} (proper : term.Proper) (key : String) :
    (normalizeTerm key term).Proper := by
  induction proper generalizing key with
  | scalar plain =>
      rw [normalizeTerm]
      exact .scalar plain
  | regex pattern =>
      rw [normalizeTerm]
      refine .map (List.nodup_cons.mpr ⟨List.not_mem_nil, List.nodup_nil⟩) fun field hmem => ?_
      cases List.mem_singleton.mp hmem
      exact .scalar rfl
  | @map fields distinct terms ih =>
      rw [normalizeTerm]
      split
      · refine .map ?_ fun field hmem => ?_
        · rw [Entries.Distinct, keys_normalizeFields]
          exact distinct
        · rw [normalizeFields_eq_map] at hmem
          obtain ⟨other, hother, rfl⟩ := List.mem_map.mp hmem
          exact ih other hother other.1
      · exact .map distinct terms
  | @list items terms ih =>
      rw [normalizeTerm]
      split
      · refine .list fun item hmem => ?_
        rw [normalizeItems_eq_map] at hmem
        obtain ⟨other, hother, rfl⟩ := List.mem_map.mp hmem
        -- An item is rewritten as under any operator key, so the hypothesis is used at one.
        rcases normalizeItem_eq other with heq | heq <;> rw [heq]
        · exact terms other hother
        · exact ih other hother patternOperator
      · exact .list terms

theorem spellable_normalizeTerm {key : String} {term : Term} (h : term.ComparesValues) :
    (normalizeTerm key term).Spellable where
  value := normalizeTerm_ne_regex key term
  operands := by
    intro entries hentries entry hentry hname
    cases term with
    | scalar | list =>
        rw [normalizeTerm] at hentries
        cases hentries
    | regex pattern =>
        rw [normalizeTerm] at hentries
        cases hentries
        cases List.mem_singleton.mp hentry
        intro pattern h
        cases h
    | map fields =>
        rw [normalizeTerm] at hentries
        cases hentries
        -- What is rewritten is no pattern, and an untouched map has its own operands.
        split at hentry
        · rw [normalizeFields_eq_map] at hentry
          obtain ⟨field, _, rfl⟩ := List.mem_map.mp hentry
          exact normalizeTerm_ne_regex field.1 field.2
        · exact h fields rfl entry hentry hname

/-! ## Queries that can be stored -/

/-- Whether a query means the same once it is stored: its terms can be written as they are,
every operator key at any depth is registered and stands over no pattern, and no pattern is
the operand of an inequality. -/
structure Storable (query : Query) : Prop where
  proper : query.toTerm.Proper
  keys : ∀ field ∈ positions query.fields, isOperatorKey field.1 = true →
    isClauseOperator field.1 = true ∧ ∀ pattern, field.2 ≠ .regex pattern
  operands : ∀ field ∈ positions query.fields, field.2.ComparesValues

namespace Storable

variable {query : Query}

theorem readAlike (storable : query.Storable) :
    ∀ field ∈ positions query.fields, ReadAlike field.1 field.2 := by
  intro field hmem
  constructor
  · intro pattern hterm
    cases hclause : isClauseOperator field.1 with
    | false =>
        rfl
    | true =>
        have hkey := isOperatorKey_of_isClauseOperator hclause
        exact absurd hterm ((storable.keys field hmem hkey).2 pattern)
  · intro hunknown
    obtain ⟨hkey, hclause⟩ := Bool.and_eq_true_iff.mp hunknown
    rw [(storable.keys field hmem hkey).1] at hclause
    cases hclause

theorem spellable (storable : query.Storable) :
    ∀ field ∈ positions query.normalize.fields, field.2.Spellable := by
  intro field hmem
  have hpositions := positions_normalizeFields fun field hfield hqueries =>
    (storable.keys field hfield (isOperatorKey_of_takesQueries hqueries)).2
  rw [normalize, hpositions] at hmem
  obtain ⟨other, hother, rfl⟩ := List.mem_map.mp hmem
  exact spellable_normalizeTerm (storable.operands other hother)

end Storable

/-! ## Storage -/

theorem sound_of_compiles {config : Config} {query : Query} {predicate : Predicate}
    (compiles : (({ config } : Compiler).compile query).result = .ok predicate) :
    Sound (findings query.fields) := by
  rw [Compiler.result_compile_standard, verdict_eq_ok_iff] at compiles
  obtain ⟨hnone, -⟩ := compiles
  intro finding hmem
  have hfinding := List.findSome?_eq_none_iff.mp hnone finding hmem
  cases finding with
  | malformed error => cases hfinding
  | unknown name => rfl

/-- The stored value of a query is read as the query in normal form, spelled out. -/
theorem ofJson_stored {query : Query} (proper : query.toTerm.Proper) :
    ofJson query.normalize.toJson =
      .ok { fields := Term.spellFields query.normalize.fields } := by
  have hnormal : query.normalize.toTerm.Proper := by
    have hproper := proper_normalizeTerm proper patternOperator
    rw [toTerm, normalizeTerm, if_pos (by decide)] at hproper
    exact hproper
  rw [ofJson, toJson, Term.ofJson_toJson hnormal, toTerm, Term.spellOut, ofTerm]

theorem sameReading_stored {query : Query} (storable : query.Storable)
    (sound : Sound (findings query.fields)) :
    SameReading query.fields (Term.spellFields query.normalize.fields) := by
  have hnormal : SameReading query.fields query.normalize.fields :=
    sameReading_normalizeFields storable.readAlike
  have hsound : Sound (findings query.normalize.fields) := by
    rw [hnormal.found]
    exact sound
  exact hnormal.trans (sameReading_spellFields storable.spellable hsound)

/-- A query that compiles is stored and read back as one that compiles to a test that agrees
with its own, in either mode. -/
theorem stored_agrees (config : Config) (query : Query) (storable : query.Storable)
    (predicate : Predicate)
    (compiles : (({ config } : Compiler).compile query).result = .ok predicate) :
    ∃ stored other, ofJson query.normalize.toJson = .ok stored ∧
      (({ config } : Compiler).compile stored).result = .ok other ∧
      ∀ document previous,
        other.passes { current := document, previous } =
          predicate.passes { current := document, previous } := by
  have hreading := sameReading_stored storable (sound_of_compiles compiles)
  refine ⟨{ fields := Term.spellFields query.normalize.fields }, predicate,
    ofJson_stored storable.proper, ?_, fun _ _ => rfl⟩
  rw [hreading.result_compile config, compiles]

def slashedPattern : Pattern where
  source := "a/b"
  flags := "s"
  program := .literal ['a', '/', 'b']
  compiles := rfl

/-- Patterns wherever they can be stored: as values at two depths, as operands of the pattern
operator and of a name that says nothing, and in lists. -/
def patternsEverywhere : Query where
  fields :=
    [("a", .regex slashedPattern),
      ("$or", .list [.map [("b", .regex .letterX)],
        .map [("$notor", .map [("c", .regex slashedPattern), ("a", .scalar .null)])]]),
      ("d", .map [("$regex", .regex slashedPattern), ("$notregex", .regex .letterX),
        ("$nope", .regex .letterX), ("$not", .list [.regex .letterX])]),
      ("e", .list [.regex slashedPattern, .map [("f", .regex .letterX)]])]

theorem storable_patternsEverywhere : patternsEverywhere.Storable := by
  have hpositions : positions patternsEverywhere.fields =
      [("a", .regex slashedPattern),
        ("$or", .list [.map [("b", .regex .letterX)],
          .map [("$notor", .map [("c", .regex slashedPattern), ("a", .scalar .null)])]]),
        ("b", .regex .letterX),
        ("$notor", .map [("c", .regex slashedPattern), ("a", .scalar .null)]),
        ("c", .regex slashedPattern),
        ("a", .scalar .null),
        ("d", .map [("$regex", .regex slashedPattern), ("$notregex", .regex .letterX),
          ("$nope", .regex .letterX), ("$not", .list [.regex .letterX])]),
        ("e", .list [.regex slashedPattern, .map [("f", .regex .letterX)]])] := rfl
  constructor
  · simp [patternsEverywhere, toTerm, Entries.Distinct, Entries.keys, Json.isPlain]
  · rw [hpositions]
    simp only [List.forall_mem_cons, List.not_mem_nil, false_imp_iff, implies_true, and_true]
    have hplain : ∀ {key : String} {term : Term}, isOperatorKey key = false →
        isOperatorKey key = true →
          isClauseOperator key = true ∧ ∀ pattern, term ≠ .regex pattern := by
      intro key term hkey hmark
      rw [hkey] at hmark
      cases hmark
    refine ⟨hplain rfl, fun _ => ⟨rfl, ?_⟩, hplain rfl, fun _ => ⟨rfl, ?_⟩, hplain rfl,
      hplain rfl, hplain rfl, hplain rfl⟩ <;> (intro pattern h; cases h)
  · rw [hpositions]
    simp [Term.ComparesValues, -Prod.forall, -List.mem_cons, List.forall_mem_cons]

theorem stored_agrees_patternsEverywhere :
    ∃ predicate stored other,
      (({} : Compiler).compile patternsEverywhere).result = .ok predicate ∧
      ofJson patternsEverywhere.normalize.toJson = .ok stored ∧
      (({} : Compiler).compile stored).result = .ok other ∧
      ∀ document previous,
        other.passes { current := document, previous } =
          predicate.passes { current := document, previous } := by
  obtain ⟨stored, other, hstored, hother, hagrees⟩ :=
    stored_agrees {} patternsEverywhere storable_patternsEverywhere _ rfl
  exact ⟨_, stored, other, rfl, hstored, hother, hagrees⟩

end Query

end DocQuery
