import DocQuery.Proofs.Arrangement.Terms
import DocQuery.Proofs.Equalities

/-!
# The order of keys

Where no key is repeated, the order of keys decides nothing: not whether a query compiles,
and not what its test says of a document, whatever the order of keys in the document.  Only
the error that is reported of a faulty query is the first one in the order of its keys.
-/

namespace DocQuery

/-! ## Queries field by field -/

theorem findings_eq_flatMap (fields : List (String × Term)) :
    findings fields = fields.flatMap fun field =>
      fieldFindings field.1 field.2 (field.2.elements.flatMap itemFindings) := by
  induction fields with
  | nil => rfl
  | cons field rest ih => rw [findings_cons, List.flatMap_cons, ih]

/-- A query without repeated keys is true if all its fields are. -/
theorem means_eq_all {fields : List (String × Term)} (distinct : Entries.Distinct fields)
    (revision : Revision) :
    means fields revision = fields.all fun field =>
      fieldHolds field.1 field.2 false (meansSome field.2 revision) revision := by
  induction fields with
  | nil => rfl
  | cons field rest ih =>
      obtain ⟨hkey, hrest⟩ := List.nodup_cons.mp distinct
      rw [means, List.all_cons, ih hrest, hasEquality_eq_false hkey]

/-! ## Entries of maps -/

section

variable {operand other : Term} {entries others : List (String × Term)}
  {triples : List (String × Term × Term)}

theorem entryFindings_rearranged (name : String) (h : operand.Rearranged other) :
    entryFindings (name, other) = entryFindings (name, operand) := by
  simp only [entryFindings, FieldWord.fault?_eq _ h]

theorem entryHolds_rearranged (name : String) {field changed : FieldHistory}
    (hfield : field.Rearranged changed) (h : operand.Rearranged other) :
    entryHolds (name, other) changed = entryHolds (name, operand) field := by
  simp only [entryHolds, Signed.holds, FieldWord.holds_eq _ hfield h]

theorem entriesFindings_perm (beside : Entries.Beside triples entries others)
    (terms : ∀ triple ∈ triples, triple.2.1.Rearranged triple.2.2) :
    (others.flatMap entryFindings).Perm (entries.flatMap entryFindings) := by
  have hmap : (others.map entryFindings).Perm (entries.map entryFindings) :=
    beside.map_perm fun name _ _ htriple => entryFindings_rearranged name (terms _ htriple)
  rw [List.flatMap_def, List.flatMap_def]
  exact hmap.flatten

theorem allEntriesHold_eq (beside : Entries.Beside triples entries others)
    (terms : ∀ triple ∈ triples, triple.2.1.Rearranged triple.2.2) {field changed : FieldHistory}
    (hfield : field.Rearranged changed) :
    (others.all fun entry => entryHolds entry changed) =
      entries.all fun entry => entryHolds entry field := by
  have hmap : (others.map fun entry => entryHolds entry changed).Perm
      (entries.map fun entry => entryHolds entry field) :=
    beside.map_perm fun name _ _ htriple =>
      entryHolds_rearranged name hfield (terms _ htriple)
  simpa only [List.all_map, Function.comp_def, id] using hmap.all_eq (f := id)

end

/-! ## Forms -/

/-- Whether two fields have one form, with rearranged maps of operators. -/
inductive Form.Rearranged : Form → Form → Prop
  | pattern (pattern : Pattern) : Rearranged (.pattern pattern) (.pattern pattern)
  | clause (signed : Signed ClauseWord) : Rearranged (.clause signed) (.clause signed)
  | ignored : Rearranged .ignored .ignored
  | equality : Rearranged .equality .equality
  | operators {entries others : List (String × Term)} (triples : List (String × Term × Term))
      (beside : Entries.Beside triples entries others)
      (terms : ∀ triple ∈ triples, triple.2.1.Rearranged triple.2.2) :
      Rearranged (.operators entries) (.operators others)

theorem form_rearranged (key : String) {term other : Term} (h : term.Rearranged other) :
    (form key term).Rearranged (form key other) := by
  unfold form
  cases h with
  | regex pattern => exact .pattern pattern
  | scalar | list =>
      cases (Signed.ofText? key : Option (Signed ClauseWord)) with
      | some signed => exact .clause signed
      | none =>
          cases isOperatorKey key with
          | true => exact .ignored
          | false => exact .equality
  | map triples beside terms =>
      cases (Signed.ofText? key : Option (Signed ClauseWord)) with
      | some signed => exact .clause signed
      | none => exact .operators triples beside terms

/-! ## Fields -/

/-- Whether two terms read alike as operands and as items, up to the order in which
something is found in them. -/
structure Term.Alike (term other : Term) : Prop where
  found : (other.elements.flatMap itemFindings).Perm (term.elements.flatMap itemFindings)
  meaning : ∀ revision changed : Revision, revision.Rearranged changed →
    meansSome other changed = meansSome term revision
  itemFound : (itemFindings other).Perm (itemFindings term)
  itemMeaning : ∀ revision changed : Revision, revision.Rearranged changed →
    meansItem other changed = meansItem term revision

section

variable {key : String} {term other : Term}

/-- The same is found in rearranged fields. -/
theorem fieldFindings_perm (h : term.Rearranged other) (alike : term.Alike other) :
    (fieldFindings key other (other.elements.flatMap itemFindings)).Perm
      (fieldFindings key term (term.elements.flatMap itemFindings)) := by
  have hform := form_rearranged key h
  unfold fieldFindings
  generalize form key term = own at hform
  generalize form key other = changed at hform
  cases hform with
  | pattern | ignored | equality => exact .refl _
  | operators triples beside terms => exact entriesFindings_perm beside terms
  | clause signed =>
      obtain ⟨word, negated⟩ := signed
      cases word with
      | anyQuery => exact alike.found
      | hasFields =>
          have hitems := h.map_elements fun item changed hitem =>
            congrArg (fun text : Option String =>
              if text.isSome then [] else [Finding.malformed ClauseWord.hasFields.fault])
              hitem.string?_eq
          dsimp only [ClauseWord.findings]
          rw [List.flatMap_def, List.flatMap_def, hitems]

/-- Rearranged fields say the same of rearranged documents. -/
theorem fieldHolds_rearranged {revision changed : Revision}
    (hrevision : revision.Rearranged changed) (h : term.Rearranged other)
    (alike : term.Alike other) :
    fieldHolds key other false (meansSome other changed) changed =
      fieldHolds key term false (meansSome term revision) revision := by
  have hform := form_rearranged key h
  have hfield := hrevision.field key
  unfold fieldHolds
  generalize form key term = own at hform
  generalize form key other = form at hform
  cases hform with
  | pattern pattern => exact Pattern.occursIn_of_rel pattern hfield.now
  | ignored => rfl
  | equality => exact congrArg (false || ·) (FieldWord.equals_eq hfield.now h)
  | operators triples beside terms => exact allEntriesHold_eq beside terms hfield
  | clause signed =>
      obtain ⟨word, negated⟩ := signed
      refine congrArg (Signed.outcome _) ?_
      cases word with
      | anyQuery => exact alike.meaning revision changed hrevision
      | hasFields =>
          have hnames (name : String) :
              (changed.field name).now.isSome = (revision.field name).now.isSome :=
            Json.isSome_of_rel (hrevision.field name).now
          refine h.all_elements fun item other hitem => ?_
          simp only [hitem.string?_eq, hnames]

end

/-! ## Terms -/

namespace Term

/-- Terms that are no lists are operands of one item. -/
theorem Alike.of_item {term other : Term} (hterm : term.elements = [term])
    (hother : other.elements = [other])
    (found : (itemFindings other).Perm (itemFindings term))
    (meaning : ∀ revision changed : Revision, revision.Rearranged changed →
      meansItem other changed = meansItem term revision) : term.Alike other := by
  refine ⟨?_, fun revision changed hrevision => ?_, found, meaning⟩
  · simpa [hterm, hother] using found
  · simp [meansSome_eq, hterm, hother, meaning revision changed hrevision]

theorem Alike.list {items others : List Term} {pairs : List (Term × Term)}
    (before : pairs.map Prod.fst = items) (after : pairs.map Prod.snd = others)
    (alike : ∀ pair ∈ pairs, pair.1.Alike pair.2) : (Term.list items).Alike (.list others) := by
  subst before after
  refine ⟨?_, fun revision changed hrevision => ?_, .refl _, fun _ _ _ => rfl⟩
  · rw [elements, elements, List.flatMap_map, List.flatMap_map]
    exact .flatMap_left _ fun pair hpair => (alike pair hpair).itemFound
  · have hitems : pairs.map (fun pair => meansItem pair.2 changed) =
        pairs.map fun pair => meansItem pair.1 revision :=
      List.map_congr_left fun pair hpair =>
        (alike pair hpair).itemMeaning revision changed hrevision
    rw [meansSome_eq, meansSome_eq, elements, elements]
    simpa only [List.any_map, Function.comp_def, id] using congrArg (List.any · id) hitems

theorem Alike.map {fields others : List (String × Term)} {triples : List (String × Term × Term)}
    (beside : Entries.Beside triples fields others)
    (terms : ∀ triple ∈ triples, triple.2.1.Rearranged triple.2.2)
    (alike : ∀ triple ∈ triples, triple.2.1.Alike triple.2.2) :
    (Term.map fields).Alike (.map others) := by
  refine .of_item rfl rfl ?_ fun revision changed hrevision => ?_
  · show (findings others).Perm (findings fields)
    rw [findings_eq_flatMap, findings_eq_flatMap, ← beside.before, List.flatMap_map]
    refine (beside.after.flatMap_right _).symm.trans ?_
    rw [List.flatMap_map]
    exact .flatMap_left _ fun triple htriple =>
      fieldFindings_perm (terms triple htriple) (alike triple htriple)
  · show means others changed = means fields revision
    rw [means_eq_all beside.distinct, means_eq_all beside.distinct_others, ← beside.before,
      ← beside.after.all_eq, List.all_map, List.all_map, Bool.eq_iff_iff, List.all_eq_true,
      List.all_eq_true]
    refine forall₂_congr fun triple htriple => ?_
    rw [Function.comp_apply, Function.comp_apply,
      fieldHolds_rearranged hrevision (terms triple htriple) (alike triple htriple)]

theorem Rearranged.alike {term other : Term} (h : term.Rearranged other) : term.Alike other := by
  induction h with
  | scalar | regex => exact .of_item rfl rfl (.refl _) fun _ _ _ => rfl
  | list pairs before after _ ih => exact .list before after ih
  | map triples beside terms ih => exact .map beside terms ih

theorem Rearranged.refl_left {term other : Term} (h : term.Rearranged other) :
    term.Rearranged term := by
  induction h with
  | scalar values => exact .scalar values.proper.rearranged
  | regex pattern => exact .regex pattern
  | list pairs before after _ ih =>
      refine .list (pairs.map fun pair => (pair.1, pair.1)) ?_ ?_ fun pair hpair => ?_
      · rw [← before, List.map_map]
        rfl
      · rw [← before, List.map_map]
        rfl
      · obtain ⟨own, hown, rfl⟩ := List.mem_map.mp hpair
        exact ih own hown
  | map triples beside _ ih =>
      refine .map (triples.map fun triple => (triple.1, triple.2.1, triple.2.1))
        ⟨beside.distinct, ?_, ?_⟩ fun triple htriple => ?_
      · rw [← beside.before, List.map_map]
        rfl
      · rw [← beside.before, List.map_map]
        exact .refl _
      · obtain ⟨own, hown, rfl⟩ := List.mem_map.mp htriple
        exact ih own hown

end Term

/-! ## Compiled queries -/

theorem firstError?_eq_none_of_perm {found changed : List Finding} (strict : Bool)
    (h : changed.Perm found) :
    firstError? strict changed = none ↔ firstError? strict found = none := by
  simp only [firstError?, List.findSome?_eq_none_iff, h.mem_iff]

theorem compiles_iff (config : Config) (query : Query) :
    (∃ predicate, (({ config } : Compiler).compile query).result = .ok predicate) ↔
      firstError? config.strict (findings query.fields) = none := by
  simp only [Compiler.result_compile_standard, verdict_eq_ok_iff, exists_and_left,
    exists_eq', and_true]

/-- A query compiles exactly if it does so rearranged, and then the two tests give the same
result, also for rearranged documents. -/
theorem compile_rearranged (config : Config) {query other : Query}
    (h : query.toTerm.Rearranged other.toTerm) :
    ((∃ predicate, (({ config } : Compiler).compile query).result = .ok predicate) ↔
        ∃ predicate, (({ config } : Compiler).compile other).result = .ok predicate) ∧
      ∀ predicate changed,
        (({ config } : Compiler).compile query).result = .ok predicate →
        (({ config } : Compiler).compile other).result = .ok changed →
        ∀ revision rearranged : Revision, revision.Rearranged rearranged →
          changed.passes revision = predicate.passes revision ∧
            changed.passes rearranged = predicate.passes revision ∧
            predicate.passes rearranged = predicate.passes revision := by
  have halike := h.alike
  constructor
  · rw [compiles_iff, compiles_iff]
    exact (firstError?_eq_none_of_perm config.strict halike.itemFound).symm
  · intro predicate changed hcompiled hchanged revision rearranged hrevision
    rw [Compiler.result_compile_standard, verdict_eq_ok_iff] at hcompiled hchanged
    obtain ⟨-, rfl⟩ := hcompiled
    obtain ⟨-, rfl⟩ := hchanged
    have hsame := halike.itemMeaning revision revision hrevision.refl_left
    have hboth := halike.itemMeaning revision rearranged hrevision
    have hdocument := h.refl_left.alike.itemMeaning revision rearranged hrevision
    exact ⟨hsame, hboth, hdocument⟩

/-- A sub-query, a map of operators and an equality, each with two keys. -/
def keysInOrder : Query where
  fields := [("$notor", .list [.map [("a", .scalar .null), ("b", .scalar .null)]]),
    ("c", .map [("$changed", .scalar (.bool true)),
      ("$any", .list [.map [("x", .scalar (.bool true)), ("y", .scalar .null)]])])]

/-- The same query with the keys of all maps the other way round. -/
def keysReversed : Query where
  fields := [("c", .map [
      ("$any", .list [.map [("y", .scalar .null), ("x", .scalar (.bool true))]]),
      ("$changed", .scalar (.bool true))]),
    ("$notor", .list [.map [("b", .scalar .null), ("a", .scalar .null)]])]

theorem keysInOrder_rearranged : keysInOrder.toTerm.Rearranged keysReversed.toTerm := by
  have hnull : (Term.scalar .null).Rearranged (.scalar .null) := .scalar (.plain rfl)
  have htrue : (Term.scalar (.bool true)).Rearranged (.scalar (.bool true)) :=
    .scalar (.plain rfl)
  have hquery := Term.Rearranged.swap (k := "a") (l := "b") (by decide) hnull hnull
  have hvalue := Term.Rearranged.swap (k := "x") (l := "y") (by decide) htrue hnull
  have hqueries := Term.Rearranged.list [(_, _)] rfl rfl (List.forall_mem_singleton.mpr hquery)
  have hvalues := Term.Rearranged.list [(_, _)] rfl rfl (List.forall_mem_singleton.mpr hvalue)
  exact .swap (by decide) hqueries (.swap (by decide) htrue hvalues)

theorem compile_rearranged_reversed :
    let value := Json.object [("x", .bool true), ("y", .null)]
    let swapped := Json.object [("y", .null), ("x", .bool true)]
    let document := Json.object [("b", .null), ("c", value)]
    let rearranged := Json.object [("c", swapped), ("b", .null)]
    ∃ predicate changed,
      (strictCompiler.compile keysInOrder).result = .ok predicate ∧
      (strictCompiler.compile keysReversed).result = .ok changed ∧
      predicate.passes { current := document } = true ∧
      changed.passes { current := rearranged } = true := by
  intro value swapped document rearranged
  have hvalue : value.Rearranged swapped := .swap (by decide) (.plain rfl) (.plain rfl)
  have hdocument : document.Rearranged rearranged := .swap (by decide) (.plain rfl) hvalue
  have hcompiled : (strictCompiler.compile keysInOrder).result = .ok _ := rfl
  have hchanged : (strictCompiler.compile keysReversed).result = .ok _ := rfl
  obtain ⟨_, hpasses⟩ := compile_rearranged { strict := true } keysInOrder_rearranged
  obtain ⟨_, hboth, _⟩ := hpasses _ _ hcompiled hchanged { current := document }
    { current := rearranged } ⟨hdocument, .none⟩
  exact ⟨_, _, hcompiled, hchanged, rfl, hboth.trans rfl⟩

end DocQuery
