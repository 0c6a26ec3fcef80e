import DocQuery.Proofs.Arrangement.Values
import DocQuery.Proofs.Grammar.Finding

/-!
# Rearranged terms

A term takes three roles in a query: it is an operand, a map of operators, or the value of
an equality.  In each of them a term with the entries of its maps in another order says the
same, also of rearranged documents.
-/

namespace DocQuery

/-! ## Terms -/

namespace Term

/-- Whether two terms without repeated keys differ at most in the order of the entries of
maps, and of the members of objects in scalars, at any depth. -/
inductive Rearranged : Term → Term → Prop
  | scalar {value other : Json} (values : value.Rearranged other) :
      Rearranged (scalar value) (scalar other)
  | regex (pattern : Pattern) : Rearranged (regex pattern) (regex pattern)
  | list {items others : List Term} (pairs : List (Term × Term))
      (before : pairs.map Prod.fst = items) (after : pairs.map Prod.snd = others)
      (terms : ∀ pair ∈ pairs, Rearranged pair.1 pair.2) :
      Rearranged (list items) (list others)
  | map {fields others : List (String × Term)} (triples : List (String × Term × Term))
      (beside : Entries.Beside triples fields others)
      (terms : ∀ triple ∈ triples, Rearranged triple.2.1 triple.2.2) :
      Rearranged (map fields) (map others)

theorem ofPairs_fieldsToJson {fields : List (String × Term)} (distinct : Entries.Distinct fields) :
    Entries.ofPairs (fieldsToJson fields) = fieldsToJson fields := by
  refine Entries.ofPairs_of_distinct ?_
  rw [Entries.Distinct, keys_fieldsToJson]
  exact distinct

namespace Rearranged

variable {term other : Term}

/-- A map of two entries the other way round. -/
theorem swap {k l : String} {first second first' second' : Term} (hne : k ≠ l)
    (hfirst : Rearranged first first') (hsecond : Rearranged second second') :
    Rearranged (.map [(k, first), (l, second)]) (.map [(l, second'), (k, first')]) :=
  .map [(k, first, first'), (l, second, second')] (.swap hne)
    (List.forall_mem_cons.mpr ⟨hfirst, List.forall_mem_singleton.mpr hsecond⟩)

theorem string?_eq (h : Rearranged term other) : other.string? = term.string? := by
  cases h with
  | scalar values => exact values.string?_eq
  | regex | list | map => rfl

theorem bool?_eq (h : Rearranged term other) : other.bool? = term.bool? := by
  cases h with
  | scalar values => exact values.bool?_eq
  | regex | list | map => rfl

theorem binary64?_eq (h : Rearranged term other) : other.binary64? = term.binary64? := by
  cases h with
  | scalar values => exact values.binary64?_eq
  | regex | list | map => rfl

/-- What is computed of rearranged items is the same. -/
theorem map_elements {β : Type} (h : Rearranged term other) {f g : Term → β}
    (same : ∀ item changed, Rearranged item changed → g changed = f item) :
    other.elements.map g = term.elements.map f := by
  cases h with
  | list pairs before after terms =>
      subst before after
      rw [elements, elements, List.map_map, List.map_map]
      exact List.map_congr_left fun pair hpair => same _ _ (terms pair hpair)
  | scalar values => exact congrArg ([·]) (same _ _ (.scalar values))
  | regex pattern => exact congrArg ([·]) (same _ _ (.regex pattern))
  | map triples beside terms => exact congrArg ([·]) (same _ _ (.map triples beside terms))

theorem any_elements (h : Rearranged term other) {f g : Term → Bool}
    (same : ∀ item changed, Rearranged item changed → g changed = f item) :
    other.elements.any g = term.elements.any f := by
  have hmap := congrArg (List.any · id) (h.map_elements same)
  simpa only [List.any_map, Function.comp_def, id] using hmap

theorem all_elements (h : Rearranged term other) {f g : Term → Bool}
    (same : ∀ item changed, Rearranged item changed → g changed = f item) :
    other.elements.all g = term.elements.all f := by
  have hmap := congrArg (List.all · id) (h.map_elements same)
  simpa only [List.all_map, Function.comp_def, id] using hmap

theorem toJson (h : Rearranged term other) : term.toJson.Rearranged other.toJson := by
  induction h with
  | scalar values =>
      rw [Term.toJson, Term.toJson]
      exact values
  | regex pattern =>
      rw [Term.toJson]
      exact .plain rfl
  | list pairs before after _ ih =>
      subst before after
      rw [Term.toJson, Term.toJson, itemsToJson_eq_map, itemsToJson_eq_map]
      refine .array (pairs.map fun pair => (pair.1.toJson, pair.2.toJson))
        (by simp [Function.comp_def]) (by simp [Function.comp_def]) fun pair hpair => ?_
      obtain ⟨own, hown, rfl⟩ := List.mem_map.mp hpair
      exact ih own hown
  | @map fields others triples beside _ ih =>
      rw [Term.toJson, Term.toJson, ofPairs_fieldsToJson beside.distinct,
        ofPairs_fieldsToJson beside.distinct_others, fieldsToJson_eq_map, fieldsToJson_eq_map]
      have hbeside : Entries.Beside
          (triples.map fun triple => (triple.1, triple.2.1.toJson, triple.2.2.toJson))
          (fields.map fun field => (field.1, field.2.toJson))
          (others.map fun field => (field.1, field.2.toJson)) := by
        refine ⟨?_, ?_, ?_⟩
        · rw [← fieldsToJson_eq_map, Entries.Distinct, keys_fieldsToJson]
          exact beside.distinct
        · rw [← beside.before]
          simp [Function.comp_def]
        · have hafter := beside.after.map fun field => (field.1, field.2.toJson)
          simpa [Function.comp_def] using hafter
      refine .object _ hbeside fun triple htriple => ?_
      obtain ⟨own, hown, rfl⟩ := List.mem_map.mp htriple
      exact ih own hown

end Rearranged

end Term

/-! ## Histories -/

/-- Whether two histories of a field hold rearranged values. -/
structure FieldHistory.Rearranged (field other : FieldHistory) : Prop where
  now : Option.Rel Json.Rearranged field.now other.now
  before : Option.Rel (Option.Rel Json.Rearranged) field.before other.before

/-- Whether two revisions hold rearranged documents. -/
structure Revision.Rearranged (revision other : Revision) : Prop where
  current : revision.current.Rearranged other.current
  previous : Option.Rel Json.Rearranged revision.previous other.previous

theorem Revision.Rearranged.refl_left {revision other : Revision}
    (h : revision.Rearranged other) : revision.Rearranged revision := by
  obtain ⟨current, previous⟩ := revision
  obtain ⟨current', previous'⟩ := other
  obtain ⟨hcurrent, hprevious⟩ := h
  refine ⟨hcurrent.proper.rearranged, ?_⟩
  cases hprevious with
  | none => exact .none
  | some hbefore => exact .some hbefore.proper.rearranged

theorem Revision.Rearranged.field {revision other : Revision} (h : revision.Rearranged other)
    (key : String) : (revision.field key).Rearranged (other.field key) := by
  obtain ⟨current, previous⟩ := revision
  obtain ⟨current', previous'⟩ := other
  obtain ⟨hcurrent, hprevious⟩ := h
  refine ⟨hcurrent.field? key, ?_⟩
  cases hprevious with
  | none => exact .none
  | some hbefore => exact .some (hbefore.field? key)

section

variable {value value' bound bound' : Option Json}

theorem Json.isSome_of_rel (h : Option.Rel Json.Rearranged value value') :
    value'.isSome = value.isSome := by
  cases h <;> rfl

theorem Json.sameField_of_rel (h : Option.Rel Json.Rearranged value value')
    (hbound : Option.Rel Json.Rearranged bound bound') :
    Json.sameField value' bound' = Json.sameField value bound := by
  cases h with
  | none => cases hbound <;> rfl
  | some hvalue =>
      cases hbound with
      | none => rfl
      | some hbound => exact Json.Rearranged.sameValue_eq hvalue hbound

theorem Standard.isNil_of_rel (h : Option.Rel Json.Rearranged value value') :
    Standard.isNil value' = Standard.isNil value := by
  cases h with
  | none => rfl
  | some hvalue => cases hvalue <;> rfl

theorem Standard.leaves_of_rel (divisor remainder : Binary64)
    (h : Option.Rel Json.Rearranged value value') :
    Standard.leaves divisor remainder value' = Standard.leaves divisor remainder value := by
  cases h with
  | none => rfl
  | some hvalue => simp only [Standard.leaves, hvalue.binary64?_eq]

theorem Pattern.occursIn_of_rel (pattern : Pattern) (h : Option.Rel Json.Rearranged value value') :
    pattern.occursIn value' = pattern.occursIn value := by
  cases h with
  | none => rfl
  | some hvalue => cases hvalue <;> rfl

end

/-! ## Words -/

namespace FieldWord

section

variable {operand other : Term}

/-! ### Faults -/

theorem divisorPair?_eq (h : operand.Rearranged other) :
    Standard.divisorPair? other = Standard.divisorPair? operand := by
  cases h with
  | scalar | regex | map => rfl
  | list pairs before after terms =>
      subst before after
      match pairs, terms with
      | [first, second], terms =>
          have hfirst := (terms first (by simp)).binary64?_eq
          have hsecond := (terms second (by simp)).binary64?_eq
          simp only [List.map_cons, List.map_nil, Standard.divisorPair?, hfirst, hsecond]
      | [], _ | [_], _ | _ :: _ :: _ :: _, _ => rfl

theorem takes_eq (word : FieldWord) (h : operand.Rearranged other) :
    word.takes other = word.takes operand := by
  have hbool := h.bool?_eq
  have hstring := h.string?_eq
  cases word with
  | differs => rfl
  | present | nil | changed => rw [takes, takes, hbool]
  | anyOf | leftFrom | changedTo => cases h <;> rfl
  | like => rw [takes, takes, hstring]
  | regex => 
      cases h with
      | regex => rfl
      | scalar | list | map => exact congrArg Option.isSome hstring
  | greater | notLess | less | notGreater => cases h <;> rfl
  | modulo => rw [takes, takes, ← isSome_divisorPair?, divisorPair?_eq h, isSome_divisorPair?]

theorem partFault?_eq (word : FieldWord) (h : operand.Rearranged other) :
    word.partFault? other = word.partFault? operand := by
  have htakes := takes_eq word h
  cases h with
  | scalar values =>
      cases values with
      | plain => rfl
      | array | object => simp [partFault?, htakes]
  | regex => rfl
  | list | map => simp [partFault?, htakes]

theorem fault?_eq (word : FieldWord) (h : operand.Rearranged other) :
    word.fault? other = word.fault? operand := by
  unfold fault?
  split
  · have hfaults := congrArg (List.findSome? id)
      (h.map_elements fun _ _ hitem => partFault?_eq word hitem)
    simpa only [List.findSome?_map, Function.comp_def, id] using hfaults
  · exact partFault?_eq word h

end

/-! ### Meanings -/

section

variable {operand other : Term} {field changedField : FieldHistory}

theorem equals_eq {value value' : Option Json} (hvalue : Option.Rel Json.Rearranged value value')
    (h : operand.Rearranged other) : equals value' other = equals value operand :=
  Json.sameField_of_rel hvalue (.some h.toJson)

theorem contains_eq {value value' : Option Json}
    (hvalue : Option.Rel Json.Rearranged value value') (h : operand.Rearranged other) :
    contains value' other = contains value operand := by
  cases hvalue with
  | none => rfl
  | @some own _ hvalue =>
      cases hvalue with
      | array | object => rfl
      | plain =>
          cases own with
          | string text =>
              cases h with
              | regex | list | map => rfl
              | scalar values => cases values <;> rfl
          | null | bool | number | array | object => rfl

theorem stands_eq (orders : List Ordering) {value value' : Option Json}
    (hvalue : Option.Rel Json.Rearranged value value') (h : operand.Rearranged other) :
    stands orders value' other = stands orders value operand := by
  cases hvalue with
  | none => rfl
  | some hvalue =>
      cases h with
      | regex | list | map => rfl
      | scalar values => simp only [stands, hvalue.compare?_eq values]

theorem holds_modulo_eq (operand : Term) (field : FieldHistory) :
    modulo.holds operand field =
      (Standard.divisorPair? operand).any fun pair =>
        Standard.leaves pair.1 pair.2 field.now := by
  cases hpair : Standard.divisorPair? operand with
  | some pair =>
      obtain ⟨divisor, remainder, rfl, rfl⟩ := eq_list_of_divisorPair? hpair
      exact (leaves_eq divisor remainder field).symm
  | none =>
      unfold holds
      dsimp only
      split
      · cases hpair
      · rfl

theorem left_eq (hfield : field.Rearranged changedField) (h : operand.Rearranged other) :
    left changedField other = left field operand := by
  obtain ⟨now, before⟩ := field
  obtain ⟨now', before'⟩ := changedField
  obtain ⟨hnow, hbefore⟩ := hfield
  cases hbefore with
  | none => rfl
  | some hbefore => simp only [left, equals_eq hbefore h, equals_eq hnow h]

theorem reached_eq (hfield : field.Rearranged changedField) (h : operand.Rearranged other) :
    reached changedField other = reached field operand := by
  obtain ⟨now, before⟩ := field
  obtain ⟨now', before'⟩ := changedField
  obtain ⟨hnow, hbefore⟩ := hfield
  cases hbefore with
  | none => simp only [reached, equals_eq hnow h]
  | some hbefore => simp only [reached, equals_eq hbefore h, equals_eq hnow h]

/-- A word says the same of rearranged operands and rearranged fields. -/
theorem holds_eq (word : FieldWord) (hfield : field.Rearranged changedField)
    (h : operand.Rearranged other) :
    word.holds other changedField = word.holds operand field := by
  have hnow := hfield.now
  have hbool := h.bool?_eq
  cases word with
  | differs =>
      cases h with
      | regex pattern => exact congrArg not (Pattern.occursIn_of_rel pattern hnow)
      | scalar values => exact congrArg not (equals_eq hnow (.scalar values))
      | list pairs before after terms =>
          exact congrArg not (equals_eq hnow (.list pairs before after terms))
      | map triples beside terms => exact congrArg not (equals_eq hnow (.map triples beside terms))
  | present => simp only [holds, hbool, Json.isSome_of_rel hnow]
  | nil =>
      have hnil := Standard.isNil_of_rel hnow
      simp only [holds, hbool]
      exact congrArg (fun flag => operand.bool? == some flag) hnil
  | anyOf => exact h.any_elements fun _ _ hitem => equals_eq hnow hitem
  | like => exact h.all_elements fun _ _ hitem => contains_eq hnow hitem
  | regex =>
      cases h with
      | regex pattern => exact Pattern.occursIn_of_rel pattern hnow
      | list | map => rfl
      | @scalar own _ values =>
          cases values with
          | array | object => rfl
          | plain =>
              cases own with
              | string literal =>
                  simp only [holds]
                  cases Pattern.ofLiteral literal with
                  | error => rfl
                  | ok pattern => exact Pattern.occursIn_of_rel pattern hnow
              | null | bool | number | array | object => rfl
  | greater | notLess | less | notGreater => exact stands_eq _ hnow h
  | modulo =>
      simp only [holds_modulo_eq, divisorPair?_eq h, Standard.leaves_of_rel _ _ hnow]
  | changed =>
      obtain ⟨now, before⟩ := field
      obtain ⟨now', before'⟩ := changedField
      obtain ⟨_, hbefore⟩ := hfield
      cases hbefore with
      | none => simp only [holds, hbool]
      | some hbefore => simp only [holds, hbool, Json.sameField_of_rel hnow hbefore]
  | leftFrom => exact h.any_elements fun _ _ hitem => left_eq hfield hitem
  | changedTo => exact h.any_elements fun _ _ hitem => reached_eq hfield hitem

end

end FieldWord

end DocQuery
