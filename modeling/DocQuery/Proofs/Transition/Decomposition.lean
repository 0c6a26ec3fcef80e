import DocQuery.Proofs.Grammar.Fitting
import DocQuery.Proofs.SingleField
import DocQuery.Proofs.Spelling
import DocQuery.Proofs.ValueEquality.Integers

/-!
# Transitions in parts

A field leaves one of some values exactly if, with the two versions of the document exchanged,
it reaches one of them.  Without fractions it reaches one of them exactly if it has one of them
and has changed: the values are asked one by one, but a value that the field had before and has
now would be no change.
-/

namespace DocQuery

/-! ## Fields -/

namespace Json

/-- Of three integral fields, when the outer two are equal, the middle one equals either or
none. -/
theorem sameField_eq_of_sameField {a b c : Option Json}
    (ha : ∀ value, a = some value → value.Integral)
    (hb : ∀ value, b = some value → value.Integral)
    (hc : ∀ value, c = some value → value.Integral) (h : sameField a c = true) :
    sameField b c = sameField a b := by
  cases a with
  | none =>
      cases c with
      | none => cases b <;> rfl
      | some z => cases h
  | some x =>
      cases c with
      | none => cases h
      | some z =>
          cases b with
          | none => rfl
          | some y =>
              have hx := ha x rfl
              have hy := hb y rfl
              have hz := hc z rfl
              rw [sameField, sameField, Bool.eq_iff_iff]
              constructor
              · intro hyz
                exact hz.sameValue_trans hx.proper h (hy.sameValue_symm hz hyz)
              · intro hxy
                exact hx.sameValue_trans hy.proper (hx.sameValue_symm hy hxy) h

theorem sameField_comm {a b : Option Json} (ha : ∀ value, a = some value → value.Integral)
    (hb : ∀ value, b = some value → value.Integral) : sameField b a = sameField a b := by
  refine sameField_eq_of_sameField ha hb ha ?_
  cases a with
  | none => rfl
  | some value => exact sameBy_refl Number.sameValue_refl (ha value rfl).proper

end Json

theorem Term.integral_elements {operand : Term} (h : operand.toJson.Integral) :
    ∀ part ∈ operand.elements, part.toJson.Integral := by
  intro part hpart
  cases operand with
  | list items =>
      rw [toJson, itemsToJson_eq_map] at h
      cases h with
      | array integral => exact integral _ (List.mem_map_of_mem hpart)
  | scalar | regex | map =>
      cases List.mem_singleton.mp hpart
      exact h

structure FieldHistory.Integral (field : FieldHistory) : Prop where
  now : ∀ value, field.now = some value → value.Integral
  before : ∀ before, field.before = some before →
    ∀ value, before = some value → value.Integral

theorem FieldHistory.Integral.swap {now before : Option Json}
    (h : FieldHistory.Integral ⟨now, some before⟩) :
    FieldHistory.Integral ⟨before, some now⟩ where
  now := h.before before rfl
  before _ hother := Option.some.inj hother ▸ h.now

theorem Revision.integral_field {current : Json} {previous : Option Json}
    (hcurrent : current.Integral)
    (hprevious : ∀ document, previous = some document → document.Integral) (key : String) :
    (Revision.field { current, previous } key).Integral where
  now _ hvalue := hcurrent.field? hvalue
  before before hbefore value hvalue := by
    obtain ⟨document, hdocument, rfl⟩ := Option.map_eq_some_iff.mp hbefore
    exact (hprevious document hdocument).field? hvalue

namespace FieldWord

/-- A field leaves one of the values that it reaches with the versions exchanged. -/
theorem holds_leftFrom_swap (now before : Option Json) (operand : Term) :
    leftFrom.holds operand ⟨now, some before⟩ = changedTo.holds operand ⟨before, some now⟩ :=
  rfl

theorem holds_changed (field : FieldHistory) :
    changed.holds (.scalar (.bool true)) field =
      match field.before with
      | none => true
      | some before => !Json.sameField field.now before := by
  cases hbefore : field.before <;> simp [holds, hbefore, Term.bool?, Term.scalar?, Json.bool?]

/-- A field reaches a value exactly if it has the value and has changed. -/
theorem reached_eq_equals_and_changed {field : FieldHistory} (hfield : field.Integral)
    {operand : Term} (hoperand : operand.toJson.Integral) :
    reached field operand =
      (equals field.now operand && changed.holds (.scalar (.bool true)) field) := by
  have hvalue (value : Json) (h : some operand.toJson = some value) : value.Integral := by
    cases h
    exact hoperand
  rw [holds_changed]
  cases hequals : equals field.now operand with
  | false => simp [reached, hequals]
  | true =>
      cases hbefore : field.before with
      | none => simp [reached, hequals, hbefore]
      | some before =>
          have hsame : equals before operand = Json.sameField field.now before :=
            Json.sameField_eq_of_sameField hfield.now (hfield.before before hbefore) hvalue
              hequals
          simp [reached, hequals, hbefore, hsame]

theorem holds_changed_swap {now before : Option Json}
    (hfield : FieldHistory.Integral ⟨now, some before⟩) :
    changed.holds (.scalar (.bool true)) ⟨before, some now⟩ =
      changed.holds (.scalar (.bool true)) ⟨now, some before⟩ := by
  rw [holds_changed, holds_changed]
  exact congrArg (!·) (Json.sameField_comm hfield.now (hfield.before before rfl))

/-- The word for reaching one of some values says what the words for having one of them and
for having changed say together. -/
theorem holds_changedTo {field : FieldHistory} (hfield : field.Integral) {operand : Term}
    (hoperand : operand.toJson.Integral) :
    changedTo.holds operand field =
      (anyOf.holds operand field && changed.holds (.scalar (.bool true)) field) := by
  show operand.elements.any (reached field) = (operand.elements.any (equals field.now) && _)
  rw [List.and_any_distrib_right, Bool.eq_iff_iff, List.any_eq_true, List.any_eq_true]
  refine exists_congr fun part => and_congr_right fun hpart => ?_
  rw [reached_eq_equals_and_changed hfield (Term.integral_elements hoperand part hpart)]

/-- The word for leaving one of some values says that the field had one of them and has
changed. -/
theorem holds_leftFrom {now before : Option Json}
    (hfield : FieldHistory.Integral ⟨now, some before⟩) {operand : Term}
    (hoperand : operand.toJson.Integral) :
    leftFrom.holds operand ⟨now, some before⟩ =
      (anyOf.holds operand ⟨before, some now⟩ &&
        changed.holds (.scalar (.bool true)) ⟨now, some before⟩) :=
  calc
    leftFrom.holds operand ⟨now, some before⟩
      = changedTo.holds operand ⟨before, some now⟩ := holds_leftFrom_swap now before operand
    _ = (anyOf.holds operand ⟨before, some now⟩ &&
          changed.holds (.scalar (.bool true)) ⟨before, some now⟩) :=
        holds_changedTo hfield.swap hoperand
    _ = _ := by rw [holds_changed_swap hfield]

end FieldWord

/-! ## Queries -/

def operatorQuery (key operator : String) (operand : Term) : Query where
  fields := [(key, .map [(operator, operand)])]

/-- Leaving a value is reaching it with the versions exchanged, and without a previous version
nothing is left.  Among integral values a field reaches one of some values if it has one of
them and has changed, and leaves one of them if it had one of them and has changed. -/
theorem transitions_reverse_and_decompose (config : Config) {key : String}
    (plain : isOperatorKey key = false) {operand : Term}
    (values : ∀ pattern, Term.regex pattern ∉ operand.elements) :
    ∃ leaves reaches isOne changes : Predicate,
      (({ config } : Compiler).compile (operatorQuery key "$from" operand)).result =
        .ok leaves ∧
      (({ config } : Compiler).compile (operatorQuery key "$to" operand)).result =
        .ok reaches ∧
      (({ config } : Compiler).compile (operatorQuery key "$any" operand)).result =
        .ok isOne ∧
      (({ config } : Compiler).compile
          (operatorQuery key "$changed" (.scalar (.bool true)))).result = .ok changes ∧
      (∀ document previous,
        leaves.passes { current := document, previous := some previous } =
          reaches.passes { current := previous, previous := some document }) ∧
      (∀ document, leaves.passes { current := document, previous := none } = false) ∧
      (operand.toJson.Integral → ∀ document : Json, document.Integral →
        reaches.passes { current := document, previous := none } =
            (isOne.matchesDocument document &&
              changes.passes { current := document, previous := none }) ∧
          ∀ previous : Json, previous.Integral →
            let revision : Revision := { current := document, previous := some previous }
            reaches.passes revision =
                (isOne.matchesDocument document && changes.passes revision) ∧
              leaves.passes revision =
                (isOne.matchesDocument previous && changes.passes revision)) := by
  have sound (word : FieldWord) (hword : word ∈ [.anyOf, .leftFrom, .changedTo]) :
      word.fault? operand = none :=
    FieldWord.fault?_of_fits (.values hword values)
  refine ⟨_, _, _, _,
    Compiler.result_compile_word config plain .leftFrom (sound _ (by decide)),
    Compiler.result_compile_word config plain .changedTo (sound _ (by decide)),
    Compiler.result_compile_word config plain .anyOf (sound _ (by decide)),
    Compiler.result_compile_word config plain .changed rfl,
    fun document previous => FieldWord.holds_leftFrom_swap (document.field? key)
      (previous.field? key) operand, ?_, ?_⟩
  · intro document
    exact List.any_eq_false.mpr fun part _ => Bool.false_ne_true
  · intro hoperand document hdocument
    have hfirst : (Revision.field { current := document, previous := none } key).Integral := by
      refine Revision.integral_field hdocument (fun _ hnone => ?_) key
      cases hnone
    refine ⟨FieldWord.holds_changedTo hfirst hoperand, fun previous hprevious => ?_⟩
    have hfield := Revision.integral_field hdocument
      (fun _ h => Option.some.inj h ▸ hprevious) key
    exact ⟨FieldWord.holds_changedTo hfield hoperand, FieldWord.holds_leftFrom hfield hoperand⟩

def counts (n : Number) : Term :=
  .map [("counts", .list [.scalar (.number n)])]

def countsOrNull (n : Number) : Term :=
  .list [counts n, .scalar .null]

/-- A document with such a number in a field, and one in its previous version. -/
def countsRevision (now before : Number) : Revision where
  current := .object [("a", (counts now).toJson)]
  previous := some (.object [("a", (counts before).toJson)])

theorem integral_counts {n : Number} (h : n.isInteger = true) : (counts n).toJson.Integral :=
  .object (Entries.distinct_ofPairs _)
    (List.forall_mem_singleton.mpr (.array (List.forall_mem_singleton.mpr (.number h))))

theorem transitions_reverse_and_decompose_counts :
    isOperatorKey "a" = false ∧
      (∀ pattern, Term.regex pattern ∉ (countsOrNull Json.halfway).elements) ∧
      (countsOrNull Json.halfway).toJson.Integral ∧
      (∀ n : Number, n.isInteger = true →
        (Json.object [("a", (counts n).toJson)]).Integral) ∧
      ∃ leaves reaches : Predicate,
        (({} : Compiler).compile
            (operatorQuery "a" "$from" (countsOrNull Json.halfway))).result = .ok leaves ∧
        (({} : Compiler).compile
            (operatorQuery "a" "$to" (countsOrNull Json.halfway))).result = .ok reaches ∧
        reaches.passes (countsRevision Json.halfway Json.evenInteger) = true ∧
        leaves.passes (countsRevision Json.evenInteger Json.halfway) = true ∧
        leaves.passes { current := .null, previous := none } = false := by
  have hpatterns : ∀ pattern, Term.regex pattern ∉ (countsOrNull Json.halfway).elements := by
    intro pattern hmem
    simp [countsOrNull, counts, Term.elements] at hmem
  have hoperand : (countsOrNull Json.halfway).toJson.Integral :=
    .array (List.forall_mem_cons.mpr
      ⟨integral_counts rfl, List.forall_mem_singleton.mpr .null⟩)
  have hdocument (n : Number) (h : n.isInteger = true) :
      (Json.object [("a", (counts n).toJson)]).Integral :=
    .object (by simp [Entries.Distinct, Entries.keys])
      (List.forall_mem_singleton.mpr (integral_counts h))
  have hplain : isOperatorKey "a" = false := rfl
  obtain ⟨leaves, reaches, isOne, changes, hleaves, hreaches, hone, hchanges, hreverse, hnone,
    hparts⟩ := transitions_reverse_and_decompose {} hplain hpatterns
  obtain ⟨hreached, -⟩ :=
    (hparts hoperand _ (hdocument Json.halfway rfl)).2 _ (hdocument Json.evenInteger rfl)
  obtain rfl := Except.ok.inj (hone.symm.trans
    (Compiler.result_compile_word {} rfl .anyOf rfl))
  obtain rfl := Except.ok.inj (hchanges.symm.trans
    (Compiler.result_compile_word {} rfl .changed rfl))
  have hpasses : reaches.passes (countsRevision Json.halfway Json.evenInteger) = true :=
    hreached.trans (by decide +kernel)
  exact ⟨hplain, hpatterns, hoperand, hdocument, leaves, reaches, hleaves, hreaches, hpasses,
    (hreverse _ _).trans hpasses, hnone _⟩

end DocQuery
