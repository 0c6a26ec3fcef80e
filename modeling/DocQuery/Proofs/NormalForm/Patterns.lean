import DocQuery.Proofs.Storage
import Mathlib.Data.List.Forall2

/-!
# Patterns in normal forms

A normal form visits the fields of a query and, under keys with the mark of operators, those
of the maps among the items of the operand, at any depth.  It gives each pattern that it
meets as a term the form of an operator and leaves all else, so that a query is its own
normal form exactly when no visited field holds a pattern.
-/

namespace DocQuery

namespace Query

/-! ## Visited fields -/

def fieldVisited (key : String) (term : Term) (inner : List (String × Term)) :
    List (String × Term) :=
  (key, term) :: if isOperatorKey key then inner else []

/-- The fields that a normal form visits. -/
def visited : List (String × Term) → List (String × Term) :=
  gather fieldVisited []

def itemVisited : Term → List (String × Term) :=
  gatherItem fieldVisited []

theorem visited_cons (key : String) (term : Term) (rest : List (String × Term)) :
    visited ((key, term) :: rest) =
      fieldVisited key term (term.elements.flatMap itemVisited) ++ visited rest :=
  gather_cons _ _ key term rest

/-- Whether no visited field holds a pattern. -/
def IsNormal (fields : List (String × Term)) : Prop :=
  ∀ field ∈ visited fields, ∀ pattern, field.2 ≠ .regex pattern

theorem isNormal_nil : IsNormal [] :=
  nofun

theorem isNormal_items_iff {items : List Term} :
    (∀ field ∈ items.flatMap itemVisited, ∀ pattern, field.2 ≠ .regex pattern) ↔
      ∀ fields, Term.map fields ∈ items → IsNormal fields := by
  simp only [List.mem_flatMap]
  constructor
  · intro h fields hfields field hmem
    exact h field ⟨.map fields, hfields, hmem⟩
  · rintro h field ⟨item, hitem, hmem⟩
    cases item with
    | map fields => exact h fields hitem field hmem
    | scalar | regex | list => cases hmem

theorem isNormal_cons_iff {key : String} {term : Term} {rest : List (String × Term)} :
    IsNormal ((key, term) :: rest) ↔
      (∀ pattern, term ≠ .regex pattern) ∧
        (isOperatorKey key = true → ∀ fields, Term.map fields ∈ term.elements → IsNormal fields) ∧
        IsNormal rest := by
  rw [IsNormal, visited_cons, List.forall_mem_append, fieldVisited, List.forall_mem_cons, and_assoc,
    ← isNormal_items_iff]
  cases isOperatorKey key <;> simp [IsNormal]

/-! ## What is normal -/

/-- A normal form holds no pattern where another one would visit it. -/
theorem isNormal_normalizeFields (fields : List (String × Term)) :
    IsNormal (normalizeFields fields) := by
  induction fields using fields_induction with
  | nil =>
      rw [normalizeFields]
      exact isNormal_nil
  | cons key term rest hsub ih =>
      rw [normalizeFields, isNormal_cons_iff]
      refine ⟨normalizeTerm_ne_regex key term, fun hkey fields hfields => ?_, ih⟩
      by_cases hterm : ∀ pattern, term ≠ .regex pattern
      · rw [elements_normalizeTerm hkey hterm] at hfields
        obtain ⟨item, hitem, heq⟩ := List.mem_map.mp hfields
        cases item with
        | map inner =>
            cases heq
            exact hsub inner hitem
        | scalar | regex | list => cases heq
      · -- The map in the place of a pattern is visited itself, and holds a string.
        obtain ⟨pattern, rfl⟩ := Classical.not_forall_not.mp hterm
        rw [normalizeTerm] at hfields
        cases List.mem_singleton.mp hfields
        refine isNormal_cons_iff.mpr ⟨fun pattern h => ?_, fun _ fields h => ?_, isNormal_nil⟩
        · cases h
        · cases List.mem_singleton.mp h

theorem normalizeTerm_of_isNormal {key : String} {term : Term}
    (hterm : ∀ pattern, term ≠ .regex pattern)
    (hoperand : isOperatorKey key = true →
      ∀ fields, Term.map fields ∈ term.elements → normalizeFields fields = fields) :
    normalizeTerm key term = term := by
  cases hkey : isOperatorKey key with
  | false =>
      exact normalizeTerm_of_plain hkey hterm
  | true =>
      have hmap := hoperand hkey
      cases term with
      | scalar value =>
          rw [normalizeTerm]
      | regex pattern =>
          exact absurd rfl (hterm pattern)
      | map fields =>
          rw [normalizeTerm, if_pos hkey, hmap fields (List.mem_singleton_self _)]
      | list items =>
          have hitems : ∀ item ∈ items, normalizeItem item = item := by
            intro item hitem
            cases item with
            | map fields => rw [normalizeItem, hmap fields hitem]
            | scalar | regex | list => rfl
          rw [normalizeTerm, if_pos hkey, normalizeItems_eq_map, List.map_congr_left hitems,
            List.map_id']

theorem normalizeFields_of_isNormal {fields : List (String × Term)} (normal : IsNormal fields) :
    normalizeFields fields = fields := by
  induction fields using fields_induction with
  | nil =>
      rw [normalizeFields]
  | cons key term rest hsub ih =>
      obtain ⟨hterm, hoperand, hrest⟩ := isNormal_cons_iff.mp normal
      rw [normalizeFields, ih hrest, normalizeTerm_of_isNormal hterm fun hkey fields hfields =>
        hsub fields hfields (hoperand hkey fields hfields)]

theorem normalizeFields_eq_self_iff {fields : List (String × Term)} :
    normalizeFields fields = fields ↔ IsNormal fields :=
  ⟨fun h => h ▸ isNormal_normalizeFields fields, normalizeFields_of_isNormal⟩

theorem normalize_normalize (query : Query) : query.normalize.normalize = query.normalize :=
  congrArg Query.mk (normalizeFields_of_isNormal (isNormal_normalizeFields query.fields))

/-! ## What is rewritten -/

/-- Whether two items of an operand are the same, or maps whose fields are related. -/
inductive ItemAlong (along : String × Term → String × Term → Prop) : Term → Term → Prop
  | query {fields others : List (String × Term)} (each : List.Forall₂ along fields others) :
      ItemAlong along (.map fields) (.map others)
  | other {item : Term} (value : ∀ fields, item ≠ .map fields) : ItemAlong along item item

/-- Whether a field was rewritten as normal forms do.  A pattern becomes the operand of the
pattern operator.  Under a key with the mark of operators the same is done to each field of
a map that is the term or an item of it. -/
inductive Rewritten : String × Term → String × Term → Prop
  | pattern (key : String) (pattern : Pattern) :
      Rewritten (key, .regex pattern)
        (key, .map [(patternOperator, .scalar (.string pattern.text))])
  | plain {key : String} {term : Term} (mark : isOperatorKey key = false)
      (value : ∀ pattern, term ≠ .regex pattern) : Rewritten (key, term) (key, term)
  | scalar (key : String) (value : Json) : Rewritten (key, .scalar value) (key, .scalar value)
  | query {key : String} {fields others : List (String × Term)} (mark : isOperatorKey key = true)
      (each : List.Forall₂ Rewritten fields others) :
      Rewritten (key, .map fields) (key, .map others)
  | items {key : String} {items others : List Term} (mark : isOperatorKey key = true)
      (each : List.Forall₂ (ItemAlong Rewritten) items others) :
      Rewritten (key, .list items) (key, .list others)

theorem rewritten_normalizeTerm {key : String} {term : Term}
    (hoperand : ∀ fields, Term.map fields ∈ term.elements →
      List.Forall₂ Rewritten fields (normalizeFields fields)) :
    Rewritten (key, term) (key, normalizeTerm key term) := by
  by_cases hterm : ∀ pattern, term ≠ .regex pattern
  · cases hkey : isOperatorKey key with
    | false =>
        rw [normalizeTerm_of_plain hkey hterm]
        exact .plain hkey hterm
    | true =>
        cases term with
        | scalar value =>
            rw [normalizeTerm]
            exact .scalar key value
        | regex pattern =>
            exact absurd rfl (hterm pattern)
        | map fields =>
            rw [normalizeTerm, if_pos hkey]
            exact .query hkey (hoperand fields (List.mem_singleton_self _))
        | list items =>
            rw [normalizeTerm, if_pos hkey, normalizeItems_eq_map]
            refine .items hkey (List.forall₂_map_right_iff.mpr (List.forall₂_same.mpr ?_))
            intro item hitem
            cases item with
            | map fields => exact .query (hoperand fields hitem)
            | scalar | regex | list => exact .other fun fields h => by cases h
  · obtain ⟨pattern, rfl⟩ := Classical.not_forall_not.mp hterm
    rw [normalizeTerm]
    exact .pattern key pattern

theorem rewritten_normalizeFields (fields : List (String × Term)) :
    List.Forall₂ Rewritten fields (normalizeFields fields) := by
  induction fields using fields_induction with
  | nil =>
      rw [normalizeFields]
      exact .nil
  | cons key term rest hsub ih =>
      rw [normalizeFields]
      exact .cons (rewritten_normalizeTerm hsub) ih

theorem ItemAlong.eq_normalizeItem {item other : Term} (along : ItemAlong Rewritten item other)
    (hsub : ∀ fields, item = .map fields → ∀ others, List.Forall₂ Rewritten fields others →
      others = normalizeFields fields) : other = normalizeItem item := by
  cases along with
  | @query fields others each =>
      rw [hsub fields rfl others each, normalizeItem]
  | other value =>
      cases item with
      | map fields => exact absurd rfl (value fields)
      | scalar | regex | list => rfl

theorem eq_map_normalizeItem {items others : List Term}
    (each : List.Forall₂ (ItemAlong Rewritten) items others)
    (hsub : ∀ fields, Term.map fields ∈ items → ∀ others, List.Forall₂ Rewritten fields others →
      others = normalizeFields fields) : others = items.map normalizeItem := by
  induction each with
  | nil =>
      rfl
  | cons along _ ih =>
      have hrest := ih fun fields hfields => hsub fields (List.mem_cons_of_mem _ hfields)
      rw [List.map_cons, hrest, along.eq_normalizeItem]
      rintro fields rfl
      exact hsub fields List.mem_cons_self

theorem Rewritten.eq_normalizeTerm {key : String} {term : Term} {other : String × Term}
    (h : Rewritten (key, term) other)
    (hsub : ∀ fields, Term.map fields ∈ term.elements → ∀ others,
      List.Forall₂ Rewritten fields others → others = normalizeFields fields) :
    other = (key, normalizeTerm key term) := by
  cases h with
  | pattern _ pattern =>
      rw [normalizeTerm]
  | plain mark value =>
      rw [normalizeTerm_of_plain mark value]
  | scalar _ value =>
      rw [normalizeTerm]
  | @query _ fields others mark each =>
      rw [normalizeTerm, if_pos mark, hsub fields (List.mem_singleton_self _) others each]
  | @items _ items others mark each =>
      rw [normalizeTerm, if_pos mark, normalizeItems_eq_map, eq_map_normalizeItem each hsub]

/-- Fields are rewritten in one way only. -/
theorem rewritten_iff {fields others : List (String × Term)} :
    List.Forall₂ Rewritten fields others ↔ others = normalizeFields fields := by
  refine ⟨fun h => ?_, fun h => h ▸ rewritten_normalizeFields fields⟩
  induction fields using fields_induction generalizing others with
  | nil =>
      cases h
      rw [normalizeFields]
  | cons key term rest hsub ih =>
      cases h with
      | cons hfield hrest =>
          rw [normalizeFields, ih hrest, hfield.eq_normalizeTerm fun fields hfields others =>
            hsub fields hfields]

/-- A normal form is its own, with the keys of the query in their order.  It is the query with
its fields rewritten, and nothing else is; it holds no pattern where another one would look
for it, and a query without a pattern there is its own normal form. -/
theorem normalForm_rewrites_patterns (query : Query) :
    query.normalize.normalize = query.normalize ∧
      query.normalize.normalText = query.normalText ∧
      Entries.keys query.normalize.fields = Entries.keys query.fields ∧
      (∀ fields, List.Forall₂ Rewritten query.fields fields ↔ fields = query.normalize.fields) ∧
      IsNormal query.normalize.fields ∧
      (query.normalize = query ↔ IsNormal query.fields) := by
  refine ⟨normalize_normalize query, ?_, keys_normalizeFields query.fields,
    fun _ => rewritten_iff, isNormal_normalizeFields query.fields, ?_⟩
  · rw [normalText, normalText, normalize_normalize]
  · rw [← normalizeFields_eq_self_iff]
    exact ⟨congrArg fields, congrArg Query.mk⟩

end Query

end DocQuery
