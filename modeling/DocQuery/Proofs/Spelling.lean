import DocQuery.Proofs.Grammar.Subquery

/-!
# Terms as JSON spells them

The JSON value of a term has a text for each pattern and each key once.  A term whose maps
have distinct keys is read back from its value with nothing changed but the patterns,
which are then the texts that spell them.
-/

namespace DocQuery

namespace Json

/-- Whether a value is neither an array nor an object. -/
def isPlain : Json → Bool
  | null | bool _ | number _ | string _ => true
  | array _ | object _ => false

end Json

namespace Term

/-! ## Spelling -/

mutual

/-- A term with the texts of its patterns in their places. -/
def spellOut : Term → Term
  | scalar value => scalar value
  | regex pattern => scalar (.string pattern.text)
  | map fields => map (spellFields fields)
  | list items => list (spellItems items)

def spellItems : List Term → List Term
  | [] => []
  | item :: rest => spellOut item :: spellItems rest

def spellFields : List (String × Term) → List (String × Term)
  | [] => []
  | (key, term) :: rest => (key, spellOut term) :: spellFields rest

end

theorem spellItems_eq_map (items : List Term) : spellItems items = items.map spellOut := by
  induction items with
  | nil =>
      rw [spellItems, List.map_nil]
  | cons item rest ih =>
      rw [spellItems, List.map_cons, ih]

theorem spellFields_eq_map (fields : List (String × Term)) :
    spellFields fields = fields.map fun field => (field.1, field.2.spellOut) := by
  induction fields with
  | nil =>
      rw [spellFields, List.map_nil]
  | cons field rest ih =>
      rw [spellFields, List.map_cons, ih]

theorem itemsToJson_eq_map (items : List Term) : itemsToJson items = items.map toJson := by
  induction items with
  | nil =>
      rw [itemsToJson, List.map_nil]
  | cons item rest ih =>
      rw [itemsToJson, List.map_cons, ih]

theorem fieldsToJson_eq_map (fields : List (String × Term)) :
    fieldsToJson fields = fields.map fun field => (field.1, field.2.toJson) := by
  induction fields with
  | nil =>
      rw [fieldsToJson, List.map_nil]
  | cons field rest ih =>
      rw [fieldsToJson, List.map_cons, ih]

theorem spellOut_ne_regex (term : Term) (pattern : Pattern) : term.spellOut ≠ .regex pattern := by
  cases term <;> simp [spellOut]

theorem elements_spellOut (term : Term) :
    term.spellOut.elements = term.elements.map spellOut := by
  cases term with
  | list items => simp only [spellOut, elements, spellItems_eq_map]
  | scalar | regex | map => simp [spellOut, elements]

mutual

/-- A term spelled out is written as the term itself is. -/
theorem toJson_spellOut : ∀ term : Term, term.spellOut.toJson = term.toJson
  | .scalar _ => by rw [spellOut]
  | .regex _ => by rw [spellOut, toJson, toJson]
  | .map fields => by simp only [spellOut, toJson, fieldsToJson_spellFields fields]
  | .list items => by simp only [spellOut, toJson, itemsToJson_spellItems items]

theorem itemsToJson_spellItems :
    ∀ items : List Term, itemsToJson (spellItems items) = itemsToJson items
  | [] => by rw [spellItems]
  | item :: rest => by
      rw [spellItems, itemsToJson, itemsToJson, toJson_spellOut item, itemsToJson_spellItems rest]

theorem fieldsToJson_spellFields :
    ∀ fields : List (String × Term), fieldsToJson (spellFields fields) = fieldsToJson fields
  | [] => by rw [spellFields]
  | (_, term) :: rest => by
      rw [spellFields, fieldsToJson, fieldsToJson, toJson_spellOut term,
        fieldsToJson_spellFields rest]

end

/-! ## Reading back -/

/-- A term that a JSON value can hold as it is, but for its patterns: scalars are plain, and
no map has a key twice. -/
inductive Proper : Term → Prop
  | scalar {value : Json} (plain : value.isPlain = true) : Proper (.scalar value)
  | regex (pattern : Pattern) : Proper (.regex pattern)
  | map {fields : List (String × Term)} (distinct : Entries.Distinct fields)
      (terms : ∀ field ∈ fields, Proper field.2) : Proper (.map fields)
  | list {items : List Term} (terms : ∀ item ∈ items, Proper item) : Proper (.list items)

@[simp] theorem proper_scalar_iff {value : Json} :
    (Term.scalar value).Proper ↔ value.isPlain = true :=
  ⟨fun | .scalar plain => plain, .scalar⟩

@[simp] theorem proper_regex (pattern : Pattern) : (Term.regex pattern).Proper :=
  .regex pattern

@[simp] theorem proper_map_iff {fields : List (String × Term)} :
    (Term.map fields).Proper ↔ Entries.Distinct fields ∧ ∀ field ∈ fields, field.2.Proper :=
  ⟨fun | .map distinct terms => ⟨distinct, terms⟩, fun ⟨distinct, terms⟩ => .map distinct terms⟩

@[simp] theorem proper_list_iff {items : List Term} :
    (Term.list items).Proper ↔ ∀ item ∈ items, item.Proper :=
  ⟨fun | .list terms => terms, .list⟩

theorem ofItems_itemsToJson {items : List Term}
    (h : ∀ item ∈ items, ofJson item.toJson = item.spellOut) :
    ofItems (itemsToJson items) = spellItems items := by
  induction items with
  | nil =>
      rw [itemsToJson, ofItems, spellItems]
  | cons item rest ih =>
      rw [itemsToJson, ofItems, spellItems, h item List.mem_cons_self,
        ih fun other hmem => h other (List.mem_cons_of_mem _ hmem)]

theorem ofMembers_fieldsToJson {fields : List (String × Term)}
    (h : ∀ field ∈ fields, ofJson field.2.toJson = field.2.spellOut) :
    ofMembers (fieldsToJson fields) = spellFields fields := by
  induction fields with
  | nil =>
      rw [fieldsToJson, ofMembers, spellFields]
  | cons field rest ih =>
      rw [fieldsToJson, ofMembers, spellFields, h field List.mem_cons_self,
        ih fun other hmem => h other (List.mem_cons_of_mem _ hmem)]

theorem keys_fieldsToJson (fields : List (String × Term)) :
    Entries.keys (fieldsToJson fields) = Entries.keys fields := by
  induction fields with
  | nil =>
      rw [fieldsToJson]
      rfl
  | cons field rest ih =>
      rw [fieldsToJson, Entries.keys, List.map_cons, ← Entries.keys, ih]
      rfl

/-- A proper term is read back from its JSON value spelled out. -/
theorem ofJson_toJson {term : Term} (proper : term.Proper) :
    ofJson term.toJson = term.spellOut := by
  induction proper with
  | @scalar value plain =>
      rw [toJson, spellOut]
      cases value with
      | null | bool | number | string => rw [ofJson]
      | array | object => cases plain
  | regex pattern =>
      rw [toJson, ofJson, spellOut]
  | @map fields distinct _ ih =>
      have hkeys : Entries.Distinct (fieldsToJson fields) := by
        rw [Entries.Distinct, keys_fieldsToJson]
        exact distinct
      rw [toJson, Entries.ofPairs_of_distinct hkeys, ofJson, ofMembers_fieldsToJson ih, spellOut]
  | list _ ih =>
      rw [toJson, ofJson, ofItems_itemsToJson ih, spellOut]

end Term

end DocQuery
