import DocQuery.Proofs.Building
import DocQuery.Proofs.RoundTrip.Values

/-!
# Terms read back

A term is encoded twice: as a JSON value, in which each key of a map stands once, and as a
text, in which the fields of a map are written as they come, one after the other.  Reading
the text gives the value, because a reader collects repeated keys as the value does.
-/

namespace DocQuery

namespace Term

/-! ## Terms as they are written -/

theorem writtenItems_eq_map (items : List Term) : writtenItems items = items.map written := by
  induction items with
  | nil =>
      rw [writtenItems, List.map_nil]
  | cons item rest ih =>
      rw [writtenItems, List.map_cons, ih]

theorem writtenFields_eq_map (fields : List (String × Term)) :
    writtenFields fields = fields.map fun field => (field.1, field.2.written) := by
  induction fields with
  | nil =>
      rw [writtenFields, List.map_nil]
  | cons field rest ih =>
      rw [writtenFields, List.map_cons, ih]

/-- Whether no plain value in a term has a key twice.  The maps of the term may. -/
inductive ProperValues : Term → Prop
  | scalar {value : Json} (proper : value.Proper) : ProperValues (.scalar value)
  | regex (pattern : Pattern) : ProperValues (.regex pattern)
  | map {fields : List (String × Term)} (terms : ∀ field ∈ fields, ProperValues field.2) :
      ProperValues (.map fields)
  | list {items : List Term} (terms : ∀ item ∈ items, ProperValues item) :
      ProperValues (.list items)

@[simp] theorem properValues_scalar_iff {value : Json} :
    (Term.scalar value).ProperValues ↔ value.Proper :=
  ⟨fun | .scalar proper => proper, .scalar⟩

@[simp] theorem properValues_regex (pattern : Pattern) : (Term.regex pattern).ProperValues :=
  .regex pattern

@[simp] theorem properValues_map_iff {fields : List (String × Term)} :
    (Term.map fields).ProperValues ↔ ∀ field ∈ fields, field.2.ProperValues :=
  ⟨fun | .map terms => terms, .map⟩

@[simp] theorem properValues_list_iff {items : List Term} :
    (Term.list items).ProperValues ↔ ∀ item ∈ items, item.ProperValues :=
  ⟨fun | .list terms => terms, .list⟩

/-- What is written of a term becomes its JSON value once repeated keys are collected. -/
theorem collapsed_written {term : Term} (proper : term.ProperValues) :
    term.written.collapsed = term.toJson := by
  induction proper with
  | scalar proper =>
      rw [written, toJson, proper.collapsed_eq]
  | regex pattern =>
      rw [written, toJson]
      rfl
  | @map fields _ ih =>
      have hfields : fields.map (fun field => (field.1, field.2.written.collapsed)) =
          fields.map fun field => (field.1, field.2.toJson) :=
        List.map_congr_left fun field hfield => Prod.ext rfl (ih field hfield)
      rw [written, Json.collapsed, Json.collapsedMembers_eq_map, writtenFields_eq_map,
        List.map_map, toJson, fieldsToJson_eq_map, ← hfields]
      rfl
  | @list items _ ih =>
      have hitems : items.map (fun item => item.written.collapsed) = items.map toJson :=
        List.map_congr_left ih
      rw [written, Json.collapsed, Json.collapsedItems_eq_map, writtenItems_eq_map,
        List.map_map, toJson, itemsToJson_eq_map, ← hitems]
      rfl

/-! ## Depth -/

mutual

/-- How deeply lists and maps are nested in a term, and arrays and objects in its values. -/
def nesting : Term → Nat
  | scalar value => value.nesting
  | regex _ => 0
  | map fields => fieldsNesting fields + 1
  | list items => itemsNesting items + 1

def itemsNesting : List Term → Nat
  | [] => 0
  | item :: rest => max item.nesting (itemsNesting rest)

def fieldsNesting : List (String × Term) → Nat
  | [] => 0
  | (_, term) :: rest => max term.nesting (fieldsNesting rest)

end

mutual

theorem nesting_written : ∀ term : Term, term.written.nesting = term.nesting
  | scalar _ => by rw [written, nesting]
  | regex _ => by rw [written, nesting, Json.nesting]
  | map fields => by rw [written, nesting, Json.nesting, membersNesting_writtenFields fields]
  | list items => by rw [written, nesting, Json.nesting, itemsNesting_writtenItems items]

theorem itemsNesting_writtenItems :
    ∀ items : List Term, Json.itemsNesting (writtenItems items) = itemsNesting items
  | [] => by rw [writtenItems, itemsNesting, Json.itemsNesting]
  | item :: rest => by
      rw [writtenItems, itemsNesting, Json.itemsNesting, nesting_written item,
        itemsNesting_writtenItems rest]

theorem membersNesting_writtenFields :
    ∀ fields : List (String × Term),
      Json.membersNesting (writtenFields fields) = fieldsNesting fields
  | [] => by rw [writtenFields, fieldsNesting, Json.membersNesting]
  | (_, term) :: rest => by
      rw [writtenFields, fieldsNesting, Json.membersNesting, nesting_written term,
        membersNesting_writtenFields rest]

end

/-! ## Reading back -/

theorem ofText?_text_eq_some_iff {term : Term} (proper : term.ProperValues) {value : Json} :
    Json.ofText? term.text = some value ↔
      term.nesting ≤ Json.depthLimit ∧ value = term.toJson := by
  rw [Json.ofText?, text, Json.ofTextWithin?_text_eq_some_iff, nesting_written,
    collapsed_written proper]

/-- In the value of a map each key stands once, at its first place and with its last value. -/
theorem toJson_map (fields : List (String × Term)) :
    (Term.map fields).toJson =
      .object (Entries.lastValues (fields.map fun field => (field.1, field.2.toJson))) := by
  rw [toJson, fieldsToJson_eq_map, Entries.ofPairs_eq_lastValues]

/-- The text of a term, or of a query, is read as its JSON value, and as nothing else if it is
nested too deeply; the fields of a map are there as what the map denotes. -/
theorem encodings_agree :
    (∀ term : Term, term.ProperValues → ∀ value, Json.ofText? term.text = some value ↔
      term.nesting ≤ Json.depthLimit ∧ value = term.toJson) ∧
    (∀ query : Query, query.toTerm.ProperValues → ∀ value, Json.ofText? query.text = some value ↔
      query.toTerm.nesting ≤ Json.depthLimit ∧ value = query.toJson) ∧
    ∀ fields : List (String × Term), (Term.map fields).toJson =
      .object (Entries.lastValues (fields.map fun field => (field.1, field.2.toJson))) :=
  ⟨fun _ proper _ => ofText?_text_eq_some_iff proper,
    fun _ proper _ => ofText?_text_eq_some_iff proper, toJson_map⟩

/-- A pattern whose text has a quote. -/
def quotePattern : Pattern where
  source := "\""
  flags := "g"
  program := .literal ['"']
  compiles := rfl

/-- Maps with repeated keys at two depths, around a pattern and a value. -/
def repeatedKeys : List (String × Term) :=
  [("a", .regex quotePattern),
    ("b", .list [.map [("x", .scalar (.bool true)), ("y", .scalar .null),
      ("x", .regex quotePattern)]]),
    ("a", .scalar (.object [("k", .array [])]))]

theorem encodings_agree_repeatedKeys :
    Json.ofText? (Term.map repeatedKeys).text =
        some (.object [("a", .object [("k", .array [])]),
          ("b", .array [.object [("x", .string "/\"/g"), ("y", .null)]])]) ∧
      Json.ofText? ({ fields := repeatedKeys } : Query).text =
        some (.object [("a", .object [("k", .array [])]),
          ("b", .array [.object [("x", .string "/\"/g"), ("y", .null)]])]) := by
  have hproper : (Term.map repeatedKeys).ProperValues := by
    simp [repeatedKeys, Entries.Distinct, Entries.keys]
  have hnested : (Term.map repeatedKeys).nesting ≤ Json.depthLimit := by decide
  obtain ⟨hterm, hquery, _⟩ := encodings_agree
  exact ⟨(hterm _ hproper _).mpr ⟨hnested, rfl⟩,
    (hquery { fields := repeatedKeys } hproper _).mpr ⟨hnested, rfl⟩⟩

end Term

end DocQuery
