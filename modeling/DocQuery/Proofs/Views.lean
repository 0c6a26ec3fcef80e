import DocQuery.Proofs.Building
import DocQuery.Proofs.Conjunction
import DocQuery.Proofs.Storage
import Mathlib.Data.List.Perm.Subperm

/-!
# Views of a query

A query is seen in four ways: through its look-up, its JSON value, its number of fields, and
the test that it compiles to.  The first field of a repeated key is found and the last one
counts, so the views agree exactly when no key is repeated.  All that makes or changes a
query keeps its keys apart, but for a term that is taken for a query as it is.
-/

namespace DocQuery

/-! ## Keys -/

namespace Entries

universe u

variable {α : Type u}

theorem distinct_insert_iff {key : String} {value : α} {entries : Entries α} :
    Distinct (insert key value entries) ↔ Distinct entries := by
  refine ⟨fun h => ?_, fun h => h.insert key value⟩
  rw [Distinct, keys_insert] at h
  split at h
  · exact h
  · exact (List.nodup_append.mp h).1

/-- Nothing is lost in collecting pairs only if no key is repeated. -/
theorem length_ofPairs_eq_iff {pairs : Entries α} :
    (ofPairs pairs).length = pairs.length ↔ Distinct pairs := by
  refine ⟨fun hlength => ?_, fun h => by rw [ofPairs_of_distinct h]⟩
  have hsubset : keys (ofPairs pairs) ⊆ keys pairs := by
    intro key hkey
    rw [keys_ofPairs] at hkey
    exact List.mem_eraseDups.mp hkey
  have hsubperm := List.subperm_of_subset (distinct_ofPairs pairs) hsubset
  have hle : (keys pairs).length ≤ (keys (ofPairs pairs)).length := by
    rw [keys, keys, List.length_map, List.length_map]
    exact Nat.le_of_eq hlength.symm
  exact (hsubperm.perm_of_length_le hle).nodup_iff.mp (distinct_ofPairs pairs)

/-- Setting a key puts the pair between others that do not have the key. -/
theorem Distinct.exists_insert_eq {entries : Entries α} (distinct : Distinct entries)
    (key : String) (value : α) :
    ∃ front back, Entries.insert key value entries = front ++ (key, value) :: back ∧
      entries.filter (fun pair => pair.1 != key) = front ++ back ∧
      key ∉ keys front ∧ key ∉ keys back := by
  induction entries with
  | nil =>
      exact ⟨[], [], rfl, rfl, List.not_mem_nil, List.not_mem_nil⟩
  | cons pair rest ih =>
      obtain ⟨k, old⟩ := pair
      obtain ⟨hk, hrest⟩ := List.nodup_cons.mp distinct
      by_cases h : k = key
      · subst h
        have hkept : rest.filter (fun pair => pair.1 != k) = rest := by
          refine List.filter_eq_self.mpr fun pair hpair => bne_iff_ne.mpr ?_
          rintro rfl
          exact hk (List.mem_map.mpr ⟨pair, hpair, rfl⟩)
        exact ⟨[], rest, by simp [Entries.insert], by simp [hkept], List.not_mem_nil, hk⟩
      · obtain ⟨front, back, hinsert, hfilter, hfront, hback⟩ := ih hrest
        refine ⟨(k, old) :: front, back, by simp [Entries.insert, h, hinsert],
          by simp [h, hfilter], ?_, hback⟩
        simp only [keys, List.map_cons, List.mem_cons, not_or]
        exact ⟨fun heq => h heq.symm, hfront⟩

/-- A pair counts by itself among pairs that do not have its key. -/
theorem all_ofPairs_middle {key : String} {front back : Entries α} (hfront : key ∉ keys front)
    (hback : key ∉ keys back) (value : α) (test : String × α → Bool) :
    (ofPairs (front ++ (key, value) :: back)).all test =
      (test (key, value) && (ofPairs (front ++ back)).all test) := by
  have hkept : (front.filter fun pair => !(keys ((key, value) :: back)).contains pair.1) =
      front.filter fun pair => !(keys back).contains pair.1 := by
    refine List.filter_congr fun pair hpair => ?_
    have hne : pair.1 ≠ key := by
      rintro rfl
      exact hfront (List.mem_map.mpr ⟨pair, hpair, rfl⟩)
    rw [keys, List.map_cons, ← keys, List.contains_cons, beq_eq_false_iff_ne.mpr hne,
      Bool.false_or]
  have hlast : (keys back).contains key = false := by simpa using hback
  rw [all_ofPairs_append, all_ofPairs_append, hkept, all_ofPairs_cons, hlast, Bool.false_or]
  ac_rfl

end Entries

def Json.keys : Json → List String
  | .object members => Entries.keys members
  | _ => []

namespace Query

/-! ## Agreement -/

/-- Whether a query finds under each key what its JSON value has there, and has as many
fields as that has keys. -/
structure Coherent (query : Query) : Prop where
  value : ∀ key, (query.find? key).map Term.toJson = query.toJson.field? key
  length : query.length = query.toJson.keys.length

theorem toJson_eq (query : Query) :
    query.toJson = .object (Entries.ofPairs (Term.fieldsToJson query.fields)) := by
  rw [toJson, toTerm, Term.toJson]

theorem coherent_iff {query : Query} : query.Coherent ↔ Entries.Distinct query.fields := by
  have hkeys := Term.keys_fieldsToJson query.fields
  constructor
  · intro coherent
    have hlength := coherent.length
    rw [toJson_eq, Json.keys, Entries.keys, List.length_map, length] at hlength
    have hpairs : (Term.fieldsToJson query.fields).length = query.fields.length := by
      rw [Term.fieldsToJson_eq_map, List.length_map]
    rw [← hpairs, eq_comm, Entries.length_ofPairs_eq_iff, Entries.Distinct, hkeys] at hlength
    exact hlength
  · intro distinct
    have hobject : query.toJson = .object (Term.fieldsToJson query.fields) := by
      rw [toJson_eq, Entries.ofPairs_of_distinct]
      rw [Entries.Distinct, hkeys]
      exact distinct
    constructor
    · intro key
      rw [hobject, Json.field?, Term.fieldsToJson_eq_map, Entries.find?_map, find?]
    · rw [hobject, Json.keys, hkeys, Entries.keys, List.length_map, length]

/-! ## How queries are obtained -/

inductive Source
  | empty
  | value (json : Json) (proper : json.Proper)
  | text (input : String)
  | term (operand : Term)

namespace Source

def Makes : Source → Query → Prop
  | empty, query => query = {}
  | value json _, query => ofJson json = .ok query
  | text input, query => ofText? input = some (.ok query)
  | term operand, query => ofTerm operand = .ok query

/-- Whether a source has no key twice.  Of values and texts only the last place of a key is
left, but a term is taken as it is. -/
def Unrepeated : Source → Prop
  | term (.map fields) => Entries.Distinct fields
  | _ => True

end Source

inductive Obtained (source : Source) : Query → Prop
  | made {query : Query} (makes : source.Makes query) : Obtained source query
  | inserted {query : Query} (obtained : Obtained source query) (key : String) (term : Term) :
      Obtained source (query.insert key term)
  | normalized {query : Query} (obtained : Obtained source query) :
      Obtained source query.normalize

/-! ## Keys of obtained queries -/

theorem distinct_of_toJson? {depth : Nat} {raw : Json.Raw} {members : List (String × Json)}
    (read : raw.toJson? depth = some (.object members)) : Entries.Distinct members := by
  cases raw with
  | null | bool =>
      cases read
  | number | string =>
      obtain ⟨_, _, hvalue⟩ := Option.map_eq_some_iff.mp read
      cases hvalue
  | array items =>
      cases depth with
      | zero =>
          cases read
      | succ depth =>
          obtain ⟨_, _, hvalue⟩ := Option.map_eq_some_iff.mp read
          cases hvalue
  | object pairs =>
      cases depth with
      | zero =>
          cases read
      | succ depth =>
          obtain ⟨values, _, hvalue⟩ := Option.map_eq_some_iff.mp read
          cases hvalue
          exact Entries.distinct_ofPairs values

theorem exists_of_ofJson {value : Json} {query : Query} (made : ofJson value = .ok query) :
    ∃ members, value = .object members ∧
      Entries.keys query.fields = Entries.keys members := by
  cases value with
  | object members =>
      cases made
      exact ⟨members, rfl, by rw [Term.ofMembers_eq_map, Entries.keys_map]⟩
  | null | bool | number | string | array => cases made

theorem distinct_of_ofText? {input : String} {query : Query}
    (made : ofText? input = some (.ok query)) : Entries.Distinct query.fields := by
  unfold ofText? at made
  split at made
  · cases made
  · obtain ⟨value, hread, hquery⟩ := Option.map_eq_some_iff.mp made
    obtain ⟨members, rfl, hkeys⟩ := exists_of_ofJson hquery
    obtain ⟨raw, _, hvalue⟩ := Option.bind_eq_some_iff.mp hread
    rw [Entries.Distinct, hkeys]
    exact distinct_of_toJson? hvalue
  · -- The front of the text is no object, and only objects are queries.
    rename_i value hobject _
    obtain ⟨members, rfl, _⟩ := exists_of_ofJson (Option.some.inj made)
    exact absurd rfl (hobject members)

theorem Source.Makes.distinct_iff {source : Source} {query : Query} (makes : source.Makes query) :
    Entries.Distinct query.fields ↔ source.Unrepeated := by
  cases source with
  | empty =>
      cases makes
      exact iff_of_true List.nodup_nil trivial
  | value json proper =>
      obtain ⟨members, rfl, hkeys⟩ := exists_of_ofJson makes
      rw [Entries.Distinct, hkeys]
      exact iff_of_true (Json.proper_object_iff.mp proper).1 trivial
  | text input =>
      exact iff_of_true (distinct_of_ofText? makes) trivial
  | term operand =>
      cases operand with
      | map fields =>
          cases makes
          rfl
      | scalar | regex | list => cases makes

/-- Changes leave keys apart that were, and no others. -/
theorem Obtained.distinct_iff {source : Source} {query : Query} (obtained : Obtained source query) :
    Entries.Distinct query.fields ↔ source.Unrepeated := by
  induction obtained with
  | made makes =>
      exact makes.distinct_iff
  | @inserted query _ key term ih =>
      rw [insert, Entries.distinct_insert_iff, ih]
  | @normalized query _ ih =>
      rw [normalize, Entries.Distinct, keys_normalizeFields]
      exact ih

def without (query : Query) (key : String) : Query where
  fields := query.fields.filter fun field => field.1 != key

end Query

/-! ## Tests of set fields -/

/-- An equality counts by itself among clauses that have none of its field. -/
theorem Clause.passes_assemble_middle {field : String} {front back : List Clause}
    (hfront : field ∉ Entries.keys (front.filterMap equality?))
    (hback : field ∉ Entries.keys (back.filterMap equality?)) (expected : Json)
    (revision : Revision) :
    (assemble (front ++ .equality field expected :: back)).passes revision =
      (Json.sameField (revision.current.field? field) (some expected) &&
        (assemble (front ++ back)).passes revision) := by
  have hclauses : (front ++ equality field expected :: back).filterMap equality? =
      front.filterMap equality? ++ (field, expected) :: back.filterMap equality? :=
    List.filterMap_append
  have htests : (front ++ equality field expected :: back).flatMap testList =
      (front ++ back).flatMap testList := by
    rw [List.flatMap_append, List.flatMap_append, List.flatMap_cons]
    rfl
  rw [passes_assemble, passes_assemble, hclauses, htests, List.filterMap_append,
    Entries.all_ofPairs_middle hfront hback, Bool.and_assoc]
  rfl

theorem equates_eq_false {fields : List (String × Term)} {key : String}
    (h : key ∉ Entries.keys fields) : equates fields key = false := by
  refine List.any_eq_false.mpr fun field hfield heq => h ?_
  obtain ⟨_, hkey⟩ := Bool.and_eq_true_iff.mp heq
  exact List.mem_map.mpr ⟨field, hfield, eq_of_beq hkey⟩

namespace Compiler

variable {compiler : Compiler}

/-- A field that is set to a value adds the equality with it to what the other fields ask. -/
theorem result_compile_insert
    (marked : ∀ key, isOperatorKey key = false → compiler.catalog.clauses.operator? key = none)
    {query : Query} (distinct : Entries.Distinct query.fields) {key : String}
    (plain : isOperatorKey key = false) (value : Json) :
    (compiler.compile (query.insert key (.scalar value))).result.map Predicate.passes =
      (compiler.compile (query.without key)).result.map fun others revision =>
        Json.sameField (revision.current.field? key) (some value) && others.passes revision := by
  obtain ⟨front, back, hinsert, hwithout, hfront, hback⟩ :=
    distinct.exists_insert_eq key (.scalar value)
  have hfield : isEquality key (.scalar value) = true := by
    rw [isEquality, plain, Bool.not_false]
  rw [result_compile, result_compile, Query.insert, Query.without, hinsert, hwithout]
  simp only [compileFields, Reported.result_map, result_clauses_append, result_clauses_cons,
    clause_of_isEquality marked hfield, Reported.result_pure]
  cases hfirst : (compiler.clauses front).result with
  | error error => rfl
  | ok first =>
      cases hsecond : (compiler.clauses back).result with
      | error error => rfl
      | ok second =>
          have hkeys {fields : List (String × Term)} {clauses : List Clause}
              (made : (compiler.clauses fields).result = .ok clauses)
              (h : key ∉ Entries.keys fields) :
              key ∉ Entries.keys (clauses.filterMap Clause.equality?) := by
            have hcontains := keys_of_clauses marked made key
            rw [equates_eq_false h] at hcontains
            simpa using hcontains
          refine congrArg Except.ok (funext fun revision => ?_)
          exact Clause.passes_assemble_middle (hkeys hfirst hfront) (hkeys hsecond hback) value
            revision

end Compiler

namespace Query

def repeatedFields : List (String × Term) :=
  [("a", .scalar (.bool true)), ("a", .scalar .null)]

/-- A query that was made of a term with a repeated key has two values under the key, and the
second one still counts when the first one is set. -/
theorem repeatedKey_incoherent :
    (¬ ∀ source query, Obtained source query → query.Coherent) ∧
      ¬ ∀ source query, Obtained source query → ∀ key value, isOperatorKey key = false →
        ∀ predicate,
          (({} : Compiler).compile (query.insert key (.scalar value))).result = .ok predicate →
          ∀ document previous, predicate.passes { current := document, previous } = true →
            Json.sameField (document.field? key) (some value) = true := by
  have hobtained : Obtained (.term (.map repeatedFields)) { fields := repeatedFields } := .made rfl
  constructor
  · intro h
    have hlength := (h _ _ hobtained).length
    cases hlength
  · intro h
    have hequal := h _ _ hobtained "a" (.bool false) rfl _ rfl (.object [("a", .null)]) none rfl
    cases hequal

/-- The views of a query agree exactly when it was not made of a term with a repeated key, and
then a plain field that is set to a value asks for just that value, beside what the other
fields ask. -/
theorem coherent_iff_unrepeated (source : Source) (query : Query)
    (obtained : Obtained source query) :
    (query.Coherent ↔ source.Unrepeated) ∧
      (source.Unrepeated → ∀ (history : History) (config : Config) (key : String) (value : Json),
        isOperatorKey key = false →
          ((history.compiler config).compile (query.insert key (.scalar value))).result.map
              Predicate.passes =
            ((history.compiler config).compile (query.without key)).result.map
              fun others revision =>
                Json.sameField (revision.current.field? key) (some value) &&
                  others.passes revision) :=
  ⟨coherent_iff.trans obtained.distinct_iff, fun unrepeated history _ _ value plain =>
    Compiler.result_compile_insert (fun _ => history.operator?_of_plainKey)
      (obtained.distinct_iff.mpr unrepeated) plain value⟩

def patternFields : List (String × Term) :=
  [("b", .regex Pattern.letterX), ("a", .map [("$gt", .list [])])]

def changedQuery : Query :=
  (Query.insert { fields := patternFields } "c" (.list [])).normalize

def strictStandard : Compiler :=
  History.compiler { start := .standard, definitions := [] } { strict := true }

theorem coherent_iff_unrepeated_changed :
    changedQuery.Coherent ∧
      (strictStandard.compile (changedQuery.insert "a" (.scalar .null))).result.map
          Predicate.passes =
        (strictStandard.compile (changedQuery.without "a")).result.map fun others revision =>
          Json.sameField (revision.current.field? "a") (some .null) && others.passes revision := by
  have hmade : Obtained (.term (.map patternFields)) { fields := patternFields } := .made rfl
  have hunrepeated : Source.Unrepeated (.term (.map patternFields)) := by
    simp [Source.Unrepeated, patternFields, Entries.Distinct, Entries.keys]
  obtain ⟨hcoherent, hinsert⟩ :=
    coherent_iff_unrepeated _ changedQuery (hmade.inserted "c" (.list [])).normalized
  exact ⟨hcoherent.mpr hunrepeated, hinsert hunrepeated _ _ "a" .null rfl⟩

end Query

end DocQuery
