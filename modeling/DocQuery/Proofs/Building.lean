import DocQuery.Proofs.RoundTrip.Values
import DocQuery.Proofs.Spelling
import DocQuery.Query
import Mathlib.Data.List.Induction

/-!
# Queries built field by field

A query that is built by setting one field after the other is the query of the object that
the pairs denote, in which a key stands once, where it first came, with the value that came
last.  Reading a value as a term and writing it again loses nothing.
-/

namespace DocQuery

/-! ## What pairs denote -/

namespace Entries

universe u v

variable {α : Type u} {β : Type v}

/-- Each key of some pairs once, in the order in which the keys first come, with the last of
its values. -/
def lastValues (pairs : Entries α) : Entries α :=
  (keys pairs).eraseDups.filterMap fun key => (find? key pairs.reverse).map (key, ·)

theorem ofPairs_append_singleton (pairs : Entries α) (pair : String × α) :
    ofPairs (pairs ++ [pair]) = insert pair.1 pair.2 (ofPairs pairs) := by
  rw [ofPairs, insertAll, List.foldl_append]
  rfl

theorem keys_ofPairs (pairs : Entries α) : keys (ofPairs pairs) = (keys pairs).eraseDups := by
  induction pairs using List.reverseRecOn with
  | nil =>
      rfl
  | append_singleton pairs pair ih =>
      have hkeys : keys (pairs ++ [pair]) = keys pairs ++ [pair.1] := List.map_append
      rw [ofPairs_append_singleton, keys_insert, ih, hkeys, List.eraseDups_append]
      by_cases hmem : pair.1 ∈ keys pairs
      · have hold : [pair.1].removeAll (keys pairs) = [] := by simp [List.removeAll, hmem]
        rw [if_pos (List.mem_eraseDups.mpr hmem), hold, List.eraseDups_nil, List.append_nil]
      · have hnew : [pair.1].removeAll (keys pairs) = [pair.1] := by simp [List.removeAll, hmem]
        rw [if_neg (mt List.mem_eraseDups.mp hmem), hnew]
        rfl

/-- Entries with distinct keys are told by their keys and what is found under them. -/
theorem Distinct.eq_filterMap {entries : Entries α} (distinct : Distinct entries) :
    entries = (keys entries).filterMap fun key => (find? key entries).map (key, ·) := by
  induction entries with
  | nil =>
      rfl
  | cons pair rest ih =>
      obtain ⟨key, value⟩ := pair
      obtain ⟨hkey, hrest⟩ := List.nodup_cons.mp distinct
      have htail : (keys rest).filterMap (fun other =>
          (find? other ((key, value) :: rest)).map (other, ·)) = rest := by
        conv_rhs => rw [ih hrest]
        refine List.filterMap_congr fun other hother => ?_
        have hne : ¬key = other := fun heq => hkey (heq ▸ hother)
        rw [find?_cons, if_neg hne]
      rw [keys, List.map_cons, ← keys, List.filterMap_cons, find?_cons, if_pos rfl, htail]
      rfl

theorem ofPairs_eq_lastValues (pairs : Entries α) : ofPairs pairs = lastValues pairs := by
  rw [(distinct_ofPairs pairs).eq_filterMap, keys_ofPairs, lastValues]
  simp only [find?_ofPairs]

theorem keys_map (f : α → β) (entries : Entries α) :
    keys (entries.map fun pair => (pair.1, f pair.2)) = keys entries := by
  rw [keys, keys, List.map_map]
  rfl

theorem find?_map (f : α → β) (key : String) (entries : Entries α) :
    find? key (entries.map fun pair => (pair.1, f pair.2)) = (find? key entries).map f := by
  induction entries with
  | nil =>
      rfl
  | cons pair rest ih =>
      rw [List.map_cons, find?_cons, find?_cons, ih]
      split <;> rfl

theorem insert_map (f : α → β) (key : String) (value : α) (entries : Entries α) :
    insert key (f value) (entries.map fun pair => (pair.1, f pair.2)) =
      (insert key value entries).map fun pair => (pair.1, f pair.2) := by
  induction entries with
  | nil =>
      rfl
  | cons pair rest ih =>
      obtain ⟨k, old⟩ := pair
      rw [List.map_cons, insert, insert]
      split
      · rw [List.map_cons]
      · rw [List.map_cons, ih]

theorem ofPairs_map (f : α → β) (pairs : Entries α) :
    ofPairs (pairs.map fun pair => (pair.1, f pair.2)) =
      (ofPairs pairs).map fun pair => (pair.1, f pair.2) := by
  induction pairs using List.reverseRecOn with
  | nil =>
      rfl
  | append_singleton pairs pair ih =>
      rw [List.map_append, List.map_singleton, ofPairs_append_singleton, ih,
        ofPairs_append_singleton]
      exact insert_map f pair.1 pair.2 _

end Entries

/-! ## Terms of values -/

namespace Term

theorem ofMembers_eq_map (members : List (String × Json)) :
    ofMembers members = members.map fun pair => (pair.1, ofJson pair.2) := by
  induction members with
  | nil =>
      rw [ofMembers, List.map_nil]
  | cons pair rest ih =>
      rw [ofMembers, List.map_cons, ih]

mutual

/-- A value is read as a term that is written as the value, with each key of an object once. -/
theorem toJson_ofJson : ∀ value : Json, (ofJson value).toJson = value.collapsed
  | .null => rfl
  | .bool _ => rfl
  | .number _ => rfl
  | .string _ => rfl
  | .array items => by
      rw [ofJson, toJson, itemsToJson_ofItems items, Json.collapsed]
  | .object members => by
      rw [ofJson, toJson, fieldsToJson_ofMembers members, Json.collapsed]

theorem itemsToJson_ofItems :
    ∀ items : List Json, itemsToJson (ofItems items) = Json.collapsedItems items
  | [] => rfl
  | item :: rest => by
      rw [ofItems, itemsToJson, toJson_ofJson item, itemsToJson_ofItems rest,
        Json.collapsedItems]

theorem fieldsToJson_ofMembers :
    ∀ members : List (String × Json),
      fieldsToJson (ofMembers members) = Json.collapsedMembers members
  | [] => rfl
  | (_, value) :: rest => by
      rw [ofMembers, fieldsToJson, toJson_ofJson value, fieldsToJson_ofMembers rest,
        Json.collapsedMembers]

end

end Term

/-! ## Built queries -/

namespace Query

/-- The query with the terms of some values, set one after the other. -/
def built (pairs : List (String × Json)) : Query :=
  pairs.foldl (fun query pair => query.insert pair.1 (.ofJson pair.2)) {}

theorem fields_foldl_insert (pairs : List (String × Json)) (query : Query) :
    (pairs.foldl (fun query pair => query.insert pair.1 (.ofJson pair.2)) query).fields =
      Entries.insertAll (pairs.map fun pair => (pair.1, Term.ofJson pair.2)) query.fields := by
  induction pairs generalizing query with
  | nil =>
      rfl
  | cons pair rest ih =>
      rw [List.foldl_cons, ih]
      rfl

theorem fields_built (pairs : List (String × Json)) :
    (built pairs).fields =
      (Entries.ofPairs pairs).map fun pair => (pair.1, Term.ofJson pair.2) := by
  rw [built, fields_foldl_insert, ← Entries.ofPairs, Entries.ofPairs_map]

theorem keys_built (pairs : List (String × Json)) :
    Entries.keys (built pairs).fields = (Entries.keys pairs).eraseDups := by
  rw [fields_built, Entries.keys_map, Entries.keys_ofPairs]

theorem find?_built (pairs : List (String × Json)) (key : String) :
    (built pairs).find? key = (Entries.find? key pairs.reverse).map Term.ofJson := by
  rw [find?, fields_built, Entries.find?_map, Entries.find?_ofPairs]

theorem ofJson_object (members : List (String × Json)) :
    ofJson (.object members) = .ok { fields := Term.ofMembers members } :=
  rfl

/-- The query of an object is written as the object. -/
theorem toJson_ofMembers {members : List (String × Json)} (proper : (Json.object members).Proper) :
    ({ fields := Term.ofMembers members } : Query).toJson = .object members := by
  have hvalue := Term.toJson_ofJson (.object members)
  rw [proper.collapsed_eq] at hvalue
  exact hvalue

theorem ofJson_lastValues (pairs : List (String × Json)) :
    ofJson (.object (Entries.lastValues pairs)) = .ok (built pairs) := by
  rw [ofJson_object, Term.ofMembers_eq_map, ← Entries.ofPairs_eq_lastValues, ← fields_built]

theorem proper_lastValues {pairs : List (String × Json)} (proper : ∀ pair ∈ pairs, pair.2.Proper) :
    (Json.object (Entries.lastValues pairs)).Proper := by
  rw [← Entries.ofPairs_eq_lastValues]
  refine .object (Entries.distinct_ofPairs pairs) fun pair hpair => ?_
  have hfind := ((Entries.distinct_ofPairs pairs).mem_iff pair.1 pair.2).mp hpair
  rw [Entries.find?_ofPairs] at hfind
  exact proper pair (List.mem_reverse.mp (Entries.mem_of_find? hfind))

/-- Setting fields one after the other makes the query of the object that the pairs denote,
and an object is written again as it was read, with its keys in their order at any depth. -/
theorem built_as_object (pairs : List (String × Json)) (proper : ∀ pair ∈ pairs, pair.2.Proper) :
    ofJson (.object (Entries.lastValues pairs)) = .ok (built pairs) ∧
      Entries.keys (built pairs).fields = (Entries.keys pairs).eraseDups ∧
      (∀ key, (built pairs).find? key = (Entries.find? key pairs.reverse).map Term.ofJson) ∧
      (built pairs).toJson = .object (Entries.lastValues pairs) ∧
      ∀ members, (Json.object members).Proper →
        ∃ query, ofJson (.object members) = .ok query ∧ query.toJson = .object members := by
  have hbuilt := ofJson_lastValues pairs
  have hjson : (built pairs).toJson = .object (Entries.lastValues pairs) := by
    rw [← Except.ok.inj hbuilt]
    exact toJson_ofMembers (proper_lastValues proper)
  exact ⟨hbuilt, keys_built pairs, find?_built pairs, hjson, fun members hmembers =>
    ⟨_, ofJson_object members, toJson_ofMembers hmembers⟩⟩

/-- A key that comes again with another kind of value, around a key that comes once. -/
def overwritten : List (String × Json) :=
  [("b", .string "x"), ("a", .bool true),
    ("b", .array [.object [("d", .null), ("c", .bool false)], .array []])]

theorem built_as_object_overwritten :
    ofJson (.object [("b", .array [.object [("d", .null), ("c", .bool false)], .array []]),
        ("a", .bool true)]) = .ok (built overwritten) ∧
      Entries.keys (built overwritten).fields = ["b", "a"] ∧
      (built overwritten).find? "b" =
        some (.list [.map [("d", .scalar .null), ("c", .scalar (.bool false))], .list []]) ∧
      (built overwritten).toJson =
        .object [("b", .array [.object [("d", .null), ("c", .bool false)], .array []]),
          ("a", .bool true)] ∧
      ∃ query, ofJson (.object [("z", .null), ("a", .object [("y", .null), ("x", .null)])]) =
          .ok query ∧
        query.toJson = .object [("z", .null), ("a", .object [("y", .null), ("x", .null)])] := by
  have hproper : ∀ pair ∈ overwritten, pair.2.Proper := by
    simp [overwritten, Entries.Distinct, Entries.keys]
  have hmembers : (Json.object
      [("z", .null), ("a", .object [("y", .null), ("x", .null)])]).Proper := by
    simp [Entries.Distinct, Entries.keys]
  obtain ⟨hbuilt, hkeys, hfind, hjson, hread⟩ := built_as_object overwritten hproper
  exact ⟨hbuilt, hkeys, hfind "b", hjson, hread _ hmembers⟩

end Query

end DocQuery
