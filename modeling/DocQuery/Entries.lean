/-!
# Insertion-ordered entries

A finite map from strings, written as the list of its pairs in insertion order.
Object members, query fields, operator tables and projections all use it.  A
repeated key can occur in a list that was built by hand; look-ups then see the
first pair.  Lists built by `insert` alone have distinct keys.
-/

namespace DocQuery

universe u

/-- Keyed pairs in insertion order. -/
abbrev Entries (α : Type u) := List (String × α)

namespace Entries

variable {α : Type u}

/-- The value of the first pair with this key. -/
def find? (key : String) : Entries α → Option α
  | [] => none
  | (k, value) :: rest => if k = key then some value else find? key rest

def keys (entries : Entries α) : List String :=
  entries.map Prod.fst

/-- Set a key: a key already present keeps its place, a new one goes last. -/
def insert (key : String) (value : α) : Entries α → Entries α
  | [] => [(key, value)]
  | (k, old) :: rest =>
      if k = key then (k, value) :: rest else (k, old) :: insert key value rest

def insertAll (pairs entries : Entries α) : Entries α :=
  pairs.foldl (fun acc pair => insert pair.1 pair.2 acc) entries

/-- The map that a list of pairs denotes: first position, last value. -/
def ofPairs (pairs : Entries α) : Entries α :=
  insertAll pairs []

def Distinct (entries : Entries α) : Prop :=
  (keys entries).Nodup

instance (entries : Entries α) : Decidable (Distinct entries) :=
  inferInstanceAs (Decidable (keys entries).Nodup)

/-! ## Look-ups -/

@[simp] theorem find?_nil (key : String) : find? key ([] : Entries α) = none :=
  rfl

theorem find?_cons (key k : String) (value : α) (rest : Entries α) :
    find? key ((k, value) :: rest) =
      if k = key then some value else find? key rest :=
  rfl

theorem find?_insert_self (key : String) (value : α) (entries : Entries α) :
    find? key (insert key value entries) = some value := by
  induction entries with
  | nil =>
      simp [insert, find?]
  | cons pair rest ih =>
      obtain ⟨k, old⟩ := pair
      by_cases h : k = key
      · simp [insert, find?, h]
      · simp [insert, find?, h, ih]

theorem find?_insert_of_ne
    {key other : String} (hne : other ≠ key) (value : α) (entries : Entries α) :
    find? other (insert key value entries) = find? other entries := by
  induction entries with
  | nil =>
      simp [insert, find?, hne.symm]
  | cons pair rest ih =>
      obtain ⟨k, old⟩ := pair
      by_cases h : k = key
      · subst h
        simp [insert, find?, hne.symm]
      · simp [insert, find?, h, ih]

theorem find?_append (key : String) (front back : Entries α) :
    find? key (front ++ back) = (find? key front).or (find? key back) := by
  induction front with
  | nil =>
      rfl
  | cons pair rest ih =>
      obtain ⟨k, value⟩ := pair
      by_cases h : k = key
      · simp [find?, h]
      · simp [find?, h, ih]

theorem find?_insert (key other : String) (value : α) (entries : Entries α) :
    find? other (insert key value entries) =
      if key = other then some value else find? other entries := by
  by_cases h : key = other
  · subst h
    rw [if_pos rfl, find?_insert_self]
  · rw [if_neg h, find?_insert_of_ne (fun e => h e.symm)]

/-- Of several values of a key the last one inserted is found. -/
theorem find?_insertAll (key : String) (pairs entries : Entries α) :
    find? key (insertAll pairs entries) =
      (find? key pairs.reverse).or (find? key entries) := by
  induction pairs generalizing entries with
  | nil =>
      rfl
  | cons pair rest ih =>
      obtain ⟨k, value⟩ := pair
      have hrest := ih (insert k value entries)
      rw [insertAll, List.foldl_cons, ← insertAll, hrest, List.reverse_cons, find?_append,
        Option.or_assoc, find?_insert]
      by_cases h : k = key <;> simp [find?, h]

theorem find?_ofPairs (key : String) (pairs : Entries α) :
    find? key (ofPairs pairs) = find? key pairs.reverse := by
  rw [ofPairs, find?_insertAll, find?_nil, Option.or_none]

/-! ## Keys -/

theorem find?_eq_none_iff {key : String} {entries : Entries α} :
    find? key entries = none ↔ key ∉ keys entries := by
  induction entries with
  | nil =>
      simp [keys]
  | cons pair rest ih =>
      obtain ⟨k, value⟩ := pair
      by_cases h : k = key
      · simp [find?, keys, h]
      · have h' : ¬ key = k := fun e => h e.symm
        simp [find?, keys, h, h', ih]

theorem mem_of_find? {key : String} {value : α} {entries : Entries α}
    (h : find? key entries = some value) : (key, value) ∈ entries := by
  induction entries with
  | nil =>
      cases h
  | cons pair rest ih =>
      obtain ⟨k, other⟩ := pair
      rw [find?_cons] at h
      split at h
      · rename_i hk
        cases h
        rw [hk]
        exact List.mem_cons_self
      · exact List.mem_cons_of_mem _ (ih h)

theorem Distinct.mem_iff {entries : Entries α} (distinct : Distinct entries)
    (key : String) (value : α) :
    (key, value) ∈ entries ↔ find? key entries = some value := by
  refine ⟨fun hmem => ?_, mem_of_find?⟩
  induction entries with
  | nil =>
      cases hmem
  | cons pair rest ih =>
      obtain ⟨k, other⟩ := pair
      obtain ⟨hk, hrest⟩ := List.nodup_cons.mp distinct
      rcases List.mem_cons.mp hmem with heq | hmem
      · cases heq
        simp [find?]
      · have hne : ¬ k = key := by
          rintro rfl
          exact hk (List.mem_map.mpr ⟨_, hmem, rfl⟩)
        rw [find?_cons, if_neg hne]
        exact ih hrest hmem

theorem keys_insert (key : String) (value : α) (entries : Entries α) :
    keys (insert key value entries) =
      if key ∈ keys entries then keys entries else keys entries ++ [key] := by
  induction entries with
  | nil =>
      simp [insert, keys]
  | cons pair rest ih =>
      obtain ⟨k, old⟩ := pair
      by_cases h : k = key
      · subst h
        simp [insert, keys]
      · have h' : ¬ key = k := fun e => h e.symm
        simp only [keys] at ih
        by_cases hmem : key ∈ rest.map Prod.fst <;>
          simp [insert, keys, h, h', ih, hmem]

theorem Distinct.insert {entries : Entries α} (h : Distinct entries)
    (key : String) (value : α) : Distinct (insert key value entries) := by
  unfold Distinct
  rw [keys_insert]
  split
  · exact h
  · rename_i hmem
    exact List.nodup_append.mpr
      ⟨h, by simp, by
        intro a ha b hb e
        have hb' : b = key := by simpa using hb
        exact hmem (hb' ▸ e ▸ ha)⟩

theorem Distinct.insertAll {entries : Entries α} (h : Distinct entries)
    (pairs : Entries α) : Distinct (insertAll pairs entries) := by
  induction pairs generalizing entries with
  | nil =>
      exact h
  | cons pair rest ih =>
      exact ih (h.insert pair.1 pair.2)

theorem distinct_ofPairs (pairs : Entries α) : Distinct (ofPairs pairs) :=
  have h : Distinct ([] : Entries α) := List.nodup_nil
  h.insertAll pairs

/-! ## Pairs with distinct keys -/

theorem insert_of_not_mem {key : String} {entries : Entries α} (h : key ∉ keys entries)
    (value : α) : insert key value entries = entries ++ [(key, value)] := by
  induction entries with
  | nil =>
      rfl
  | cons pair rest ih =>
      obtain ⟨hne, hrest⟩ := not_or.mp fun hmem => h (List.mem_cons.mpr hmem)
      rw [insert, if_neg fun heq => hne heq.symm, ih hrest, List.cons_append]

theorem insertAll_of_distinct {pairs entries : Entries α} (h : Distinct (entries ++ pairs)) :
    insertAll pairs entries = entries ++ pairs := by
  induction pairs generalizing entries with
  | nil =>
      rw [List.append_nil]
      rfl
  | cons pair rest ih =>
      have hnew : pair.1 ∉ keys entries := by
        intro hmem
        rw [Distinct, keys, List.map_append, List.nodup_append] at h
        exact h.2.2 _ hmem _ List.mem_cons_self rfl
      rw [List.append_cons] at h
      rw [insertAll, List.foldl_cons, ← insertAll, insert_of_not_mem hnew, ih h,
        List.append_assoc, List.singleton_append]

theorem ofPairs_of_distinct {pairs : Entries α} (h : Distinct pairs) : ofPairs pairs = pairs :=
  insertAll_of_distinct h

/-! ## Pairs with repeated keys -/

theorem all_ofPairs_iff {pairs : Entries α} {test : String × α → Bool} :
    (ofPairs pairs).all test = true ↔
      ∀ key value, find? key pairs.reverse = some value → test (key, value) = true := by
  rw [List.all_eq_true, Prod.forall]
  refine forall_congr' fun key => forall_congr' fun value => ?_
  rw [(distinct_ofPairs pairs).mem_iff, find?_ofPairs]

theorem find?_reverse_eq_none_iff {key : String} {entries : Entries α} :
    find? key entries.reverse = none ↔ key ∉ keys entries := by
  rw [find?_eq_none_iff, keys, keys, List.map_reverse, List.mem_reverse]

/-- A pair counts among others that follow it unless its key comes again. -/
theorem all_ofPairs_cons (key : String) (value : α) (rest : Entries α)
    (test : String × α → Bool) :
    (ofPairs ((key, value) :: rest)).all test =
      (((keys rest).contains key || test (key, value)) && (ofPairs rest).all test) := by
  rw [Bool.eq_iff_iff, Bool.and_eq_true, Bool.or_eq_true, List.contains_iff_mem,
    all_ofPairs_iff, all_ofPairs_iff, List.reverse_cons]
  constructor
  · intro h
    constructor
    · by_cases hkey : key ∈ keys rest
      · exact .inl hkey
      · have hnone := find?_reverse_eq_none_iff.mpr hkey
        exact .inr (h key value (by simp [find?_append, hnone, find?]))
    · intro k v hv
      exact h k v (by simp [find?_append, hv])
  · rintro ⟨hkey, hrest⟩ k v hv
    rw [find?_append] at hv
    cases hfind : find? k rest.reverse with
    | some other =>
        rw [hfind] at hv
        cases hv
        exact hrest k v hfind
    | none =>
        rw [hfind, Option.none_or, find?_cons] at hv
        split at hv
        · rename_i hk
          cases hv
          subst hk
          exact hkey.resolve_left (find?_reverse_eq_none_iff.mp hfind)
        · cases hv

theorem mem_keys_filter (test : String → Bool) {key : String} (h : test key = true)
    (entries : Entries α) :
    key ∈ keys (entries.filter fun pair => test pair.1) ↔ key ∈ keys entries := by
  simp only [keys, List.mem_map, List.mem_filter]
  constructor
  · rintro ⟨pair, ⟨hmem, _⟩, heq⟩
    exact ⟨pair, hmem, heq⟩
  · rintro ⟨pair, hmem, rfl⟩
    exact ⟨pair, ⟨hmem, h⟩, rfl⟩

/-- Of pairs in a row those in front count whose keys do not come again behind. -/
theorem all_ofPairs_append (front back : Entries α) (test : String × α → Bool) :
    (ofPairs (front ++ back)).all test =
      ((ofPairs (front.filter fun pair => !(keys back).contains pair.1)).all test &&
        (ofPairs back).all test) := by
  induction front with
  | nil =>
      rfl
  | cons pair rest ih =>
      obtain ⟨key, value⟩ := pair
      rw [List.cons_append, all_ofPairs_cons, ih, List.filter_cons, keys, List.map_append,
        List.contains_append, ← keys, ← keys]
      cases hback : (keys back).contains key with
      | true =>
          rw [Bool.or_true, Bool.true_or, Bool.true_and, if_neg (by simp)]
      | false =>
          have hrest : (keys (rest.filter fun pair => !(keys back).contains pair.1)).contains key =
              (keys rest).contains key := by
            have hkey : (!(keys back).contains key) = true := by rw [hback, Bool.not_false]
            rw [Bool.eq_iff_iff, List.contains_iff_mem, List.contains_iff_mem]
            exact mem_keys_filter (fun other => !(keys back).contains other) hkey rest
          rw [Bool.or_false, if_pos Bool.not_false, all_ofPairs_cons, hrest, Bool.and_assoc]

end Entries

end DocQuery
