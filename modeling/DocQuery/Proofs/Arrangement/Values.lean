import DocQuery.Proofs.Spelling
import DocQuery.Proofs.ValueEquality

/-!
# Rearranged values

Two values without repeated keys that differ in the order of object members only, at any
depth.  Such values have the same fields, stand in the same order to others, and are equal
by value to the same ones.
-/

namespace DocQuery

/-! ## Entries in another order -/

/-- Whether triples hold entries with distinct keys beside others, which have the same keys
in any order. -/
structure Entries.Beside {α β : Type} (triples : List (String × α × β)) (entries : Entries α)
    (others : Entries β) : Prop where
  distinct : Entries.Distinct entries
  before : triples.map (fun triple => (triple.1, triple.2.1)) = entries
  after : (triples.map fun triple => (triple.1, triple.2.2)).Perm others

namespace Entries.Beside

variable {α β : Type} {triples : List (String × α × β)} {entries : Entries α}
  {others : Entries β}

theorem keys_perm (beside : Beside triples entries others) :
    (Entries.keys entries).Perm (Entries.keys others) := by
  have hafter := beside.after.map Prod.fst
  rw [← beside.before]
  simp only [Entries.keys, List.map_map, Function.comp_def] at hafter ⊢
  exact hafter

theorem distinct_others (beside : Beside triples entries others) : Entries.Distinct others :=
  beside.keys_perm.nodup_iff.mp beside.distinct

theorem find?_rel (related : α → β → Prop) (beside : Beside triples entries others)
    (values : ∀ triple ∈ triples, related triple.2.1 triple.2.2) (key : String) :
    Option.Rel related (Entries.find? key entries) (Entries.find? key others) := by
  cases hfind : Entries.find? key entries with
  | none =>
      have hkey := Entries.find?_eq_none_iff.mp hfind
      have hother := Entries.find?_eq_none_iff.mpr fun h => hkey (beside.keys_perm.mem_iff.mpr h)
      rw [hother]
      exact .none
  | some value =>
      have hmem := Entries.mem_of_find? hfind
      rw [← beside.before] at hmem
      obtain ⟨triple, htriple, heq⟩ := List.mem_map.mp hmem
      obtain ⟨hkey, hvalue⟩ := Prod.mk.inj heq
      have hother : (key, triple.2.2) ∈ others :=
        beside.after.mem_iff.mp (List.mem_map.mpr ⟨triple, htriple, by rw [hkey]⟩)
      rw [(beside.distinct_others.mem_iff _ _).mp hother, ← hvalue]
      exact .some (values triple htriple)

/-- What is computed of related entries is the same, up to its order. -/
theorem map_perm {γ : Type} (beside : Beside triples entries others) {f : String × α → γ}
    {g : String × β → γ}
    (same : ∀ key value other, (key, value, other) ∈ triples → g (key, other) = f (key, value)) :
    (others.map g).Perm (entries.map f) := by
  have hmap : (triples.map fun triple => (triple.1, triple.2.2)).map g = entries.map f := by
    rw [← beside.before, List.map_map, List.map_map]
    exact List.map_congr_left fun triple htriple => same triple.1 triple.2.1 triple.2.2 htriple
  rw [← hmap]
  exact (beside.after.map g).symm

/-- Two entries the other way round. -/
theorem swap {k l : String} {first second : α} {first' second' : β} (hne : k ≠ l) :
    Beside [(k, first, first'), (l, second, second')] [(k, first), (l, second)]
      [(l, second'), (k, first')] where
  distinct := by simpa [Entries.Distinct, Entries.keys] using hne
  before := rfl
  after := .swap _ _ _

end Entries.Beside

/-! ## Values -/

namespace Json

/-- Whether two values without repeated keys differ at most in the order of object members,
at any depth. -/
inductive Rearranged : Json → Json → Prop
  | plain {value : Json} (plain : value.isPlain = true) : Rearranged value value
  | array {items others : List Json} (pairs : List (Json × Json))
      (before : pairs.map Prod.fst = items) (after : pairs.map Prod.snd = others)
      (values : ∀ pair ∈ pairs, Rearranged pair.1 pair.2) :
      Rearranged (array items) (array others)
  | object {members others : List (String × Json)} (triples : List (String × Json × Json))
      (beside : Entries.Beside triples members others)
      (values : ∀ triple ∈ triples, Rearranged triple.2.1 triple.2.2) :
      Rearranged (object members) (object others)

theorem Proper.rearranged {value : Json} (proper : value.Proper) : Rearranged value value := by
  induction proper with
  | null | bool | number | string => exact .plain rfl
  | @array items _ ih =>
      refine .array (items.map fun item => (item, item)) (by simp [Function.comp_def])
        (by simp [Function.comp_def]) fun pair hpair => ?_
      obtain ⟨item, hitem, rfl⟩ := List.mem_map.mp hpair
      exact ih item hitem
  | @object members distinct _ ih =>
      refine .object (members.map fun (key, value) => (key, value, value))
        ⟨distinct, by simp [Function.comp_def], by simp [Function.comp_def]⟩ fun triple h => ?_
      obtain ⟨member, hmember, rfl⟩ := List.mem_map.mp h
      exact ih member hmember

/-- Equality but for the order of members, with numbers told apart by how they are written. -/
def sameContent : Json → Json → Bool :=
  sameBy fun m n => m == n

namespace Rearranged

variable {a a' b b' : Json}

/-- An object of two members the other way round. -/
theorem swap {k l : String} (hne : k ≠ l) (ha : Rearranged a a') (hb : Rearranged b b') :
    Rearranged (.object [(k, a), (l, b)]) (.object [(l, b'), (k, a')]) :=
  .object [(k, a, a'), (l, b, b')] (.swap hne)
    (List.forall_mem_cons.mpr ⟨ha, List.forall_mem_singleton.mpr hb⟩)

theorem proper (h : Rearranged a a') : a.Proper := by
  induction h with
  | @plain value plain =>
      cases value with
      | null => exact .null
      | bool value => exact .bool value
      | number value => exact .number value
      | string text => exact .string text
      | array | object => cases plain
  | array pairs before _ _ ih =>
      refine .array fun item hitem => ?_
      rw [← before] at hitem
      obtain ⟨pair, hpair, rfl⟩ := List.mem_map.mp hitem
      exact ih pair hpair
  | object triples beside _ ih =>
      refine .object beside.distinct fun member hmember => ?_
      rw [← beside.before] at hmember
      obtain ⟨triple, htriple, rfl⟩ := List.mem_map.mp hmember
      exact ih triple htriple

theorem proper_right (h : Rearranged a a') : a'.Proper := by
  induction h with
  | plain plain => exact (Rearranged.plain plain).proper
  | array pairs _ after _ ih =>
      refine .array fun item hitem => ?_
      rw [← after] at hitem
      obtain ⟨pair, hpair, rfl⟩ := List.mem_map.mp hitem
      exact ih pair hpair
  | object triples beside _ ih =>
      refine .object beside.distinct_others fun member hmember => ?_
      obtain ⟨triple, htriple, rfl⟩ := List.mem_map.mp (beside.after.mem_iff.mpr hmember)
      exact ih triple htriple

/-- Rearranged values are equal, also in how their numbers are written. -/
theorem sameContent (h : Rearranged a a') : a.sameContent a' = true := by
  induction h with
  | plain plain => exact sameBy_refl (fun n => beq_self_eq_true n) (Rearranged.plain plain).proper
  | array pairs before after _ ih =>
      subst before after
      refine sameBy_array_iff.mpr ⟨_, rfl, by simp, fun i hi _ => ?_⟩
      rw [List.length_map] at hi
      simp only [List.getElem_map]
      exact ih _ (List.getElem_mem hi)
  | @object members others triples beside _ ih =>
      refine sameBy_object_iff.mpr ⟨_, rfl, ?_, fun member hmember => ?_⟩
      · simpa [Entries.keys] using beside.keys_perm.length_eq
      · have hfind := beside.find?_rel (fun a b => a.sameContent b = true) ih member.1
        rw [(beside.distinct.mem_iff _ _).mp hmember] at hfind
        generalize Entries.find? member.1 others = found at hfind
        cases hfind with
        | some hsame => exact ⟨_, rfl, hsame⟩

theorem sameValue_of_sameContent (ha : a.Proper) (ha' : a'.Proper)
    (hab : a.sameContent a' = true) (hbb : b.sameContent b' = true)
    (h : sameValue a b = true) : sameValue a' b' = true := by
  have hback : a'.sameContent a = true :=
    sameBy_symm (fun m n hmn => by rw [eq_of_beq hmn, beq_self_eq_true]) ha ha' hab
  have hfirst (l m n : Number) (hlm : (l == m) = true) (hmn : m.sameValue n = true) :
      l.sameValue n = true := by
    rw [eq_of_beq hlm]
    exact hmn
  have hlast (l m n : Number) (hlm : l.sameValue m = true) (hmn : (m == n) = true) :
      l.sameValue n = true := by
    rw [← eq_of_beq hmn]
    exact hlm
  exact sameBy_trans hlast ha' (sameBy_trans hfirst ha' hback h) hbb

/-- Values are equal exactly if they are so rearranged. -/
theorem sameValue_eq (ha : Rearranged a a') (hb : Rearranged b b') :
    sameValue a' b' = sameValue a b := by
  have hsymm {c c' : Json} (h : Rearranged c c') : c'.sameContent c = true :=
    sameBy_symm (fun m n hmn => by rw [eq_of_beq hmn, beq_self_eq_true]) h.proper
      h.proper_right h.sameContent
  rw [Bool.eq_iff_iff]
  exact ⟨sameValue_of_sameContent ha.proper_right ha.proper (hsymm ha) (hsymm hb),
    sameValue_of_sameContent ha.proper ha.proper_right ha.sameContent hb.sameContent⟩

/-! ## Parts -/

theorem field? (h : Rearranged a a') (key : String) :
    Option.Rel Rearranged (a.field? key) (a'.field? key) := by
  cases h with
  | plain plain =>
      cases a with
      | null | bool | number | string => exact .none
      | array | object => cases plain
  | array => exact .none
  | object triples beside values => exact beside.find?_rel Rearranged values key

theorem string?_eq (h : Rearranged a a') : a'.string? = a.string? := by
  cases h <;> rfl

theorem bool?_eq (h : Rearranged a a') : a'.bool? = a.bool? := by
  cases h <;> rfl

theorem binary64?_eq (h : Rearranged a a') : a'.binary64? = a.binary64? := by
  cases h <;> rfl

theorem compare?_eq (ha : Rearranged a a') (hb : Rearranged b b') :
    a'.compare? b' = a.compare? b := by
  cases ha with
  | plain =>
      cases hb with
      | plain => rfl
      | array | object => cases a <;> rfl
  | array | object => rfl

end Rearranged

end Json

end DocQuery
