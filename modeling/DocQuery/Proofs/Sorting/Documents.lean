import DocQuery.Proofs.Order.Documents
import DocQuery.Proofs.Sorting.Runs

/-!
# Sorted documents

What it means that documents are sorted, said by the values of their fields: an absent
field comes first, then values by kind, and values of one kind by their own order.  If all
numbers under the sort keys are signed words, sorting gives the one list that is sorted in
this sense and keeps the documents that tie in their order.  It is also what comes out when
the documents are sorted by one key after the other, the weightiest last.
-/

namespace DocQuery

/-- What comes first by a total preorder is a strict weak order. -/
theorem PreorderAmong.weakOrder {α : Type} {among : α → Prop} {cmp : α → α → Ordering}
    (h : PreorderAmong among cmp) : Runs.WeakOrder among fun a b => cmp a b == .lt where
  asymm := by
    intro a b _ _ hab
    rw [beq_iff_eq] at hab
    rw [← h.swap, hab]
    rfl
  trans := by
    intro a b c ha hb hc hab hbc
    rw [beq_eq_false_iff_ne, Ne, ← h.eq_gt_iff] at *
    exact h.trans ha hb hc hab hbc

namespace SortSpec

variable {key : String × SortDirection} {keys : List (String × SortDirection)} {a b : Json}
  {documents result : List Json}

/-! ## Order by values -/

/-- Whether a field comes before another one in ascending order. -/
inductive FieldBefore : Option Json → Option Json → Prop
  | absent (value : Json) : FieldBefore none (some value)
  | kind {a b : Json} (lower : a.kind.rank < b.kind.rank) : FieldBefore (some a) (some b)
  | boolean : FieldBefore (some (.bool false)) (some (.bool true))
  | number {a b : Number} {x y : Int} (left : a.signed? = some x) (right : b.signed? = some y)
      (less : x < y) : FieldBefore (some (.number a)) (some (.number b))
  | string {a b : String} (less : a < b) : FieldBefore (some (.string a)) (some (.string b))

/-- Whether a sort key puts a document before another one. -/
def KeyBefore (key : String × SortDirection) (a b : Json) : Prop :=
  match key.2 with
  | .asc => FieldBefore (a.field? key.1) (b.field? key.1)
  | .desc => FieldBefore (b.field? key.1) (a.field? key.1)

def KeyTies (key : String × SortDirection) (a b : Json) : Prop :=
  ¬KeyBefore key a b ∧ ¬KeyBefore key b a

/-- Whether the first sort key that tells two documents apart puts one before the other. -/
def Before (keys : List (String × SortDirection)) (a b : Json) : Prop :=
  ∃ front key back, keys = front ++ key :: back ∧ (∀ earlier ∈ front, KeyTies earlier a b) ∧
    KeyBefore key a b

/-- Whether a list is made of documents with their places, of any two of which the first
one comes before by the sort keys, or they tie and it had the lower place. -/
def StablySorted (keys : List (String × SortDirection)) (documents result : List Json) : Prop :=
  ∃ placed : List (Json × Nat), placed.Perm documents.zipIdx ∧ placed.map Prod.fst = result ∧
    placed.Pairwise fun a b =>
      Before keys a.1 b.1 ∨ (∀ key ∈ keys, KeyTies key a.1 b.1) ∧ a.2 < b.2

/-- Whether a list is what documents become when they are sorted stably by each key alone,
from the last one to the first. -/
def SortedInTurn : List (String × SortDirection) → List Json → List Json → Prop
  | [], documents, result => result = documents
  | key :: rest, documents, result =>
      ∃ middle, SortedInTurn rest documents middle ∧ StablySorted [key] middle result

/-- Whether all numbers that documents hold under sort keys are signed words. -/
def HoldsWords (keys : List (String × SortDirection)) (documents : List Json) : Prop :=
  ∀ key ∈ keys, ∀ document ∈ documents, ∀ number,
    document.field? key.1 = some (.number number) → number.signed?.isSome = true

theorem HoldsWords.mono {keys' : List (String × SortDirection)} {documents' : List Json}
    (h : HoldsWords keys documents) (hkeys : keys' ⊆ keys) (hdocuments : documents' ⊆ documents) :
    HoldsWords keys' documents' :=
  fun key hkey document hdocument => h key (hkeys hkey) document (hdocuments hdocument)

/-! ## Order of fields -/

theorem compareFields_eq_lt_of_before {a b : Option Json} (h : FieldBefore a b) :
    compareFields a b = .lt := by
  cases h with
  | absent value => rfl
  | kind lower =>
      rw [compareFields_some, if_neg (Nat.ne_of_lt lower)]
      exact Nat.compare_eq_lt.mpr lower
  | boolean => rfl
  | number left right less =>
      show Number.compare _ _ = .lt
      rw [Number.compare_of_signed left right]
      exact Int.compare_eq_lt.mpr less
  | string less => exact compareOfLessAndEq_eq_lt.mpr less

theorem before_of_compareFields_eq_lt {a b : Option Json}
    (ha : ∀ number, a = some (.number number) → number.signed?.isSome = true)
    (hb : ∀ number, b = some (.number number) → number.signed?.isSome = true)
    (h : compareFields a b = .lt) : FieldBefore a b := by
  cases b with
  | none => cases a <;> cases h
  | some b =>
      cases a with
      | none => exact .absent b
      | some a =>
          rw [compareFields_some] at h
          by_cases hrank : a.kind.rank = b.kind.rank
          · rw [if_pos hrank] at h
            cases a with
            | null | array | object => cases b <;> cases h
            | bool x =>
                cases b <;> cases Kind.rank_injective hrank
                rename_i y
                cases x <;> cases y <;> first | exact .boolean | cases h
            | number x =>
                cases b <;> cases Kind.rank_injective hrank
                rename_i y
                obtain ⟨m, hm⟩ := Option.isSome_iff_exists.mp (ha x rfl)
                obtain ⟨n, hn⟩ := Option.isSome_iff_exists.mp (hb y rfl)
                have hless : Number.compare x y = .lt := h
                rw [Number.compare_of_signed hm hn] at hless
                exact .number hm hn (Int.compare_eq_lt.mp hless)
            | string x =>
                cases b <;> cases Kind.rank_injective hrank
                exact .string (compareOfLessAndEq_eq_lt.mp h)
          · rw [if_neg hrank] at h
            exact .kind (Nat.compare_eq_lt.mp h)

/-! ## Order of documents -/

theorem compareByKeys_singleton (key : String × SortDirection) (a b : Json) :
    compareByKeys [key] a b =
      key.2.apply (compareFields (a.field? key.1) (b.field? key.1)) := by
  rw [compareByKeys_cons, compareByKeys, Ordering.then_eq]

theorem compareByKeys_cons_eq_then (key : String × SortDirection)
    (rest : List (String × SortDirection)) (a b : Json) :
    compareByKeys (key :: rest) a b =
      (compareByKeys [key] a b).then (compareByKeys rest a b) := by
  rw [compareByKeys_singleton]
  exact compareByKeys_cons _ _ _ _ _

theorem compareByKeys_singleton_eq_lt_iff (h : HoldsWords [key] documents) (ha : a ∈ documents)
    (hb : b ∈ documents) : compareByKeys [key] a b = .lt ↔ KeyBefore key a b := by
  have hwords := h key List.mem_cons_self
  have hiff {x y : Json} (hx : x ∈ documents) (hy : y ∈ documents) :
      compareFields (x.field? key.1) (y.field? key.1) = .lt ↔
        FieldBefore (x.field? key.1) (y.field? key.1) :=
    ⟨before_of_compareFields_eq_lt (hwords x hx) (hwords y hy), compareFields_eq_lt_of_before⟩
  obtain ⟨field, direction⟩ := key
  rw [compareByKeys_singleton]
  cases direction with
  | asc => exact hiff ha hb
  | desc =>
      rw [SortDirection.apply, compareFields_swap]
      exact hiff hb ha

theorem compareByKeys_singleton_eq_eq_iff (h : HoldsWords [key] documents) (ha : a ∈ documents)
    (hb : b ∈ documents) : compareByKeys [key] a b = .eq ↔ KeyTies key a b := by
  have hswap := compareDocuments_swap { keys := [key] } a b
  rw [KeyTies, ← compareByKeys_singleton_eq_lt_iff h ha hb,
    ← compareByKeys_singleton_eq_lt_iff h hb ha]
  simp only [compareDocuments] at hswap
  rw [← hswap]
  cases compareByKeys [key] a b <;> decide

theorem before_cons {rest : List (String × SortDirection)} :
    Before (key :: rest) a b ↔ KeyBefore key a b ∨ KeyTies key a b ∧ Before rest a b := by
  constructor
  · rintro ⟨front, first, back, hkeys, hties, hbefore⟩
    cases front with
    | nil =>
        obtain ⟨rfl, -⟩ := List.cons.inj hkeys
        exact .inl hbefore
    | cons head front =>
        obtain ⟨rfl, hrest⟩ := List.cons.inj hkeys
        obtain ⟨hhead, hfront⟩ := List.forall_mem_cons.mp hties
        exact .inr ⟨hhead, front, first, back, hrest, hfront, hbefore⟩
  · rintro (hbefore | ⟨hties, front, first, back, rfl, hfront, hbefore⟩)
    · exact ⟨[], key, rest, rfl, List.forall_mem_nil _, hbefore⟩
    · exact ⟨key :: front, first, back, rfl, List.forall_mem_cons.mpr ⟨hties, hfront⟩, hbefore⟩

theorem compareByKeys_iff (h : HoldsWords keys documents) (ha : a ∈ documents)
    (hb : b ∈ documents) :
    (compareByKeys keys a b = .lt ↔ Before keys a b) ∧
      (compareByKeys keys a b = .eq ↔ ∀ key ∈ keys, KeyTies key a b) := by
  induction keys with
  | nil =>
      have hnone : ¬Before [] a b := by
        rintro ⟨front, key, back, hkeys, -⟩
        cases front <;> cases hkeys
      simp [compareByKeys, hnone]
  | cons key rest ih =>
      have hfirst : HoldsWords [key] documents := h.mono (by simp) (List.Subset.refl _)
      have hlt := compareByKeys_singleton_eq_lt_iff hfirst ha hb
      have heq := compareByKeys_singleton_eq_eq_iff hfirst ha hb
      obtain ⟨hlt', heq'⟩ := ih (h.mono (List.subset_cons_self key rest) (List.Subset.refl _))
      rw [compareByKeys_cons_eq_then, before_cons, List.forall_mem_cons, Ordering.then_eq_lt,
        Ordering.then_eq_eq, hlt, heq, hlt', heq']
      exact ⟨Iff.rfl, Iff.rfl⟩

/-! ## The sorted list -/

theorem HoldsWords.weakOrder (h : HoldsWords keys documents) :
    Runs.WeakOrder (· ∈ documents) (precedes { keys }) := by
  have hclear : ∀ key ∈ keys, blursAt key.1 documents = false := by
    intro key hkey
    simp only [blursAt, List.any_eq_false, Bool.not_eq_true]
    intro middle hmiddle a ha b hb
    cases hfield : middle.field? key.1 with
    | none => rfl
    | some value =>
        cases value with
        | number number =>
            have hword := h key hkey middle hmiddle number hfield
            obtain ⟨x, hx⟩ := Option.isSome_iff_exists.mp hword
            unfold fieldBlurs
            split
            · rename_i heq _ _
              obtain rfl := Json.number.inj (Option.some.inj heq)
              simp [Number.blurs, hx]
            · rfl
        | null | bool | string | array | object => rfl
  exact PreorderAmong.weakOrder (preorderAmong_keys hclear)

theorem tied_precedes_iff (h : HoldsWords keys documents) (ha : a ∈ documents)
    (hb : b ∈ documents) :
    Runs.tied (precedes { keys }) a b = true ↔ ∀ key ∈ keys, KeyTies key a b := by
  have hswap := compareDocuments_swap { keys } a b
  rw [← (compareByKeys_iff h ha hb).2, Runs.tied_iff]
  simp only [precedes, compareDocuments] at hswap ⊢
  rw [← hswap]
  cases compareByKeys keys a b <;> decide

/-- Sorting gives the one list that is sorted stably. -/
theorem stablySorted_iff (h : HoldsWords keys documents) :
    StablySorted keys documents result ↔ result = sort { keys } documents := by
  have hself : ∀ a ∈ documents, a ∈ documents := fun _ => id
  have hplaced : StablySorted keys documents result ↔
      ∃ placed : List (Json × Nat), placed.Perm documents.zipIdx ∧
        placed.map Prod.fst = result ∧ placed.Pairwise fun a b =>
          precedes { keys } a.1 b.1 = true ∨
            Runs.tied (precedes { keys }) a.1 b.1 = true ∧ a.2 < b.2 := by
    refine exists_congr fun placed => and_congr_right fun hperm => and_congr_right fun _ => ?_
    refine List.Pairwise.iff_of_mem fun {a b} ha hb => ?_
    have ha := List.fst_mem_of_mem_zipIdx (hperm.subset ha)
    have hb := List.fst_mem_of_mem_zipIdx (hperm.subset hb)
    rw [tied_precedes_iff h ha hb, ← (compareByKeys_iff h ha hb).1, precedes, beq_iff_eq]
    rfl
  rw [hplaced, ← Runs.stableSort_iff_exists_placed h.weakOrder hself,
    Runs.stableSort_iff h.weakOrder hself]
  rfl

theorem sort_stable (h : HoldsWords keys documents) :
    Runs.StableSort (· ∈ documents) (precedes { keys }) documents (sort { keys } documents) :=
  Runs.sort_stable h.weakOrder fun _ => id

theorem sort_nil (documents : List Json) : sort { keys := [] } documents = documents := by
  have hwords : HoldsWords [] documents := fun _ hkey => absurd hkey List.not_mem_nil
  have hordered : Runs.InOrder (precedes { keys := [] }) documents :=
    List.pairwise_of_forall fun _ _ => rfl
  exact Runs.StableSort.unique hwords.weakOrder (fun _ => id) (sort_stable hwords)
    (.of_inOrder hordered)

/-- Sorting by the first key alone what is sorted by the others is sorting by all. -/
theorem sort_cons {rest : List (String × SortDirection)}
    (h : HoldsWords (key :: rest) documents) :
    sort { keys := key :: rest } documents =
      sort { keys := [key] } (sort { keys := rest } documents) := by
  have hfirst : HoldsWords [key] documents := h.mono (by simp) (List.Subset.refl _)
  have hrest : HoldsWords rest documents :=
    h.mono (List.subset_cons_self key rest) (List.Subset.refl _)
  -- The first key alone is not told about the others: ties on it keep the order of the rest.
  have hmiddle := sort_stable hrest
  have hresult := Runs.sort_stable hfirst.weakOrder (hmiddle.among_of_mem fun _ => id)
  refine Runs.StableSort.unique h.weakOrder (fun _ => id) (sort_stable h)
    (Runs.StableSort.lexicographic hfirst.weakOrder (fun a b => ?_) (fun _ => id) hmiddle hresult)
  have hswap := compareDocuments_swap { keys := [key] } a b
  simp only [precedes, Runs.tied, compareDocuments] at hswap ⊢
  rw [compareByKeys_cons_eq_then, ← hswap]
  cases compareByKeys [key] a b <;> cases compareByKeys rest a b <;> rfl

theorem sortedInTurn_iff (h : HoldsWords keys documents) :
    SortedInTurn keys documents result ↔ result = sort { keys } documents := by
  induction keys generalizing result with
  | nil => rw [SortedInTurn, sort_nil]
  | cons key rest ih =>
      have hrest : HoldsWords rest documents :=
        h.mono (List.subset_cons_self key rest) (List.Subset.refl _)
      have hmiddle : HoldsWords [key] (sort { keys := rest } documents) :=
        h.mono (by simp) (sort_stable hrest).perm.subset
      rw [SortedInTurn, sort_cons h, ← stablySorted_iff hmiddle]
      constructor
      · rintro ⟨middle, hsorted, hresult⟩
        rwa [(ih hrest).mp hsorted] at hresult
      · exact fun hresult => ⟨_, (ih hrest).mpr rfl, hresult⟩

/-- What is sorted stays as it is when it is sorted again. -/
theorem sort_sort (h : HoldsWords keys documents) :
    sort { keys } (sort { keys } documents) = sort { keys } documents := by
  have hsorted := sort_stable h
  have hwords : HoldsWords keys (sort { keys } documents) :=
    h.mono (List.Subset.refl _) hsorted.perm.subset
  exact Runs.StableSort.unique hwords.weakOrder (fun _ => id) (sort_stable hwords)
    (.of_inOrder hsorted.ordered)

end SortSpec

end DocQuery
