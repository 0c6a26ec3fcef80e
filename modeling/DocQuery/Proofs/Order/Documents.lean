import DocQuery.Proofs.Order.Number
import DocQuery.Sort

/-!
# Order of documents

Comparing documents by sort keys reverses when they are exchanged.  It is transitive on
documents of which, at each key, none blurs two others: none holds a number that no signed
word holds and that shares its nearest double with the different signed words of the two.
Documents that are blurred at a field are not ordered by it.
-/

namespace DocQuery

/-! ## Comparisons -/

/-- Whether a comparison reverses, and is transitive among some elements. -/
structure PreorderAmong {α : Type} (among : α → Prop) (cmp : α → α → Ordering) : Prop where
  swap : ∀ a b, (cmp a b).swap = cmp b a
  trans : ∀ {a b c}, among a → among b → among c →
    cmp a b ≠ .gt → cmp b c ≠ .gt → cmp a c ≠ .gt

namespace PreorderAmong

variable {α : Type} {among : α → Prop} {cmp next : α → α → Ordering} {a b c : α}

theorem eq_gt_iff (h : PreorderAmong among cmp) : cmp a b = .gt ↔ cmp b a = .lt := by
  rw [← h.swap a b, Ordering.swap_eq_lt]

theorem lt_trans_le (h : PreorderAmong among cmp) (ha : among a) (hb : among b) (hc : among c)
    (hab : cmp a b = .lt) (hbc : cmp b c ≠ .gt) : cmp a c = .lt := by
  by_contra hac
  have hca : cmp c a ≠ .gt := fun hgt => hac (h.eq_gt_iff.mp hgt)
  exact h.trans hb hc ha hbc hca (h.eq_gt_iff.mpr hab)

theorem le_trans_lt (h : PreorderAmong among cmp) (ha : among a) (hb : among b) (hc : among c)
    (hab : cmp a b ≠ .gt) (hbc : cmp b c = .lt) : cmp a c = .lt := by
  by_contra hac
  have hca : cmp c a ≠ .gt := fun hgt => hac (h.eq_gt_iff.mp hgt)
  exact h.trans hc ha hb hca hab (h.eq_gt_iff.mpr hbc)

/-- What ties reverses, so it is enough that neither comes before the other. -/
theorem eq_trans (h : PreorderAmong among cmp) (ha : among a) (hb : among b) (hc : among c)
    (hab : cmp a b = .eq) (hbc : cmp b c = .eq) : cmp a c = .eq := by
  have hback {x y : α} (hxy : cmp x y = .eq) : cmp y x = .eq := by
    rw [← h.swap, hxy, Ordering.swap_eq]
  have hac := h.trans ha hb hc (by simp [hab]) (by simp [hbc])
  have hca := h.trans hc hb ha (by simp [hback hbc]) (by simp [hback hab])
  rw [Ne, h.eq_gt_iff] at hca
  cases hcmp : cmp a c with
  | eq => rfl
  | lt => exact absurd hcmp hca
  | gt => exact absurd hcmp hac

theorem constant : PreorderAmong among fun _ _ => .eq where
  swap _ _ := rfl
  trans _ _ _ _ hbc := hbc

theorem reverse (h : PreorderAmong among cmp) :
    PreorderAmong among fun a b => (cmp a b).swap where
  swap a b := congrArg Ordering.swap (h.swap a b)
  trans ha hb hc hab hbc := by
    rw [h.swap] at *
    exact h.trans hc hb ha hbc hab

/-- Where a first comparison ties a second one may decide. -/
theorem andThen (h : PreorderAmong among cmp) (hnext : PreorderAmong among next) :
    PreorderAmong among fun a b => (cmp a b).then (next a b) where
  swap a b := by rw [Ordering.swap_then, h.swap, hnext.swap]
  trans {a b c} ha hb hc hab hbc := by
    cases hfirst : cmp a b with
    | gt => simp [hfirst] at hab
    | lt =>
        have hle : cmp b c ≠ .gt := fun hgt => by simp [hgt] at hbc
        rw [h.lt_trans_le ha hb hc hfirst hle]
        simp
    | eq =>
        cases hsecond : cmp b c with
        | gt => simp [hsecond] at hbc
        | lt =>
            rw [h.le_trans_lt ha hb hc (by simp [hfirst]) hsecond]
            simp
        | eq =>
            rw [hfirst, Ordering.eq_then] at hab
            rw [hsecond, Ordering.eq_then] at hbc
            rw [h.eq_trans ha hb hc hfirst hsecond, Ordering.eq_then]
            exact hnext.trans ha hb hc hab hbc

end PreorderAmong

/-! ## Fields -/

theorem Kind.rank_injective {a b : Kind} (h : a.rank = b.rank) : a = b := by
  cases a <;> cases b <;> first | rfl | cases h

/-- Whether a field holds a number that blurs those of two others. -/
def fieldBlurs : Option Json → Option Json → Option Json → Bool
  | some (.number middle), some (.number a), some (.number b) => middle.blurs a b
  | _, _, _ => false

namespace SortSpec

theorem compareFields_some (a b : Json) :
    compareFields (some a) (some b) =
      if a.kind.rank = b.kind.rank then (a.compare? b).getD .eq
      else compare a.kind.rank b.kind.rank :=
  rfl

theorem compare?_swap (a b : Json) :
    ((a.compare? b).getD .eq).swap = (b.compare? a).getD .eq := by
  cases a <;> cases b <;> try rfl
  · rename_i x y
    cases x <;> cases y <;> rfl
  · exact Number.compare_swap _ _
  · show (Ord.compare _ _).swap = Ord.compare _ _
    exact (Std.OrientedCmp.eq_swap).symm

theorem compareFields_swap (a b : Option Json) :
    (compareFields a b).swap = compareFields b a := by
  cases a with
  | none => cases b <;> rfl
  | some a =>
      cases b with
      | none => rfl
      | some b =>
          rw [compareFields_some, compareFields_some]
          by_cases hrank : a.kind.rank = b.kind.rank
          · rw [if_pos hrank, if_pos hrank.symm, compare?_swap]
          · rw [if_neg hrank, if_neg fun h => hrank h.symm, Nat.compare_swap]

theorem rank_le_of_compareFields {a b : Json}
    (h : compareFields (some a) (some b) ≠ .gt) : a.kind.rank ≤ b.kind.rank := by
  rw [compareFields_some] at h
  by_cases hrank : a.kind.rank = b.kind.rank
  · omega
  · rw [if_neg hrank] at h
    exact Nat.compare_ne_gt.mp h

theorem compare?_trans {a b c : Json} (hkind : a.kind = b.kind) (hkind' : b.kind = c.kind)
    (hab : (a.compare? b).getD .eq ≠ .gt) (hbc : (b.compare? c).getD .eq ≠ .gt)
    (hclear : fieldBlurs (some b) (some a) (some c) = false) :
    (a.compare? c).getD .eq ≠ .gt := by
  cases a with
  | null | array | object => cases c <;> simp [Json.compare?]
  | bool x =>
      cases b <;> cases hkind
      cases c <;> cases hkind'
      rename_i y z
      revert hab hbc
      cases x <;> cases y <;> cases z <;> decide
  | number =>
      cases b <;> cases hkind
      cases c <;> cases hkind'
      exact Number.compare_trans hab hbc hclear
  | string x =>
      cases b <;> cases hkind
      cases c <;> cases hkind'
      rename_i y z
      have hxy : (Ord.compare x y).isLE = true := Ordering.isLE_iff_ne_gt.mpr hab
      have hyz : (Ord.compare y z).isLE = true := Ordering.isLE_iff_ne_gt.mpr hbc
      exact Ordering.isLE_iff_ne_gt.mp (Std.TransCmp.isLE_trans hxy hyz)

/-- Fields are ordered transitively unless the one in the middle blurs the other two. -/
theorem compareFields_trans {a b c : Option Json} (hab : compareFields a b ≠ .gt)
    (hbc : compareFields b c ≠ .gt) (hclear : fieldBlurs b a c = false) :
    compareFields a c ≠ .gt := by
  cases a with
  | none => cases c <;> simp [compareFields]
  | some a =>
      cases b with
      | none => exact absurd rfl hab
      | some b =>
          cases c with
          | none => exact absurd rfl hbc
          | some c =>
              have hleft := rank_le_of_compareFields hab
              have hright := rank_le_of_compareFields hbc
              rw [compareFields_some] at hab hbc ⊢
              by_cases hrank : a.kind.rank = c.kind.rank
              · have hsame : a.kind.rank = b.kind.rank := by omega
                have hsame' : b.kind.rank = c.kind.rank := by omega
                rw [if_pos hsame] at hab
                rw [if_pos hsame'] at hbc
                rw [if_pos hrank]
                exact compare?_trans (Kind.rank_injective hsame) (Kind.rank_injective hsame')
                  hab hbc hclear
              · rw [if_neg hrank]
                exact Nat.compare_ne_gt.mpr (by omega)

theorem compareFields_of_blurs {middle a b : Option Json} (h : fieldBlurs middle a b = true) :
    compareFields a middle = .eq ∧ compareFields middle b = .eq ∧ compareFields a b ≠ .eq := by
  unfold fieldBlurs at h
  split at h
  · exact Number.compare_of_blurs h
  · cases h

/-! ## Documents -/

/-- Whether at a field some document blurs two others. -/
def blursAt (field : String) (documents : List Json) : Bool :=
  documents.any fun middle => documents.any fun a => documents.any fun b =>
    fieldBlurs (middle.field? field) (a.field? field) (b.field? field)

theorem fieldBlurs_of_not_blursAt {field : String} {documents : List Json}
    (hclear : blursAt field documents = false) {a b middle : Json} (ha : a ∈ documents)
    (hb : b ∈ documents) (hmiddle : middle ∈ documents) :
    fieldBlurs (middle.field? field) (a.field? field) (b.field? field) = false := by
  simp only [blursAt, List.any_eq_false, Bool.not_eq_true] at hclear
  exact hclear middle hmiddle a ha b hb

theorem compareByKeys_cons (field : String) (direction : SortDirection)
    (rest : List (String × SortDirection)) (a b : Json) :
    compareByKeys ((field, direction) :: rest) a b =
      (direction.apply (compareFields (a.field? field) (b.field? field))).then
        (compareByKeys rest a b) := by
  rw [compareByKeys]
  cases direction.apply (compareFields (a.field? field) (b.field? field)) <;> rfl

theorem preorderAmong_field {documents : List Json} {field : String}
    (hclear : blursAt field documents = false) (direction : SortDirection) :
    PreorderAmong (· ∈ documents) fun a b =>
      direction.apply (compareFields (a.field? field) (b.field? field)) := by
  have hfield : PreorderAmong (· ∈ documents) fun a b : Json =>
      compareFields (a.field? field) (b.field? field) := by
    constructor
    · intro a b
      exact compareFields_swap _ _
    · intro a b c ha hb hc hab hbc
      exact compareFields_trans hab hbc (fieldBlurs_of_not_blursAt hclear ha hc hb)
  cases direction with
  | asc => exact hfield
  | desc => exact hfield.reverse

theorem preorderAmong_keys {documents : List Json} {keys : List (String × SortDirection)}
    (hclear : ∀ key ∈ keys, blursAt key.1 documents = false) :
    PreorderAmong (· ∈ documents) (compareByKeys keys) := by
  induction keys with
  | nil => exact .constant
  | cons key rest ih =>
      obtain ⟨field, direction⟩ := key
      obtain ⟨hfield, hrest⟩ := List.forall_mem_cons.mp hclear
      have hkeys := (preorderAmong_field hfield direction).andThen (ih hrest)
      simpa only [← compareByKeys_cons] using hkeys

/-- Comparing documents reverses when they are exchanged. -/
theorem compareDocuments_swap (spec : SortSpec) (a b : Json) :
    (spec.compareDocuments a b).swap = spec.compareDocuments b a := by
  -- No document is among none, so nothing is blurred there.
  have hkeys : PreorderAmong (· ∈ ([] : List Json)) (compareByKeys spec.keys) :=
    preorderAmong_keys fun _ _ => rfl
  exact hkeys.swap a b

theorem compareDocuments_of_blurs {field : String} (direction : SortDirection)
    {middle a b : Json}
    (h : fieldBlurs (middle.field? field) (a.field? field) (b.field? field) = true) :
    compareDocuments { keys := [(field, direction)] } a middle = .eq ∧
      compareDocuments { keys := [(field, direction)] } middle b = .eq ∧
      compareDocuments { keys := [(field, direction)] } a b ≠ .eq := by
  have hsingle (x y : Json) : compareDocuments { keys := [(field, direction)] } x y =
      direction.apply (compareFields (x.field? field) (y.field? field)) := by
    rw [compareDocuments, compareByKeys_cons, compareByKeys, Ordering.then_eq]
  obtain ⟨hleft, hright, hne⟩ := compareFields_of_blurs h
  rw [hsingle, hsingle, hsingle, hleft, hright]
  cases direction with
  | asc => exact ⟨rfl, rfl, hne⟩
  | desc => exact ⟨rfl, rfl, fun heq => hne (Ordering.swap_eq_eq.mp heq)⟩

/-- Comparing documents is a total preorder of those of which no one blurs two others at a
sort key, and by a field at which one does it is not. -/
theorem compareDocuments_preorder (spec : SortSpec) (x y z : Json) :
    spec.compareDocuments y x = (spec.compareDocuments x y).swap ∧
      ((∀ key ∈ spec.keys, blursAt key.1 [x, y, z] = false) →
        spec.compareDocuments x y ≠ .gt → spec.compareDocuments y z ≠ .gt →
          spec.compareDocuments x z ≠ .gt) ∧
      ∀ field direction, blursAt field [x, y, z] = true →
        ¬ ∀ a ∈ [x, y, z], ∀ b ∈ [x, y, z], ∀ c ∈ [x, y, z],
          let order := compareDocuments { keys := [(field, direction)] }
          order a b ≠ .gt → order b c ≠ .gt → order a c ≠ .gt := by
  refine ⟨(compareDocuments_swap spec x y).symm, ?_, ?_⟩
  · intro hclear hxy hyz
    exact (preorderAmong_keys hclear).trans (by simp) (by simp) (by simp) hxy hyz
  · intro field direction hblurs htrans
    simp only [blursAt, List.any_eq_true] at hblurs
    obtain ⟨middle, hmiddle, a, ha, b, hb, hblurs⟩ := hblurs
    obtain ⟨hleft, hright, hne⟩ := compareDocuments_of_blurs direction hblurs
    have hleft' := compareDocuments_swap { keys := [(field, direction)] } a middle
    have hright' := compareDocuments_swap { keys := [(field, direction)] } middle b
    have hback := compareDocuments_swap { keys := [(field, direction)] } a b
    rw [hleft, Ordering.swap_eq] at hleft'
    rw [hright, Ordering.swap_eq] at hright'
    -- The two that are blurred tie with the third one, but one of them comes first.
    cases horder : compareDocuments { keys := [(field, direction)] } a b with
    | eq => exact hne horder
    | gt => exact htrans a ha middle hmiddle b hb (by simp [hleft]) (by simp [hright]) horder
    | lt =>
        rw [horder, Ordering.swap_lt] at hback
        exact htrans b hb middle hmiddle a ha (by simp [← hright']) (by simp [← hleft'])
          hback.symm

theorem compareDocuments_not_transitive :
    ¬ ∀ (spec : SortSpec) (x y z : Json), spec.compareDocuments x y ≠ .gt →
      spec.compareDocuments y z ≠ .gt → spec.compareDocuments x z ≠ .gt := by
  intro htrans
  have hgreater := htrans (asc "v") (.object [("v", .number Json.halfway)])
    (.object [("v", .number Json.evenDouble)]) (.object [("v", .number Json.evenInteger)])
    (by decide +kernel) (by decide +kernel)
  revert hgreater
  decide +kernel

/-- By a number and then, backwards, by a name. -/
def numberThenName : SortSpec where
  keys := [("v", .asc), ("name", .desc)]

theorem compareDocuments_preorder_mixed :
    let x := Json.object [("name", .null), ("v", .number Json.evenDouble)]
    let y := Json.object [("v", .number Json.evenInteger)]
    let z := Json.object [("v", .string "")]
    (∀ key ∈ numberThenName.keys, blursAt key.1 [x, y, z] = false) ∧
      numberThenName.compareDocuments y x = .gt ∧
      numberThenName.compareDocuments x z ≠ .gt ∧
      blursAt "v" [x, y, .object [("v", .number Json.halfway)]] = true := by
  intro x y z
  obtain ⟨hswap, htrans, _⟩ := compareDocuments_preorder numberThenName x y z
  have hclear : ∀ key ∈ numberThenName.keys, blursAt key.1 [x, y, z] = false := by
    decide +kernel
  have hxy : numberThenName.compareDocuments x y = .lt := by decide +kernel
  have hyz : numberThenName.compareDocuments y z ≠ .gt := by decide +kernel
  refine ⟨hclear, ?_, htrans hclear (by simp [hxy]) hyz, by decide +kernel⟩
  rw [hswap, hxy, Ordering.swap_lt]

end SortSpec

end DocQuery
