import DocQuery.Proofs.Sorting.Stable
import Mathlib.Data.List.TakeDrop

/-!
# Merging keeps ties

Merging two lists in order gives the stable sort of the two, from whichever end it is
done, and from both at once.  Insertion merges single elements from the back, and the
fixed pattern of tests for four elements merges two pairs, so that short stretches are
sorted stably too.
-/

namespace DocQuery

namespace Runs

variable {α : Type} {among : α → Prop} {less : α → α → Bool} {a b : α}
  {list result left right : List α}

/-! ## From one end -/

theorem mergeUp_nil_left (right : List α) : mergeUp less [] right = right :=
  List.nil_merge right

theorem mergeUp_nil_right (left : List α) : mergeUp less left [] = left :=
  List.merge_right left

theorem mergeUp_cons (a b : α) (left right : List α) :
    mergeUp less (a :: left) (b :: right) =
      if less b a then b :: mergeUp less (a :: left) right
      else a :: mergeUp less left (b :: right) := by
  unfold mergeUp
  rw [List.cons_merge_cons]
  cases less b a <;> rfl

/-- An element that is less than those in order may come in front of them. -/
theorem StableSort.cons_of_less (h : WeakOrder among less) (hleft : ∀ a ∈ left, among a)
    (hb : among b) (hless : ∀ a ∈ left, less b a = true)
    (hordered : InOrder less (b :: right))
    (hresult : StableSort among less (left ++ right) result) :
    StableSort among less (left ++ b :: right) (b :: result) where
  toKeepsTies := by
    have huntied : ∀ a ∈ left, tied less a b = false := by
      intro a ha
      simp [tied, hless a ha]
    exact (KeepsTies.swap_append h hleft hb huntied).trans (hresult.toKeepsTies.cons b)
  ordered := by
    refine inOrder_cons.mpr ⟨fun x hx => ?_, hresult.ordered⟩
    rcases List.mem_append.mp (hresult.perm.subset hx) with hmem | hmem
    · exact h.asymm hb (hleft x hmem) (hless x hmem)
    · exact (inOrder_cons.mp hordered).1 x hmem

theorem StableSort.cons_of_le (hle : ∀ x ∈ list, less x a = false)
    (h : StableSort among less list result) : StableSort among less (a :: list) (a :: result) where
  toKeepsTies := h.toKeepsTies.cons a
  ordered := inOrder_cons.mpr ⟨fun x hx => hle x (h.perm.subset hx), h.ordered⟩

theorem mergeUp_stable (h : WeakOrder among less) (hleft : ∀ a ∈ left, among a)
    (hright : ∀ b ∈ right, among b) (hordered : InOrder less left)
    (hordered' : InOrder less right) :
    StableSort among less (left ++ right) (mergeUp less left right) := by
  induction left generalizing right with
  | nil =>
      rw [mergeUp_nil_left]
      exact .of_inOrder hordered'
  | cons a left ih =>
      induction right with
      | nil =>
          rw [mergeUp_nil_right, List.append_nil]
          exact .of_inOrder hordered
      | cons b right ih' =>
          obtain ⟨ha, hleft'⟩ := List.forall_mem_cons.mp hleft
          obtain ⟨hb, hright'⟩ := List.forall_mem_cons.mp hright
          obtain ⟨hafter, htail⟩ := inOrder_cons.mp hordered
          obtain ⟨hafter', htail'⟩ := inOrder_cons.mp hordered'
          rw [mergeUp_cons]
          by_cases hba : less b a = true
          · rw [if_pos hba]
            have hless : ∀ x ∈ a :: left, less b x = true := by
              refine List.forall_mem_cons.mpr ⟨hba, fun x hx => ?_⟩
              exact h.less_of_less_of_le hb ha (hleft' x hx) hba (hafter x hx)
            exact .cons_of_less h hleft hb hless hordered' (ih' hright' htail')
          · rw [if_neg hba]
            rw [Bool.not_eq_true] at hba
            refine .cons_of_le (fun x hx => ?_) (ih hleft' hright htail hordered')
            rcases List.mem_append.mp hx with hmem | hmem
            · exact hafter x hmem
            rcases List.mem_cons.mp hmem with rfl | hmem
            · exact hba
            · exact h.trans ha hb (hright' x hmem) hba (hafter' x hmem)

/-- Merging from the back is merging from the front, with both lists and the test turned
round. -/
theorem mergeDown_eq (left right : List α) :
    mergeDown less left right =
      (mergeUp (fun a b => less b a) right.reverse left.reverse).reverse :=
  rfl

theorem mergeDown_stable (h : WeakOrder among less) (hleft : ∀ a ∈ left, among a)
    (hright : ∀ b ∈ right, among b) (hordered : InOrder less left)
    (hordered' : InOrder less right) :
    StableSort among less (left ++ right) (mergeDown less left right) := by
  rw [mergeDown_eq]
  apply StableSort.reverse
  rw [List.reverse_append]
  exact mergeUp_stable h.backwards (by simpa using hright) (by simpa using hleft)
    (inOrder_reverse.mpr hordered') (inOrder_reverse.mpr hordered)

theorem merge_stable (h : WeakOrder among less) (hleft : ∀ a ∈ left, among a)
    (hright : ∀ b ∈ right, among b) (hordered : InOrder less left)
    (hordered' : InOrder less right) :
    StableSort among less (left ++ right) (merge less left right) := by
  unfold merge
  split
  · exact mergeUp_stable h hleft hright hordered hordered'
  · exact mergeDown_stable h hleft hright hordered hordered'

/-! ## Insertion -/

theorem insertLast_eq_merge (x : α) (list : List α) :
    insertLast less x list = [x].merge list fun b a => !less b a := by
  induction list with
  | nil => rw [insertLast, List.merge_right]
  | cons last before ih =>
      rw [insertLast, List.cons_merge_cons, ih]
      cases less x last <;> simp

theorem insertAll_cons (sorted : List α) (x : α) (rest : List α) :
    insertAll less sorted (x :: rest) = insertAll less (mergeDown less sorted [x]) rest := by
  unfold insertAll mergeDown
  rw [List.foldl_cons, insertLast_eq_merge, List.reverse_reverse, List.reverse_singleton]

theorem insertAll_stable (h : WeakOrder among less) (hlist : ∀ a ∈ list, among a)
    (hordered : InOrder less list) {rest : List α} (hrest : ∀ a ∈ rest, among a) :
    StableSort among less (list ++ rest) (insertAll less list rest) := by
  induction rest generalizing list with
  | nil =>
      have hself : insertAll less list [] = list := List.reverse_reverse list
      rw [hself, List.append_nil]
      exact .of_inOrder hordered
  | cons x rest ih =>
      obtain ⟨hx, hrest⟩ := List.forall_mem_cons.mp hrest
      have hnext : StableSort among less (list ++ [x]) (mergeDown less list [x]) :=
        mergeDown_stable h hlist (List.forall_mem_singleton.mpr hx) hordered
          (InOrder.short Nat.le.refl)
      have hamong : ∀ a ∈ list ++ [x], among a := by
        simpa [or_imp, forall_and] using ⟨hlist, hx⟩
      rw [insertAll_cons, List.append_cons list x rest]
      exact .of_keepsTies (hnext.toKeepsTies.append (.refl rest))
        (ih (hnext.among_of_mem hamong) hnext.ordered hrest)

/-! ## Four elements -/

theorem mergeUp_singletons (a b : α) :
    mergeUp less [a] [b] = if less b a then [b, a] else [a, b] := by
  rw [mergeUp_cons, mergeUp_nil_left, mergeUp_nil_right]

/-- Of two pairs in order, the least and the greatest are found by one test each, and one
more puts the two that are left in order. -/
theorem mergeUp_pairs (h : WeakOrder among less) {a b c d : α} (ha : among a) (hb : among b)
    (hc : among c) (hd : among d) (hab : less b a = false) (hcd : less d c = false) :
    mergeUp less [a, b] [c, d] =
      let low := if less c a then c else a
      let high := if less d b then b else d
      let left := if less c a then a else if less d b then c else b
      let right := if less d b then d else if less c a then b else c
      let (p, q) := if less right left then (right, left) else (left, right)
      [low, p, q, high] := by
  rw [mergeUp_cons]
  -- Whether the least is from the right pair, and whether the greatest is from the left one.
  by_cases hca : less c a = true <;> by_cases hdb : less d b = true
  · by_cases hda : less d a = true
    · simp [hca, hdb, hda, mergeUp_cons, mergeUp_nil_right]
    · simp [hca, hdb, hda, mergeUp_cons, mergeUp_nil_right]
  · rw [Bool.not_eq_true] at hdb
    have hda : less d a = false := h.trans ha hb hd hab hdb
    simp [hca, hdb, hda, hab, mergeUp_cons, mergeUp_nil_left]
  · have hcb : less c b = true := h.less_of_le_of_less hc hd hb hcd hdb
    simp [hca, hdb, hcb, hcd, mergeUp_cons, mergeUp_nil_right]
  · by_cases hcb : less c b = true
    · simp [hca, hdb, hcb, mergeUp_cons, mergeUp_nil_left]
    · simp [hca, hdb, hcb, mergeUp_cons, mergeUp_nil_left]

theorem sortFour_eq (h : WeakOrder among less) {w x y z : α} (hw : among w) (hx : among x)
    (hy : among y) (hz : among z) :
    sortFour less [w, x, y, z] =
      mergeUp less (mergeUp less [w] [x]) (mergeUp less [y] [z]) := by
  have hpair {p q : α} (hp : among p) (hq : among q) : ∃ a b, among a ∧ among b ∧
      less b a = false ∧ mergeUp less [p] [q] = [a, b] ∧
      (if less q p then (q, p) else (p, q)) = (a, b) := by
    rw [mergeUp_singletons]
    by_cases hless : less q p = true
    · exact ⟨q, p, hq, hp, h.asymm hq hp hless, by simp [hless]⟩
    · exact ⟨p, q, hp, hq, by simpa using hless, by simp [hless]⟩
  obtain ⟨a, b, ha, hb, hab, hmerge, hfirst⟩ := hpair hw hx
  obtain ⟨c, d, hc, hd, hcd, hmerge', hsecond⟩ := hpair hy hz
  rw [hmerge, hmerge', mergeUp_pairs h ha hb hc hd hab hcd]
  simp only [sortFour, hfirst, hsecond]

theorem sortFour_stable (h : WeakOrder among less) (hlist : ∀ a ∈ list, among a)
    (hlength : list.length = 4) : StableSort among less list (sortFour less list) := by
  match list, hlength with
  | [w, x, y, z], _ =>
      simp only [List.forall_mem_cons] at hlist
      obtain ⟨hw, hx, hy, hz, -⟩ := hlist
      have hpair {p q : α} (hp : among p) (hq : among q) :
          StableSort among less [p, q] (mergeUp less [p] [q]) :=
        mergeUp_stable h (List.forall_mem_singleton.mpr hp) (List.forall_mem_singleton.mpr hq)
          (InOrder.short Nat.le.refl) (InOrder.short Nat.le.refl)
      have hfirst := hpair hw hx
      have hsecond := hpair hy hz
      rw [sortFour_eq h hw hx hy hz]
      refine .of_keepsTies (hfirst.toKeepsTies.append hsecond.toKeepsTies) ?_
      exact mergeUp_stable h (hfirst.among_of_mem (by simp [hw, hx]))
        (hsecond.among_of_mem (by simp [hy, hz])) hfirst.ordered hsecond.ordered

/-! ## From both ends -/

/-- Two halves merged with marks that say which one an element is from. -/
def mergeMarked (less : α → α → Bool) (left right : List α) : List (Bool × α) :=
  mergeUp (fun a b => less a.2 b.2) (left.map (true, ·)) (right.map (false, ·))

section Marks

variable (h : WeakOrder among less) (hleft : ∀ a ∈ left, among a)
  (hright : ∀ b ∈ right, among b) (hordered : InOrder less left)
  (hordered' : InOrder less right)

theorem inOrder_mark (mark : Bool) (hlist : InOrder less list) :
    InOrder (fun a b : Bool × α => less a.2 b.2) (list.map (mark, ·)) :=
  List.pairwise_map.mpr hlist

include hleft hright in
theorem among_of_mem_marks :
    ∀ a ∈ left.map (true, ·) ++ right.map (false, ·), among a.2 := by
  simp only [List.mem_append, List.mem_map]
  rintro a (⟨x, hx, rfl⟩ | ⟨x, hx, rfl⟩)
  · exact hleft x hx
  · exact hright x hx

include h hleft hright hordered hordered'

theorem mergeMarked_stable :
    StableSort (fun a : Bool × α => among a.2) (fun a b => less a.2 b.2)
      (left.map (true, ·) ++ right.map (false, ·)) (mergeMarked less left right) :=
  mergeUp_stable (h.comap Prod.snd)
    (fun a ha => among_of_mem_marks hleft hright a (List.mem_append_left _ ha))
    (fun a ha => among_of_mem_marks hleft hright a (List.mem_append_right _ ha))
    (inOrder_mark true hordered) (inOrder_mark false hordered')

/-- From the back the same comes out, marks included, since there is one stable sort. -/
theorem mergeDown_eq_mergeMarked :
    mergeDown (fun a b => less a.2 b.2) (left.map (true, ·)) (right.map (false, ·)) =
      mergeMarked less left right := by
  have hdown := mergeDown_stable (h.comap Prod.snd)
    (fun a ha => among_of_mem_marks hleft hright a (List.mem_append_left _ ha))
    (fun a ha => among_of_mem_marks hleft hright a (List.mem_append_right _ ha))
    (inOrder_mark true hordered) (inOrder_mark false hordered')
  exact StableSort.unique (h.comap Prod.snd) (among_of_mem_marks hleft hright) hdown
    (mergeMarked_stable h hleft hright hordered hordered')

/-- The marks show each half as it was. -/
theorem filter_mergeMarked :
    (mergeMarked less left right).filter Prod.fst = left.map (true, ·) ∧
      ((mergeMarked less left right).filter fun a => !a.1) = right.map (false, ·) := by
  have hmerged := mergeMarked_stable h hleft hright hordered hordered'
  have hamong := among_of_mem_marks hleft hright
  have hlefts := hmerged.filter Prod.fst
  have hrights := hmerged.filter fun a => !a.1
  have hself : (left.map (true, ·) ++ right.map (false, ·)).filter Prod.fst =
      left.map (true, ·) := by
    simp [List.filter_append, List.filter_map, Function.comp_def]
  have hself' : ((left.map (true, ·) ++ right.map (false, ·)).filter fun a => !a.1) =
      right.map (false, ·) := by
    simp [List.filter_append, List.filter_map, Function.comp_def]
  rw [hself] at hlefts
  rw [hself'] at hrights
  constructor
  · exact StableSort.unique (h.comap Prod.snd)
      (fun a ha => hamong a (List.mem_append_left _ ha)) hlefts
      (.of_inOrder (inOrder_mark true hordered))
  · exact StableSort.unique (h.comap Prod.snd)
      (fun a ha => hamong a (List.mem_append_right _ ha)) hrights
      (.of_inOrder (inOrder_mark false hordered'))

theorem map_mergeMarked_stable :
    StableSort among less (left ++ right) ((mergeMarked less left right).map Prod.snd) := by
  have hplain := (mergeMarked_stable h hleft hright hordered hordered').map
    fun x _ => ⟨(true, x), rfl⟩
  simpa [Function.comp_def] using hplain

end Marks

/-- The element in the middle of two merged halves is the next one of the half that it is
from. -/
theorem next_of_marks {lefts rights front back : List (Bool × α)} {mark : Bool} {x : α}
    (hlefts : (front ++ (mark, x) :: back).filter Prod.fst = lefts)
    (hrights : ((front ++ (mark, x) :: back).filter fun a => !a.1) = rights) :
    if mark then lefts[(front.filter Prod.fst).length]? = some (mark, x)
    else rights[front.length - (front.filter Prod.fst).length]? = some (mark, x) := by
  have hcount := (List.filter_append_perm Prod.fst front).length_eq
  rw [List.length_append] at hcount
  subst hlefts hrights
  cases mark with
  | true => simp [List.filter_append]
  | false =>
      have hothers : front.length - (front.filter Prod.fst).length =
          (front.filter fun a => !a.1).length := by omega
      simp [List.filter_append, hothers]

/-- Merging from both ends at once is merging from the front. -/
theorem mergeHalves_eq (h : WeakOrder among less) (hleft : ∀ a ∈ left, among a)
    (hright : ∀ b ∈ right, among b) (hordered : InOrder less left)
    (hordered' : InOrder less right)
    (hlength : right.length = left.length ∨ right.length = left.length + 1) :
    mergeHalves less left right = (mergeMarked less left right).map Prod.snd := by
  have hmerged := mergeMarked_stable h hleft hright hordered hordered'
  obtain ⟨hlefts, hrights⟩ := filter_mergeMarked h hleft hright hordered hordered'
  have hdown := mergeDown_eq_mergeMarked h hleft hright hordered hordered'
  have htotal := hmerged.length_eq
  rw [List.length_append, List.length_map, List.length_map] at htotal
  have hup : mergeUp (fun a b : Bool × α => less a.2 b.2) (left.map (true, ·))
      (right.map (false, ·)) = mergeMarked less left right := rfl
  simp only [mergeHalves, hup, hdown]
  generalize mergeMarked less left right = merged at *
  rcases hlength with hlength | hlength
  · rw [if_pos hlength, hlength, Option.toList_none, List.append_nil, ← List.map_append,
      List.take_append_drop]
  · -- One element is left between the two ends, and its mark says from which half.
    obtain ⟨front, ⟨mark, x⟩, back, hfront, rfl⟩ : ∃ front a back,
        front.length = left.length ∧ merged = front ++ a :: back := by
      have hlt : left.length < merged.length := by omega
      refine ⟨merged.take left.length, merged[left.length], merged.drop (left.length + 1),
        ?_, ?_⟩
      · rw [List.length_take]
        omega
      · rw [← List.drop_eq_getElem_cons hlt, List.take_append_drop]
    have hback : (front ++ (mark, x) :: back).drop (left.length + 1) = back := by
      simp [← hfront]
    have hnext := next_of_marks hlefts hrights
    have hcount := congrArg List.length hlefts
    rw [List.filter_append, List.length_append, List.length_map] at hcount
    rw [hlength, if_neg (by omega), List.take_left' hfront, hback]
    cases mark with
    | true =>
        rw [List.filter_cons_of_pos rfl, List.length_cons] at hcount
        rw [if_pos rfl, List.getElem?_map, Option.map_eq_some_iff] at hnext
        obtain ⟨y, hy, hyx⟩ := hnext
        obtain rfl : y = x := (Prod.mk.inj hyx).2
        rw [if_pos (by omega), hy]
        simp
    | false =>
        rw [List.filter_cons_of_neg (by simp)] at hcount
        rw [if_neg (by simp), List.getElem?_map, Option.map_eq_some_iff, hfront] at hnext
        obtain ⟨y, hy, hyx⟩ := hnext
        obtain rfl : y = x := (Prod.mk.inj hyx).2
        rw [if_neg (by omega), hy]
        simp

theorem mergeHalves_stable (h : WeakOrder among less) (hleft : ∀ a ∈ left, among a)
    (hright : ∀ b ∈ right, among b) (hordered : InOrder less left)
    (hordered' : InOrder less right)
    (hlength : right.length = left.length ∨ right.length = left.length + 1) :
    StableSort among less (left ++ right) (mergeHalves less left right) := by
  rw [mergeHalves_eq h hleft hright hordered hordered' hlength]
  exact map_mergeMarked_stable h hleft hright hordered hordered'

/-! ## Short stretches -/

/-- Two halves sorted on their own and merged are the whole sorted. -/
theorem StableSort.halves (h : WeakOrder among less) {front back : List α}
    (hfront : ∀ a ∈ front, among a) (hback : ∀ a ∈ back, among a)
    (hlength : back.length = front.length ∨ back.length = front.length + 1)
    (hleft : StableSort among less front left) (hright : StableSort among less back right) :
    StableSort among less (front ++ back) (mergeHalves less left right) := by
  refine .of_keepsTies (hleft.toKeepsTies.append hright.toKeepsTies) ?_
  refine mergeHalves_stable h (hleft.among_of_mem hfront) (hright.among_of_mem hback)
    hleft.ordered hright.ordered ?_
  rw [hleft.length_eq, hright.length_eq]
  exact hlength

theorem sortEight_stable (h : WeakOrder among less) (hlist : ∀ a ∈ list, among a)
    (hlength : list.length = 8) : StableSort among less list (sortEight less list) := by
  have hfront : ∀ a ∈ list.take 4, among a := fun a ha => hlist a (List.mem_of_mem_take ha)
  have hback : ∀ a ∈ list.drop 4, among a := fun a ha => hlist a (List.mem_of_mem_drop ha)
  have hfour : (list.take 4).length = 4 := by simp [hlength]
  have hfour' : (list.drop 4).length = 4 := by simp [hlength]
  have hsorted := StableSort.halves h hfront hback (.inl (hfour'.trans hfour.symm))
    (sortFour_stable h hfront hfour) (sortFour_stable h hback hfour')
  rwa [List.take_append_drop] at hsorted

/-- Elements are inserted behind some of a stretch that are sorted. -/
theorem StableSort.insertAll_drop (h : WeakOrder among less) (hlist : ∀ a ∈ list, among a)
    (count : Nat) (hfront : StableSort among less (list.take count) result) :
    StableSort among less list (insertAll less result (list.drop count)) := by
  have htake : ∀ a ∈ list.take count, among a := fun a ha => hlist a (List.mem_of_mem_take ha)
  have hrest : ∀ a ∈ list.drop count, among a := fun a ha => hlist a (List.mem_of_mem_drop ha)
  exact .of_keepsTies hfront.append_drop
    (insertAll_stable h (hfront.among_of_mem htake) hfront.ordered hrest)

theorem sortShort_stable (h : WeakOrder among less) (hlist : ∀ a ∈ list, among a) :
    StableSort among less list (sortShort less list) := by
  by_cases hshort : list.length < 2
  · rw [sortShort, if_pos hshort]
    exact .of_inOrder (.short (by omega))
  have hhalf {half : List α} (hmem : ∀ a ∈ half, among a)
      (hlong : list.length / 2 ≤ half.length) : StableSort among less half
        (if 16 ≤ list.length then insertAll less (sortEight less (half.take 8)) (half.drop 8)
        else if 8 ≤ list.length then insertAll less (sortFour less (half.take 4)) (half.drop 4)
        else insertAll less (half.take 1) (half.drop 1)) := by
    have htake (count : Nat) : ∀ a ∈ half.take count, among a := fun a ha =>
      hmem a (List.mem_of_mem_take ha)
    split
    · have height : (half.take 8).length = 8 := by
        rw [List.length_take]
        omega
      exact .insertAll_drop h hmem 8 (sortEight_stable h (htake 8) height)
    split
    · have hfour : (half.take 4).length = 4 := by
        rw [List.length_take]
        omega
      exact .insertAll_drop h hmem 4 (sortFour_stable h (htake 4) hfour)
    · exact .insertAll_drop h hmem 1 (.of_inOrder (.short (List.length_take_le 1 half)))
  have hfront : ∀ a ∈ list.take (list.length / 2), among a := fun a ha =>
    hlist a (List.mem_of_mem_take ha)
  have hback : ∀ a ∈ list.drop (list.length / 2), among a := fun a ha =>
    hlist a (List.mem_of_mem_drop ha)
  have hlength : (list.take (list.length / 2)).length = list.length / 2 := by
    rw [List.length_take]
    omega
  have hlength' : (list.drop (list.length / 2)).length = list.length - list.length / 2 :=
    List.length_drop
  have hsorted := StableSort.halves h hfront hback (by omega)
    (hhalf hfront (by omega)) (hhalf hback (by omega))
  rw [List.take_append_drop] at hsorted
  rw [sortShort, if_neg hshort]
  exact hsorted

end Runs

end DocQuery
