import DocQuery.Sort.Runs
import Mathlib.Data.List.Basic
import Mathlib.Data.List.Perm.Basic

/-!
# Stable sorts

What sorting is meant to give.  A test is a strict weak order of some elements; a
rearrangement keeps ties if elements that tie with one another stay in their order; a
stable sort is one that puts elements in order and keeps ties.  There is only one.
-/

namespace DocQuery

namespace Runs

variable {α β : Type} {among : α → Prop} {less : α → α → Bool} {a b c x : α}
  {list middle result left right : List α}

/-! ## Weak orders -/

/-- Whether a test is a strict weak order of some elements: of two only one is less, and
what is not less is transitive. -/
structure WeakOrder (among : α → Prop) (less : α → α → Bool) : Prop where
  asymm : ∀ {a b}, among a → among b → less a b = true → less b a = false
  trans : ∀ {a b c}, among a → among b → among c →
    less b a = false → less c b = false → less c a = false

namespace WeakOrder

theorem irrefl (h : WeakOrder among less) (ha : among a) : less a a = false := by
  by_contra hless
  rw [Bool.not_eq_false] at hless
  exact Bool.false_ne_true ((h.asymm ha ha hless).symm.trans hless)

theorem less_of_less_of_le (h : WeakOrder among less) (ha : among a) (hb : among b)
    (hc : among c) (hab : less a b = true) (hbc : less c b = false) : less a c = true := by
  by_contra hac
  rw [Bool.not_eq_true] at hac
  exact Bool.false_ne_true ((h.trans hb hc ha hbc hac).symm.trans hab)

theorem less_of_le_of_less (h : WeakOrder among less) (ha : among a) (hb : among b)
    (hc : among c) (hab : less b a = false) (hbc : less b c = true) : less a c = true := by
  by_contra hac
  rw [Bool.not_eq_true] at hac
  exact Bool.false_ne_true ((h.trans hc ha hb hac hab).symm.trans hbc)

theorem backwards (h : WeakOrder among less) : WeakOrder among fun a b => less b a where
  asymm ha hb hless := h.asymm hb ha hless
  trans ha hb hc hab hbc := h.trans hc hb ha hbc hab

theorem comap (h : WeakOrder among less) (f : β → α) :
    WeakOrder (fun a => among (f a)) fun a b => less (f a) (f b) where
  asymm ha hb hless := h.asymm ha hb hless
  trans ha hb hc hab hbc := h.trans ha hb hc hab hbc

end WeakOrder

/-! ## Ties -/

/-- Whether neither of two elements is less than the other. -/
def tied (less : α → α → Bool) (a b : α) : Bool :=
  !less a b && !less b a

theorem tied_iff : tied less a b = true ↔ less a b = false ∧ less b a = false := by
  simp [tied]

theorem tied_backwards : tied (fun a b => less b a) = tied less := by
  funext a b
  exact Bool.and_comm _ _

theorem WeakOrder.less_congr_left (h : WeakOrder among less) (ha : among a) (hb : among b)
    (hx : among x) (hab : tied less a b = true) : less a x = less b x := by
  obtain ⟨hle, hge⟩ := tied_iff.mp hab
  rw [Bool.eq_iff_iff]
  exact ⟨h.less_of_le_of_less hb ha hx hle, h.less_of_le_of_less ha hb hx hge⟩

theorem WeakOrder.less_congr_right (h : WeakOrder among less) (ha : among a) (hb : among b)
    (hx : among x) (hab : tied less a b = true) : less x a = less x b := by
  rw [← tied_backwards] at hab
  exact h.backwards.less_congr_left ha hb hx hab

theorem WeakOrder.tied_trans (h : WeakOrder among less) (ha : among a) (hb : among b)
    (hx : among x) (hxa : tied less x a = true) (hxb : tied less x b = true) :
    tied less a b = true := by
  obtain ⟨hxb, hbx⟩ := tied_iff.mp hxb
  rw [tied_iff, ← h.less_congr_left hx ha hb hxa, ← h.less_congr_right hx ha hb hxa]
  exact ⟨hxb, hbx⟩

/-! ## Rearrangements -/

/-- Whether no element of a list is less than one in front of it. -/
def InOrder (less : α → α → Bool) (list : List α) : Prop :=
  list.Pairwise fun a b => less b a = false

/-- Whether a list is another one rearranged, with those that tie with one element in their
order. -/
structure KeepsTies (among : α → Prop) (less : α → α → Bool) (list result : List α) :
    Prop where
  perm : result.Perm list
  ties : ∀ x, among x → result.filter (tied less x) = list.filter (tied less x)

/-- Whether a list is another one in order, with ties kept. -/
structure StableSort (among : α → Prop) (less : α → α → Bool) (list result : List α) : Prop
    extends KeepsTies among less list result where
  ordered : InOrder less result

namespace KeepsTies

theorem refl (list : List α) : KeepsTies among less list list where
  perm := .refl list
  ties _ _ := rfl

theorem trans (h : KeepsTies among less list middle) (h' : KeepsTies among less middle result) :
    KeepsTies among less list result where
  perm := h'.perm.trans h.perm
  ties x hx := (h'.ties x hx).trans (h.ties x hx)

theorem append {left' right' : List α} (h : KeepsTies among less left left')
    (h' : KeepsTies among less right right') :
    KeepsTies among less (left ++ right) (left' ++ right') where
  perm := h.perm.append h'.perm
  ties x hx := by rw [List.filter_append, List.filter_append, h.ties x hx, h'.ties x hx]

theorem cons (a : α) (h : KeepsTies among less list result) :
    KeepsTies among less (a :: list) (a :: result) :=
  (refl [a]).append h

theorem reverse (h : KeepsTies among less list result) :
    KeepsTies among less list.reverse result.reverse where
  perm := (List.reverse_perm _).trans (h.perm.trans (List.reverse_perm _).symm)
  ties x hx := by rw [List.filter_reverse, List.filter_reverse, h.ties x hx]

theorem backwards (h : KeepsTies among (fun a b => less b a) list result) :
    KeepsTies among less list result where
  perm := h.perm
  ties x hx := by simpa only [tied_backwards] using h.ties x hx

theorem filter (p : α → Bool) (h : KeepsTies among less list result) :
    KeepsTies among less (list.filter p) (result.filter p) where
  perm := h.perm.filter p
  ties x hx := by
    rw [List.filter_comm, h.ties x hx, List.filter_comm]

theorem map {f : β → α} {list result : List β}
    (h : KeepsTies (fun a => among (f a)) (fun a b => less (f a) (f b)) list result)
    (hfrom : ∀ x, among x → ∃ y, f y = x) :
    KeepsTies among less (list.map f) (result.map f) where
  perm := h.perm.map f
  ties x hx := by
    obtain ⟨y, rfl⟩ := hfrom x hx
    have hties := h.ties y hx
    rw [List.filter_map, List.filter_map]
    exact congrArg (List.map f) hties

/-- The front of a list may be rearranged on its own. -/
theorem append_drop {count : Nat} (h : KeepsTies among less (list.take count) result) :
    KeepsTies among less list (result ++ list.drop count) := by
  have happend := h.append (refl (list.drop count))
  rwa [List.take_append_drop] at happend

theorem length_eq (h : KeepsTies among less list result) : result.length = list.length :=
  h.perm.length_eq

theorem among_of_mem (h : KeepsTies among less list result) (hlist : ∀ a ∈ list, among a) :
    ∀ a ∈ result, among a :=
  fun a ha => hlist a (h.perm.subset ha)

/-- An element passes those that it does not tie with. -/
theorem swap (h : WeakOrder among less) (hb : among b) (hlist : ∀ a ∈ list, among a)
    (huntied : ∀ a ∈ list, tied less a b = false) :
    KeepsTies among less (list ++ [b]) (b :: list) where
  perm := (List.perm_append_singleton b list).symm
  ties x hx := by
    rw [List.filter_append]
    by_cases hxb : tied less x b = true
    · -- What ties with `x` as `b` does would tie with `b`.
      have hnone : list.filter (tied less x) = [] := by
        rw [List.filter_eq_nil_iff]
        intro a ha hxa
        have hab := h.tied_trans (hlist a ha) hb hx hxa hxb
        rw [huntied a ha] at hab
        cases hab
      simp [hnone, hxb]
    · simp [hxb]

theorem swap_append (h : WeakOrder among less) (hlist : ∀ a ∈ left, among a)
    (hb : among b) (huntied : ∀ a ∈ left, tied less a b = false) :
    KeepsTies among less (left ++ b :: right) (b :: (left ++ right)) := by
  have hswap := (swap h hb hlist huntied).append (refl right)
  simpa using hswap

/-- Those that pass a test come first, if those that tie pass it together. -/
theorem partition (h : WeakOrder among less) {p : α → Bool} (hlist : ∀ a ∈ list, among a)
    (hp : ∀ a ∈ list, ∀ b ∈ list, tied less a b = true → p a = p b) :
    KeepsTies among less list (list.filter p ++ list.filter fun a => !p a) where
  perm := List.filter_append_perm p list
  ties x hx := by
    rw [List.filter_append, List.filter_comm, List.filter_comm _ (fun a => !p a)]
    -- All that tie with `x` tie with one another and lie on one side.
    have hside : ∀ a ∈ list.filter (tied less x), ∀ b ∈ list.filter (tied less x),
        p a = p b := by
      intro a ha b hb
      obtain ⟨ha, hxa⟩ := List.mem_filter.mp ha
      obtain ⟨hb, hxb⟩ := List.mem_filter.mp hb
      exact hp a ha b hb (h.tied_trans (hlist a ha) (hlist b hb) hx hxa hxb)
    cases hties : list.filter (tied less x) with
    | nil => rfl
    | cons a rest =>
        rw [hties] at hside
        have hsame : ∀ b ∈ a :: rest, p b = p a := fun b hb =>
          hside b hb a List.mem_cons_self
        by_cases hpa : p a = true
        · rw [List.filter_eq_self.mpr fun b hb => (hsame b hb).trans hpa,
            List.filter_eq_nil_iff.mpr fun b hb => by simp [hsame b hb, hpa],
            List.append_nil]
        · rw [List.filter_eq_nil_iff.mpr fun b hb => by simp [hsame b hb, hpa],
            List.filter_eq_self.mpr fun b hb => by simp [hsame b hb, hpa],
            List.nil_append]

/-- A list in strict order backwards holds no ties. -/
theorem reverse_of_descending (hlist : list.Pairwise fun a b => less b a = true)
    (h : WeakOrder among less) (hamong : ∀ a ∈ list, among a) :
    KeepsTies among less list list.reverse := by
  induction list with
  | nil => exact refl []
  | cons a rest ih =>
      obtain ⟨hfirst, hrest⟩ := List.pairwise_cons.mp hlist
      obtain ⟨ha, hamong⟩ := List.forall_mem_cons.mp hamong
      have huntied : ∀ b ∈ rest.reverse, tied less b a = false := by
        intro b hb
        simp [tied, hfirst b (List.mem_reverse.mp hb)]
      have hback : KeepsTies among less (a :: rest) (a :: rest.reverse) :=
        (ih hrest hamong).cons a
      have hswap : KeepsTies among less (a :: rest.reverse) (rest.reverse ++ [a]) := by
        have hpass := swap h ha (fun b hb => hamong b (List.mem_reverse.mp hb)) huntied
        exact ⟨hpass.perm.symm, fun x hx => (hpass.ties x hx).symm⟩
      rw [List.reverse_cons]
      exact hback.trans hswap

end KeepsTies

/-! ## Order -/

theorem inOrder_cons : InOrder less (a :: list) ↔
    (∀ b ∈ list, less b a = false) ∧ InOrder less list :=
  List.pairwise_cons

theorem inOrder_append : InOrder less (left ++ right) ↔
    InOrder less left ∧ InOrder less right ∧ ∀ a ∈ left, ∀ b ∈ right, less b a = false :=
  List.pairwise_append

theorem inOrder_reverse : InOrder (fun a b => less b a) list.reverse ↔ InOrder less list :=
  List.pairwise_reverse

theorem InOrder.short (h : list.length ≤ 1) : InOrder less list := by
  match list, h with
  | [], _ => exact .nil
  | [a], _ => exact List.pairwise_singleton _ a

namespace StableSort

theorem of_inOrder (h : InOrder less list) : StableSort among less list list where
  toKeepsTies := .refl list
  ordered := h

theorem of_keepsTies (h : KeepsTies among less list middle)
    (h' : StableSort among less middle result) : StableSort among less list result where
  toKeepsTies := h.trans h'.toKeepsTies
  ordered := h'.ordered

theorem reverse (h : StableSort among (fun a b => less b a) list.reverse result) :
    StableSort among less list result.reverse where
  toKeepsTies := by simpa using h.toKeepsTies.backwards.reverse
  ordered := by
    have hordered := h.ordered
    rw [← List.reverse_reverse result] at hordered
    exact inOrder_reverse.mp hordered

theorem append {left' right' : List α} (h : StableSort among less left left')
    (h' : StableSort among less right right')
    (hle : ∀ a ∈ left, ∀ b ∈ right, less b a = false) :
    StableSort among less (left ++ right) (left' ++ right') where
  toKeepsTies := h.toKeepsTies.append h'.toKeepsTies
  ordered := inOrder_append.mpr ⟨h.ordered, h'.ordered, fun a ha b hb =>
    hle a (h.perm.subset ha) b (h'.perm.subset hb)⟩

/-- A list in strict order backwards is sorted by turning it round. -/
theorem of_descending (h : WeakOrder among less) (hlist : ∀ a ∈ list, among a)
    (hdescending : list.Pairwise fun a b => less b a = true) :
    StableSort among less list list.reverse where
  toKeepsTies := .reverse_of_descending hdescending h hlist
  ordered := by
    refine List.pairwise_reverse.mpr (hdescending.imp_of_mem fun ha hb hless => ?_)
    exact h.asymm (hlist _ hb) (hlist _ ha) hless

/-- Two lists in order with the same ties are one. -/
theorem eq_of_ties (h : WeakOrder among less) (hamong : ∀ a ∈ left, among a)
    (hperm : right.Perm left) (hleft : InOrder less left) (hright : InOrder less right)
    (hties : ∀ x, among x → right.filter (tied less x) = left.filter (tied less x)) :
    right = left := by
  induction left generalizing right with
  | nil => exact hperm.eq_nil
  | cons a left ih =>
      cases right with
      | nil => exact absurd hperm.symm.eq_nil (List.cons_ne_nil a left)
      | cons b right =>
          obtain ⟨hafter, htail⟩ := inOrder_cons.mp hleft
          obtain ⟨hbefore, htail'⟩ := inOrder_cons.mp hright
          have ha : among a := hamong a List.mem_cons_self
          have hb : b ∈ a :: left := hperm.subset List.mem_cons_self
          have ha' : a ∈ b :: right := hperm.symm.subset List.mem_cons_self
          have hirrefl := h.irrefl ha
          have hirrefl' := h.irrefl (hamong b hb)
          -- Each of the two first elements is least, so they tie, and both come first
          -- among those that tie with them.
          have hab : tied less a b = true := by
            rw [tied_iff]
            constructor
            · rcases List.mem_cons.mp ha' with rfl | hmem
              · exact hirrefl
              · exact hbefore a hmem
            · rcases List.mem_cons.mp hb with rfl | hmem
              · exact hirrefl
              · exact hafter b hmem
          have haa : tied less a a = true := tied_iff.mpr ⟨hirrefl, hirrefl⟩
          have hfirst := hties a ha
          rw [List.filter_cons_of_pos hab, List.filter_cons_of_pos haa] at hfirst
          obtain rfl : b = a := (List.cons.inj hfirst).1
          have hrest : ∀ x, among x →
              right.filter (tied less x) = left.filter (tied less x) := by
            intro x hx
            have hboth := hties x hx
            by_cases hxb : tied less x b = true
            · rw [List.filter_cons_of_pos hxb, List.filter_cons_of_pos hxb] at hboth
              exact (List.cons.inj hboth).2
            · rwa [List.filter_cons_of_neg hxb, List.filter_cons_of_neg hxb] at hboth
          rw [ih (fun a ha => hamong a (List.mem_cons_of_mem b ha)) hperm.cons_inv htail
            htail' hrest]

/-- There is only one stable sort of a list. -/
theorem unique (h : WeakOrder among less) (hlist : ∀ a ∈ list, among a)
    (hleft : StableSort among less list left) (hright : StableSort among less list right) :
    left = right :=
  eq_of_ties h (hright.among_of_mem hlist) (hleft.perm.trans hright.perm.symm)
    hright.ordered hleft.ordered fun x hx => (hleft.ties x hx).trans (hright.ties x hx).symm

theorem filter (p : α → Bool) (h : StableSort among less list result) :
    StableSort among less (list.filter p) (result.filter p) where
  toKeepsTies := h.toKeepsTies.filter p
  ordered := h.ordered.filter p

theorem map {f : β → α} {list result : List β}
    (h : StableSort (fun a => among (f a)) (fun a b => less (f a) (f b)) list result)
    (hfrom : ∀ x, among x → ∃ y, f y = x) :
    StableSort among less (list.map f) (result.map f) where
  toKeepsTies := h.toKeepsTies.map hfrom
  ordered := List.pairwise_map.mpr h.ordered

/-- Elements that tie stand in the list as they stand in the stable sort. -/
theorem sublist_of_tied (h : StableSort among less list result) (ha : among a)
    (hself : tied less a a = true) (hab : tied less a b = true)
    (hsublist : [a, b].Sublist result) : [a, b].Sublist list := by
  have hfiltered := hsublist.filter (tied less a)
  rw [List.filter_cons_of_pos hself, List.filter_cons_of_pos hab, List.filter_nil,
    h.ties a ha] at hfiltered
  exact hfiltered.trans List.filter_sublist

/-- Sorting by a second test and then by a first one is sorting by both, the first one
first. -/
theorem lexicographic {first next both : α → α → Bool} (h : WeakOrder among first)
    (hboth : ∀ a b, both a b = (first a b || tied first a b && next a b))
    (hlist : ∀ a ∈ list, among a) (hnext : StableSort among next list middle)
    (hfirst : StableSort among first middle result) : StableSort among both list result where
  perm := hfirst.perm.trans hnext.perm
  ties x hx := by
    have htied : tied both x = fun a => tied first x a && tied next x a := by
      funext a
      simp only [tied, hboth]
      cases first x a <;> cases first a x <;> cases next x a <;> rfl
    rw [htied, ← List.filter_filter, ← List.filter_filter, ← hnext.ties x hx]
    rw [List.filter_comm, hfirst.ties x hx, List.filter_comm]
  ordered := by
    refine List.pairwise_iff_forall_sublist.mpr fun {a b} hsublist => ?_
    have ha : among a := hfirst.among_of_mem (hnext.among_of_mem hlist) a
      (hsublist.subset List.mem_cons_self)
    have hba : first b a = false := List.pairwise_iff_forall_sublist.mp hfirst.ordered hsublist
    rw [hboth, hba, Bool.false_or]
    cases hab : first a b with
    | true => simp [tied, hab]
    | false =>
        -- Where the first test ties, the order is that of the list sorted by the second one.
        have hself : tied first a a = true := tied_iff.mpr ⟨h.irrefl ha, h.irrefl ha⟩
        have hmiddle := hfirst.sublist_of_tied ha hself (tied_iff.mpr ⟨hab, hba⟩) hsublist
        rw [List.pairwise_iff_forall_sublist.mp hnext.ordered hmiddle, Bool.and_false]

end StableSort

end Runs

end DocQuery
