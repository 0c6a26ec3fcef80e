import DocQuery.Proofs.Sorting.Merging

/-!
# Sorting by runs is stable

By a strict weak order the sort puts a list in order and keeps ties.  Each run holds the
stretch that it was taken from, joining neighbours never moves an element past one that it
ties with, and what is parted at a pivot is parted between elements that do not tie.
-/

namespace DocQuery

namespace Runs

variable {α : Type} {among : α → Prop} {less : α → α → Bool} {a b : α} {list : List α}

/-! ## Stretches -/

theorem chainLength_le (test : α → α → Bool) (list : List α) :
    chainLength test list ≤ list.length := by
  fun_induction chainLength test list with
  | case1 => exact Nat.le.refl
  | case2 => exact Nat.le.refl
  | case3 a b rest htest ih =>
      rw [List.length_cons]
      omega
  | case4 a b rest htest =>
      rw [List.length_cons]
      omega

theorem chainLength_pos (test : α → α → Bool) (a : α) (rest : List α) :
    0 < chainLength test (a :: rest) := by
  cases rest with
  | nil => exact Nat.one_pos
  | cons b rest =>
      rw [chainLength]
      split <;> omega

/-- Neighbours that pass a test make a chain, and by transitivity any two of it are
related. -/
theorem pairwise_take_chainLength {test : α → α → Bool} {r : α → α → Prop}
    (htest : ∀ a b, test a b = true → r a b)
    (htrans : ∀ a b c, among a → among b → among c → r a b → r b c → r a c)
    (hlist : ∀ a ∈ list, among a) : (list.take (chainLength test list)).Pairwise r := by
  fun_induction chainLength test list with
  | case1 => exact .nil
  | case2 a => exact List.pairwise_singleton r a
  | case4 a b rest hab => exact List.pairwise_singleton r a
  | case3 a b rest hab ih =>
      obtain ⟨ha, hrest⟩ := List.forall_mem_cons.mp hlist
      have hchain := ih hrest
      rw [List.take_succ_cons]
      refine List.pairwise_cons.mpr ⟨fun x hx => ?_, hchain⟩
      have hx' : x ∈ b :: rest := List.mem_of_mem_take hx
      -- The chain behind `a` starts at `b`.
      obtain ⟨count, hcount⟩ := Nat.exists_eq_add_of_lt (chainLength_pos test b rest)
      rw [Nat.zero_add] at hcount
      rw [hcount, List.take_succ_cons] at hx hchain
      rcases List.mem_cons.mp hx with rfl | hmem
      · exact htest a x hab
      · exact htrans a b x ha (hrest b List.mem_cons_self) (hrest x hx') (htest a b hab)
          ((List.pairwise_cons.mp hchain).1 x hmem)

theorem orderedFront_stable (h : WeakOrder among less) (hlist : ∀ a ∈ list, among a) :
    StableSort among less (list.take (orderedFront less list).length)
      (orderedFront less list) := by
  unfold orderedFront
  split
  · rename_i a b rest
    split
    · rw [List.length_reverse, List.length_take_of_le (chainLength_le _ _)]
      refine .of_descending h (fun x hx => hlist x (List.mem_of_mem_take hx)) ?_
      refine pairwise_take_chainLength (fun _ _ => id) (fun x y z hx hy hz hxy hyz => ?_) hlist
      exact h.less_of_less_of_le hz hy hx hyz (h.asymm hy hx hxy)
    · rw [List.length_take_of_le (chainLength_le _ _)]
      refine .of_inOrder (pairwise_take_chainLength (fun x y hxy => ?_)
        (fun x y z hx hy hz hxy hyz => ?_) hlist)
      · simpa using hxy
      · exact h.trans hx hy hz hxy hyz
  · rename_i hshort
    rw [List.take_length]
    refine .of_inOrder (.short ?_)
    match list, hshort with
    | [], _ => exact Nat.zero_le 1
    | [a], _ => exact Nat.le.refl
    | a :: b :: rest, hshort => exact absurd rfl (hshort a b rest)

theorem orderedFront_pos (less : α → α → Bool) (hlist : list ≠ []) :
    0 < (orderedFront less list).length := by
  match list, hlist with
  | [a], _ => exact Nat.one_pos
  | a :: b :: rest, _ =>
      have hpos := chainLength_pos (fun x y => less y x) a (b :: rest)
      have hpos' := chainLength_pos (fun x y => !less y x) a (b :: rest)
      rw [orderedFront]
      split
      · rwa [List.length_reverse, List.length_take_of_le (chainLength_le _ _)]
      · rwa [List.length_take_of_le (chainLength_le _ _)]

/-! ## Runs -/

/-- Whether a run holds elements that are ordered, and holds them in order if it says so
or if all runs are to be sorted at once. -/
structure Run.Fits (among : α → Prop) (less : α → α → Bool) (now : Bool) (run : Run α) :
    Prop where
  among : ∀ a ∈ run.elements, among a
  ordered : run.sorted = true → InOrder less run.elements
  sorted : now = true → run.sorted = true

theorem firstRun_keepsTies (h : WeakOrder among less) (hlist : ∀ a ∈ list, among a)
    (now : Bool) (enough : Nat) :
    KeepsTies among less (list.take (firstRun less now enough list).elements.length)
      (firstRun less now enough list).elements := by
  have htake (count : Nat) : list.take (list.take count).length = list.take count := by
    rw [List.length_take, List.take_eq_take_iff]
    omega
  simp only [firstRun]
  split
  · exact (orderedFront_stable h hlist).toKeepsTies
  split
  · have hshort : StableSort among less (list.take shortLength)
        (sortShort less (list.take shortLength)) :=
      sortShort_stable h fun a ha => hlist a (List.mem_of_mem_take ha)
    rw [hshort.length_eq, htake]
    exact hshort.toKeepsTies
  · rw [htake]
    exact .refl _

theorem firstRun_fits (h : WeakOrder among less) (hlist : ∀ a ∈ list, among a)
    (now : Bool) (enough : Nat) : (firstRun less now enough list).Fits among less now where
  among := (firstRun_keepsTies h hlist now enough).among_of_mem fun a ha =>
    hlist a (List.mem_of_mem_take ha)
  ordered := by
    simp only [firstRun]
    split
    · exact fun _ => (orderedFront_stable h hlist).ordered
    split
    · exact fun _ => (sortShort_stable h fun a ha => hlist a (List.mem_of_mem_take ha)).ordered
    · exact fun hsorted => absurd hsorted Bool.false_ne_true
  sorted hnow := by
    simp only [firstRun, hnow]
    split <;> rfl

theorem firstRun_pos (h : WeakOrder among less) (hlist : ∀ a ∈ list, among a) (now : Bool)
    (enough : Nat) (hne : list ≠ []) :
    0 < (firstRun less now enough list).elements.length := by
  have hordered := orderedFront_pos less hne
  have hlength := List.length_pos_of_ne_nil hne
  simp only [firstRun]
  split
  · exact hordered
  split
  · rw [(sortShort_stable h fun a ha => hlist a (List.mem_of_mem_take ha)).length_eq,
      List.length_take, shortLength]
    omega
  · rw [List.length_take]
    omega

section Joining

variable {now : Bool} {quick : List α → List α}
  (h : WeakOrder among less)
  (hquick : now = false → ∀ list : List α, (∀ a ∈ list, among a) →
    StableSort among less list (quick list))

include hquick in
theorem Run.Fits.ready {run : Run α} (hrun : run.Fits among less now) :
    StableSort among less run.elements
      (if run.sorted then run.elements else quick run.elements) := by
  split
  · rename_i hsorted
    exact .of_inOrder (hrun.ordered hsorted)
  · rename_i hsorted
    have hnow : now = false := by
      rw [← Bool.not_eq_true]
      exact fun hnow => hsorted (hrun.sorted hnow)
    exact hquick hnow _ hrun.among

include h hquick

theorem Run.Fits.join {left right : Run α} (hleft : left.Fits among less now)
    (hright : right.Fits among less now) :
    (Run.join less quick left right).Fits among less now ∧
      KeepsTies among less (left.elements ++ right.elements)
        (Run.join less quick left right).elements := by
  have hamong : ∀ a ∈ left.elements ++ right.elements, among a := fun a ha =>
    (List.mem_append.mp ha).elim (hleft.among a) (hright.among a)
  simp only [Run.join]
  split
  · have hready := hleft.ready hquick
    have hready' := hright.ready hquick
    have hmerge := merge_stable h (hready.among_of_mem hleft.among)
      (hready'.among_of_mem hright.among) hready.ordered hready'.ordered
    have hwhole := StableSort.of_keepsTies (hready.toKeepsTies.append hready'.toKeepsTies) hmerge
    exact ⟨⟨hwhole.among_of_mem hamong, fun _ => hwhole.ordered, fun _ => rfl⟩,
      hwhole.toKeepsTies⟩
  · rename_i hunsorted
    refine ⟨⟨hamong, fun hsorted => absurd hsorted Bool.false_ne_true, fun hnow => ?_⟩, .refl _⟩
    exact absurd (by simp [hleft.sorted hnow]) hunsorted

/-- The elements of waiting runs, of which the last comes first. -/
def waiting : List (Run α × Nat) → List α
  | [] => []
  | (run, _) :: before => waiting before ++ run.elements

theorem collapse_keepsTies (depth : Nat) {before : List (Run α × Nat)} {run : Run α}
    (hbefore : ∀ left ∈ before, left.1.Fits among less now) (hrun : run.Fits among less now) :
    let after := collapse (Run.join less quick) depth before run
    (∀ left ∈ after.1, left.1.Fits among less now) ∧ after.2.Fits among less now ∧
      KeepsTies among less (waiting before ++ run.elements)
        (waiting after.1 ++ after.2.elements) := by
  induction before generalizing run with
  | nil => exact ⟨hbefore, hrun, .refl _⟩
  | cons first before ih =>
      obtain ⟨left, meeting⟩ := first
      obtain ⟨hleft, hothers⟩ := List.forall_mem_cons.mp hbefore
      rw [collapse]
      split
      · obtain ⟨hjoin, hties⟩ := Run.Fits.join h hquick hleft hrun
        obtain ⟨hafter, hlast, hkept⟩ := ih hothers hjoin
        refine ⟨hafter, hlast, .trans ?_ hkept⟩
        rw [waiting, List.append_assoc]
        exact (KeepsTies.refl _).append hties
      · exact ⟨hbefore, hrun, .refl _⟩

omit h hquick in
/-- All waiting runs meet the last one at the top of the tree. -/
theorem collapse_zero (join : Run α → Run α → Run α) (before : List (Run α × Nat))
    (run : Run α) : (collapse join 0 before run).1 = [] := by
  induction before generalizing run with
  | nil => rfl
  | cons first before ih =>
      rw [collapse, if_pos (Nat.zero_le _)]
      exact ih _

theorem collapse_zero_keepsTies {before : List (Run α × Nat)} {run : Run α}
    (hbefore : ∀ left ∈ before, left.1.Fits among less now) (hrun : run.Fits among less now) :
    let whole := (collapse (Run.join less quick) 0 before run).2
    whole.Fits among less now ∧
      KeepsTies among less (waiting before ++ run.elements) whole.elements := by
  obtain ⟨-, hwhole, hties⟩ := collapse_keepsTies h hquick 0 hbefore hrun
  rw [collapse_zero] at hties
  exact ⟨hwhole, hties⟩

omit h hquick in
theorem joinRuns_nil (take : List α → Run α) (join : Run α → Run α → Run α)
    (length fuel : Nat) (before : List (Run α × Nat)) (run : Run α) (position : Nat) :
    joinRuns take join length fuel before run position [] = (collapse join 0 before run).2 := by
  cases fuel <;> rfl

/-- Joining runs leaves all elements in one run, with ties kept. -/
theorem joinRuns_keepsTies (enough length position : Nat) {fuel : Nat}
    {before : List (Run α × Nat)} {run : Run α} {rest : List α}
    (hbefore : ∀ left ∈ before, left.1.Fits among less now) (hrun : run.Fits among less now)
    (hrest : ∀ a ∈ rest, among a) (hfuel : rest.length ≤ fuel) :
    let whole := joinRuns (firstRun less now enough) (Run.join less quick) length fuel before
      run position rest
    whole.Fits among less now ∧
      KeepsTies among less (waiting before ++ run.elements ++ rest) whole.elements := by
  -- The waiting runs, the last run and the rest make up the list, in this order.  Each step
  -- takes at least one element from the rest, so the fuel lasts.
  induction fuel generalizing before run position rest with
  | zero =>
      obtain rfl : rest = [] := List.eq_nil_of_length_eq_zero (by omega)
      rw [joinRuns_nil, List.append_nil]
      exact collapse_zero_keepsTies h hquick hbefore hrun
  | succ fuel ih =>
      cases rest with
      | nil =>
          rw [joinRuns_nil, List.append_nil]
          exact collapse_zero_keepsTies h hquick hbefore hrun
      | cons first others =>
          have hnext := firstRun_fits h hrest now enough
          have hties := firstRun_keepsTies h hrest now enough
          have hpos := firstRun_pos h hrest now enough (List.cons_ne_nil first others)
          rw [joinRuns]
          swap
          · exact List.cons_ne_nil first others
          generalize first :: others = rest at *
          generalize firstRun less now enough rest = next at *
          generalize meetingDepth length (position - run.elements.length) position
            (position + next.elements.length) = depth
          obtain ⟨hbefore', hrun', hkept⟩ := collapse_keepsTies h hquick depth hbefore hrun
          generalize collapse (Run.join less quick) depth before run = after at *
          have hwaiting : ∀ left ∈ (after.2, depth) :: after.1,
              left.1.Fits among less now :=
            List.forall_mem_cons.mpr ⟨hrun', hbefore'⟩
          have hless : (rest.drop next.elements.length).length ≤ fuel := by
            rw [List.length_drop]
            omega
          obtain ⟨hwhole, hkept'⟩ := ih (position + next.elements.length) hwaiting hnext
            (fun a ha => hrest a (List.mem_of_mem_drop ha)) hless
          refine ⟨hwhole, .trans ?_ hkept'⟩
          rw [waiting, List.append_assoc _ next.elements]
          exact hkept.append hties.append_drop

theorem sortRuns_stable (hlist : ∀ a ∈ list, among a) :
    StableSort among less list (sortRuns less now quick list) := by
  have hfirst := firstRun_fits h hlist now (enoughFor list.length)
  have hties := firstRun_keepsTies h hlist now (enoughFor list.length)
  simp only [sortRuns]
  generalize firstRun less now (enoughFor list.length) list = first at *
  have hless : (list.drop first.elements.length).length ≤ list.length := by
    rw [List.length_drop]
    omega
  obtain ⟨hwhole, hkept⟩ := joinRuns_keepsTies h hquick (enoughFor list.length) list.length
    first.elements.length (List.forall_mem_nil _) hfirst
    (fun a ha => hlist a (List.mem_of_mem_drop ha)) hless
  exact .of_keepsTies (hties.append_drop.trans hkept) (hwhole.ready hquick)

end Joining

/-! ## Partition -/

/-- Parting a list at one of its elements is filtering it, if the test agrees on that
element. -/
theorem part_eq (test : α → Bool) {place : Nat} {pivot : α} {passes : Bool}
    (hpivot : list[place]? = some pivot) (hpasses : test pivot = passes) :
    part test place passes list = (list.filter test, list.filter fun a => !test a) := by
  have hsame : ∀ a ∈ list.zipIdx,
      (if a.2 = place then passes else test a.1) = test a.1 := by
    rintro ⟨a, i⟩ ha
    have hget := List.mk_mem_zipIdx_iff_getElem?.mp ha
    dsimp only at hget ⊢
    split
    · rename_i hi
      rw [hi, hpivot, Option.some.injEq] at hget
      rw [← hget, hpasses]
    · rfl
  have hfirsts (p : α → Bool) : (list.zipIdx.filter fun a => p a.1).map Prod.fst =
      list.filter p := by
    have hmap := List.filter_map (p := p) (f := Prod.fst) (l := list.zipIdx)
    rw [List.zipIdx_map_fst] at hmap
    exact hmap.symm
  simp only [part, List.partition_eq_filter_filter]
  have hothers : list.zipIdx.filter (not ∘ fun x => if x.2 = place then passes else test x.1) =
      list.zipIdx.filter fun x => !test x.1 :=
    List.filter_congr fun a ha => congrArg not (hsame a ha)
  rw [List.filter_congr hsame, hothers, hfirsts, hfirsts fun a => !test a]

theorem medianOfThree_lt {test : Nat → Nat → Bool} {a b c bound : Nat} (ha : a < bound)
    (hb : b < bound) (hc : c < bound) : medianOfThree test a b c < bound := by
  unfold medianOfThree
  split
  · split
    · exact hb
    · exact hc
  · exact ha

/-- A median is taken from the stretches that start at the three places. -/
theorem medianOfMedians_lt {test : Nat → Nat → Bool} (fuel : Nat) {length a b c bound : Nat}
    (hlength : 0 < length) (ha : a + length ≤ bound) (hb : b + length ≤ bound)
    (hc : c + length ≤ bound) : medianOfMedians test fuel length a b c < bound := by
  induction fuel generalizing length a b c with
  | zero => exact medianOfThree_lt (by omega) (by omega) (by omega)
  | succ fuel ih =>
      rw [medianOfMedians]
      split
      · have hinner {start : Nat} (hstart : start + length ≤ bound) :
            medianOfMedians test fuel (length / 8) start (start + length / 8 * 4)
              (start + length / 8 * 7) < bound :=
          ih (by omega) (by omega) (by omega) (by omega)
        exact medianOfThree_lt (hinner ha) (hinner hb) (hinner hc)
      · exact medianOfThree_lt (by omega) (by omega) (by omega)

theorem pivotPlace_lt (hlength : shortLength < list.length) :
    pivotPlace less list < list.length := by
  rw [shortLength] at hlength
  simp only [pivotPlace]
  split
  · exact medianOfThree_lt (by omega) (by omega) (by omega)
  · exact medianOfMedians_lt list.length (by omega) (by omega) (by omega) (by omega)

/-- A list of which no element is less than the pivot starts with those that tie with it. -/
theorem StableSort.behind_ties (h : WeakOrder among less) {pivot : α} {result : List α}
    (hpivot : among pivot) (hlist : ∀ a ∈ list, among a)
    (hleast : ∀ a ∈ list, less a pivot = false)
    (hrest : StableSort among less (list.filter fun a => !!less pivot a) result) :
    StableSort among less list ((list.filter fun a => !less pivot a) ++ result) := by
  have hparted : KeepsTies among less list
      ((list.filter fun a => !less pivot a) ++ list.filter fun a => !!less pivot a) :=
    .partition h hlist fun a ha b hb hab =>
      congrArg _ (h.less_congr_right (hlist a ha) (hlist b hb) hpivot hab)
  have hfirst : ∀ a ∈ list.filter fun a => !less pivot a, ∀ b ∈ list, less b a = false := by
    intro a ha b hb
    obtain ⟨ha, hle⟩ := List.mem_filter.mp ha
    rw [Bool.not_eq_true'] at hle
    exact h.trans (hlist a ha) hpivot (hlist b hb) hle (hleast b hb)
  have hties : InOrder less (list.filter fun a => !less pivot a) :=
    List.pairwise_iff_forall_sublist.mpr fun {a b} hsublist =>
      hfirst a (hsublist.subset (by simp)) b (List.mem_of_mem_filter (hsublist.subset (by simp)))
  exact .of_keepsTies hparted ((StableSort.of_inOrder hties).append hrest fun a ha b hb =>
    hfirst a ha b (List.mem_of_mem_filter hb))

theorem StableSort.parted (h : WeakOrder among less) {pivot : α} {low high : List α}
    (hpivot : among pivot) (hlist : ∀ a ∈ list, among a)
    (hlow : StableSort among less (list.filter fun a => less a pivot) low)
    (hhigh : StableSort among less (list.filter fun a => !less a pivot) high) :
    StableSort among less list (low ++ high) := by
  have hparted : KeepsTies among less list
      ((list.filter fun a => less a pivot) ++ list.filter fun a => !less a pivot) :=
    .partition h hlist fun a ha b hb hab =>
      h.less_congr_left (hlist a ha) (hlist b hb) hpivot hab
  refine .of_keepsTies hparted (hlow.append hhigh fun a ha b hb => ?_)
  obtain ⟨ha, hless⟩ := List.mem_filter.mp ha
  obtain ⟨hb, hle⟩ := List.mem_filter.mp hb
  rw [Bool.not_eq_true'] at hle
  exact h.trans (hlist a ha) hpivot (hlist b hb) (h.asymm (hlist a ha) hpivot hless) hle

/-- A long list is parted at one of its elements, into those that are less and those that
are not, or, if none is less, into those that tie with it and those behind. -/
theorem exists_quicksort_eq (h : WeakOrder among less) (hlist : ∀ a ∈ list, among a)
    {fuel limit : Nat} (ancestor : Option α) (hlong : shortLength < list.length)
    (hlimit : limit ≠ 0) :
    ∃ pivot ∈ list, quicksort less (fuel + 1) limit ancestor list =
      if (ancestor.any fun other => !less other pivot) ||
          (list.filter fun a => less a pivot).isEmpty then
        (list.filter fun a => !less pivot a) ++
          quicksort less fuel (limit - 1) none (list.filter fun a => !!less pivot a)
      else
        quicksort less fuel (limit - 1) ancestor (list.filter fun a => less a pivot) ++
          quicksort less fuel (limit - 1) (some pivot)
            (list.filter fun a => !less a pivot) := by
  have hplace : pivotPlace less list < list.length := pivotPlace_lt hlong
  have hget := List.getElem?_eq_getElem hplace
  have hmem : list[pivotPlace less list] ∈ list := List.getElem_mem hplace
  have hirrefl := h.irrefl (hlist _ hmem)
  refine ⟨_, hmem, ?_⟩
  rw [quicksort, if_neg (by omega), if_neg hlimit]
  simp only [hget]
  rw [part_eq (fun a => less a list[pivotPlace less list]) hget hirrefl,
    part_eq (fun a => !less list[pivotPlace less list] a) hget (by simp [hirrefl])]

theorem quicksort_stable (h : WeakOrder among less) (fuel : Nat) {limit : Nat}
    {ancestor : Option α} (hlist : ∀ a ∈ list, among a)
    (hancestor : ∀ other ∈ ancestor, among other ∧ ∀ a ∈ list, less a other = false) :
    StableSort among less list (quicksort less fuel limit ancestor list) := by
  induction fuel generalizing limit ancestor list with
  | zero => exact sortShort_stable h hlist
  | succ fuel ih =>
      by_cases hlong : list.length ≤ shortLength
      · rw [quicksort, if_pos hlong]
        exact sortShort_stable h hlist
      by_cases hlimit : limit = 0
      · have hruns : StableSort among less list (sortRuns less true id list) :=
          sortRuns_stable h nofun hlist
        rwa [quicksort, if_neg hlong, if_pos hlimit]
      obtain ⟨pivot, hmem, hparts⟩ :=
        exists_quicksort_eq h hlist ancestor (Nat.lt_of_not_le hlong) hlimit
      have hpivot : among pivot := hlist pivot hmem
      have hfiltered {p : α → Bool} : ∀ a ∈ list.filter p, among a := fun a ha =>
        hlist a (List.mem_of_mem_filter ha)
      rw [hparts]
      split
      · rename_i hties
        have hleast : ∀ a ∈ list, less a pivot = false := by
          intro a ha
          rcases Bool.or_eq_true_iff.mp hties with hany | hempty
          · obtain ⟨other, hother, hle⟩ := (Option.any_eq_true _ _).mp hany
            obtain ⟨hamong, hbehind⟩ := hancestor other hother
            rw [Bool.not_eq_true'] at hle
            exact h.trans hpivot hamong (hlist a ha) hle (hbehind a ha)
          · simpa using List.filter_eq_nil_iff.mp (List.isEmpty_iff.mp hempty) a ha
        exact .behind_ties h hpivot hlist hleast (ih hfiltered nofun)
      · refine .parted h hpivot hlist (ih hfiltered fun other hother => ?_)
          (ih hfiltered fun other hother => ?_)
        · obtain ⟨hamong, hbehind⟩ := hancestor other hother
          exact ⟨hamong, fun a ha => hbehind a (List.mem_of_mem_filter ha)⟩
        · obtain rfl : pivot = other := Option.some.inj hother
          exact ⟨hpivot, fun a ha => by simpa using (List.mem_filter.mp ha).2⟩

/-! ## The sort -/

/-- By a strict weak order the sort is stable. -/
theorem sort_stable (h : WeakOrder among less) (hlist : ∀ a ∈ list, among a) :
    StableSort among less list (sort less list) := by
  rw [sort]
  split
  · exact insertAll_stable h (List.forall_mem_nil among) .nil hlist
  · exact sortRuns_stable h (fun _ list hlist => quicksort_stable h _ hlist nofun) hlist

theorem stableSort_iff (h : WeakOrder among less) (hlist : ∀ a ∈ list, among a)
    {result : List α} : StableSort among less list result ↔ result = sort less list := by
  constructor
  · exact fun hresult => StableSort.unique h hlist hresult (sort_stable h hlist)
  · rintro rfl
    exact sort_stable h hlist

/-! ## Places -/

theorem pairwise_zipIdx_lt (list : List α) :
    list.zipIdx.Pairwise fun a b => a.2 < b.2 := by
  have hindices : (list.zipIdx.map Prod.snd).Pairwise (· < ·) := by
    rw [List.zipIdx_map_snd]
    exact List.pairwise_lt_range'
  exact List.pairwise_map.mp hindices

/-- A list is the stable sort of another one if it is made of its elements with their
places, where of any two the lesser one comes first, or the one that came first if they
tie. -/
theorem stableSort_iff_exists_placed (h : WeakOrder among less) (hlist : ∀ a ∈ list, among a)
    {result : List α} : StableSort among less list result ↔
      ∃ placed : List (α × Nat), placed.Perm list.zipIdx ∧ placed.map Prod.fst = result ∧
        placed.Pairwise fun a b =>
          less a.1 b.1 = true ∨ tied less a.1 b.1 = true ∧ a.2 < b.2 := by
  have hzip : ∀ a ∈ list.zipIdx, among a.1 := fun a ha => hlist a.1 (List.fst_mem_of_mem_zipIdx ha)
  constructor
  · intro hresult
    have hsorted := sort_stable (h.comap Prod.fst) hzip
    have hmap := hsorted.map fun x _ => ⟨(x, 0), rfl⟩
    rw [List.zipIdx_map_fst] at hmap
    refine ⟨_, hsorted.perm, StableSort.unique h hlist hmap hresult,
      List.pairwise_iff_forall_sublist.mpr fun {a b} hsublist => ?_⟩
    have ha := hsorted.among_of_mem hzip a (hsublist.subset List.mem_cons_self)
    have hba : less b.1 a.1 = false :=
      List.pairwise_iff_forall_sublist.mp hsorted.ordered hsublist
    cases hab : less a.1 b.1 with
    | true => exact .inl rfl
    | false =>
        have hself : tied less a.1 a.1 = true := tied_iff.mpr ⟨h.irrefl ha, h.irrefl ha⟩
        have hplaces := hsorted.sublist_of_tied ha hself (tied_iff.mpr ⟨hab, hba⟩) hsublist
        exact .inr ⟨tied_iff.mpr ⟨hab, hba⟩,
          List.pairwise_iff_forall_sublist.mp (pairwise_zipIdx_lt list) hplaces⟩
  · rintro ⟨placed, hperm, rfl, hplaced⟩
    have hamong : ∀ a ∈ placed, among a.1 := fun a ha => hzip a (hperm.subset ha)
    have hperm' := hperm.map Prod.fst
    rw [List.zipIdx_map_fst] at hperm'
    refine ⟨⟨hperm', fun x hx => ?_⟩, ?_⟩
    · -- Those that tie with `x` stand by their places, in both lists.
      have hties : (placed.filter fun a => tied less x a.1).Pairwise fun a b => a.2 < b.2 := by
        refine (hplaced.filter _).imp_of_mem fun {a b} ha hb hab => ?_
        obtain ⟨ha, hxa⟩ := List.mem_filter.mp ha
        obtain ⟨hb, hxb⟩ := List.mem_filter.mp hb
        have htied := h.tied_trans (hamong a ha) (hamong b hb) hx hxa hxb
        rcases hab with hless | ⟨-, hlt⟩
        · rw [(tied_iff.mp htied).1] at hless
          cases hless
        · exact hlt
      have hzipTies := (pairwise_zipIdx_lt list).filter fun a => tied less x a.1
      have heq := List.Perm.eq_of_pairwise (fun a b _ _ hlt hgt => by omega) hties hzipTies
        (hperm.filter _)
      have hfsts := congrArg (List.map Prod.fst) heq
      conv_rhs => rw [← List.zipIdx_map_fst 0 list]
      rw [List.filter_map, List.filter_map]
      exact hfsts
    · refine List.pairwise_map.mpr (hplaced.imp_of_mem fun {a b} ha hb hab => ?_)
      rcases hab with hless | ⟨htied, -⟩
      · exact h.asymm (hamong a ha) (hamong b hb) hless
      · exact (tied_iff.mp htied).2

end Runs

end DocQuery
