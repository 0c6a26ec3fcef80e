/-!
# Sorting by runs

A stable sort by a test `less` of two elements.  Short lists are sorted by
insertion.  Longer ones are cut into runs, stretches that are in order already or
are sorted for themselves, and neighbouring runs are merged along a balanced tree.
When the test is a strict weak order the result is the only stable one.  When it is
not, the result depends on which elements are compared, and this module says which.
-/

namespace DocQuery

-- Powers are those of the core library, whatever algebra is imported beside them.
attribute [local instance (high)] instPowNat

namespace Runs

variable {α : Type}

/-! ## Insertion -/

/-- Put an element behind sorted ones, given from the last to the first: it passes those
that it is less than, up to the first that it is not. -/
def insertLast (less : α → α → Bool) (x : α) : List α → List α
  | [] => [x]
  | last :: before =>
      if less x last then last :: insertLast less x before else x :: last :: before

def insertAll (less : α → α → Bool) (sorted rest : List α) : List α :=
  (rest.foldl (fun reversed x => insertLast less x reversed) sorted.reverse).reverse

/-! ## Merging -/

/-- Merge from the front: the lesser first element comes next, the left one of two that
tie. -/
def mergeUp (less : α → α → Bool) (left right : List α) : List α :=
  left.merge right fun a b => !less b a

/-- Merge from the back: the greater last element comes last, the right one of two that
tie. -/
def mergeDown (less : α → α → Bool) (left right : List α) : List α :=
  (right.reverse.merge left.reverse fun b a => !less b a).reverse

def merge (less : α → α → Bool) (left right : List α) : List α :=
  if left.length ≤ right.length then mergeUp less left right
  else mergeDown less left right

/-- Merge two halves, of which the right one may have an element more, from both ends at
once. -/
def mergeHalves (less : α → α → Bool) (left right : List α) : List α :=
  let lefts := left.map ((true, ·))
  let rights := right.map ((false, ·))
  let lessMarked (a b : Bool × α) := less a.2 b.2
  let front := (mergeUp lessMarked lefts rights).take left.length
  let back := (mergeDown lessMarked lefts rights).drop right.length
  let used := (front.filter Prod.fst).length
  let usedBehind := (back.filter Prod.fst).length
  let middle :=
    if right.length = left.length then none
    else if used + usedBehind < left.length then left[used]?
    else right[left.length - used]?
  front.map Prod.snd ++ middle.toList ++ back.map Prod.snd

/-! ## Short stretches -/

def sortFour (less : α → α → Bool) : List α → List α
  | [w, x, y, z] =>
      let (a, b) := if less x w then (x, w) else (w, x)
      let (c, d) := if less z y then (z, y) else (y, z)
      let low := if less c a then c else a
      let high := if less d b then b else d
      let left := if less c a then a else if less d b then c else b
      let right := if less d b then d else if less c a then b else c
      let (p, q) := if less right left then (right, left) else (left, right)
      [low, p, q, high]
  | other => other

def sortEight (less : α → α → Bool) (list : List α) : List α :=
  mergeHalves less (sortFour less (list.take 4)) (sortFour less (list.drop 4))

def shortLength : Nat := 32

/-- Sort a stretch of at most `shortLength` elements: each half by insertion behind its
first few elements, then both together. -/
def sortShort (less : α → α → Bool) (list : List α) : List α :=
  let sortHalf (half : List α) : List α :=
    if 16 ≤ list.length then insertAll less (sortEight less (half.take 8)) (half.drop 8)
    else if 8 ≤ list.length then insertAll less (sortFour less (half.take 4)) (half.drop 4)
    else insertAll less (half.take 1) (half.drop 1)
  if list.length < 2 then list
  else
    mergeHalves less (sortHalf (list.take (list.length / 2)))
      (sortHalf (list.drop (list.length / 2)))

/-! ## Runs -/

structure Run (α : Type) where
  elements : List α
  sorted : Bool

def chainLength (test : α → α → Bool) : List α → Nat
  | [] => 0
  | [_] => 1
  | a :: b :: rest => if test a b then chainLength test (b :: rest) + 1 else 1

/-- The stretch at the front that is in order, or that is strictly in reverse order,
put in order. -/
def orderedFront (less : α → α → Bool) (list : List α) : List α :=
  match list with
  | a :: b :: _ =>
      if less b a then (list.take (chainLength (fun x y => less y x) list)).reverse
      else list.take (chainLength (fun x y => !less y x) list)
  | _ => list

def firstRun (less : α → α → Bool) (now : Bool) (enough : Nat) (list : List α) : Run α :=
  let ordered := orderedFront less list
  if enough ≤ list.length ∧ enough ≤ ordered.length then ⟨ordered, true⟩
  else if now then ⟨sortShort less (list.take shortLength), true⟩
  else ⟨list.take enough, false⟩

/-- How many elements are enough for a run of a list: half of them up to a bound, which
grows with the square root of the length. -/
def enoughFor (length : Nat) : Nat :=
  if length ≤ 64 * 64 then min (length - length / 2) 64
  else
    let shift := (1 + length.log2) / 2
    (2 ^ shift + length / 2 ^ shift) / 2

def meetingDepth (length start middle stop : Nat) : Nat :=
  let scale := (2 ^ (62 : Nat) + length - 1) / length
  let differing := (scale * (start + middle)) ^^^ (scale * (middle + stop))
  if differing = 0 then 64 else 63 - differing.log2

def Run.join (less : α → α → Bool) (quick : List α → List α) (left right : Run α) : Run α :=
  let ready (run : Run α) := if run.sorted then run.elements else quick run.elements
  if left.sorted || right.sorted then ⟨merge less (ready left) (ready right), true⟩
  else ⟨left.elements ++ right.elements, false⟩

/-- Join a run with those before it that it meets no less deep than the next one. -/
def collapse (join : Run α → Run α → Run α) (depth : Nat) :
    List (Run α × Nat) → Run α → List (Run α × Nat) × Run α
  | [], run => ([], run)
  | (left, meeting) :: before, run =>
      if depth ≤ meeting then collapse join depth before (join left run)
      else ((left, meeting) :: before, run)

def joinRuns (take : List α → Run α) (join : Run α → Run α → Run α) (length : Nat) :
    Nat → List (Run α × Nat) → Run α → Nat → List α → Run α
  | 0, before, run, _, _ => (collapse join 0 before run).2
  | _, before, run, _, [] => (collapse join 0 before run).2
  | fuel + 1, before, run, position, rest =>
      let next := take rest
      let stop := position + next.elements.length
      let depth := meetingDepth length (position - run.elements.length) position stop
      let (before, run) := collapse join depth before run
      joinRuns take join length fuel ((run, depth) :: before) next stop
        (rest.drop next.elements.length)

def sortRuns (less : α → α → Bool) (now : Bool) (quick : List α → List α)
    (list : List α) : List α :=
  let take := firstRun less now (enoughFor list.length)
  let first := take list
  let size := first.elements.length
  let whole := joinRuns take (Run.join less quick) list.length list.length [] first size
    (list.drop size)
  if whole.sorted then whole.elements else quick whole.elements

/-! ## Partition -/

def lessAt (less : α → α → Bool) (elements : Array α) (i j : Nat) : Bool :=
  match elements[i]?, elements[j]? with
  | some a, some b => less a b
  | _, _ => false

def medianOfThree (less : Nat → Nat → Bool) (a b c : Nat) : Nat :=
  if less a b = less a c then if less b c = less a b then b else c else a

def medianOfMedians (less : Nat → Nat → Bool) : Nat → Nat → Nat → Nat → Nat → Nat
  | 0, _, a, b, c => medianOfThree less a b c
  | fuel + 1, length, a, b, c =>
      if 64 ≤ length * 8 then
        let part := length / 8
        let inner (start : Nat) :=
          medianOfMedians less fuel part start (start + part * 4) (start + part * 7)
        medianOfThree less (inner a) (inner b) (inner c)
      else medianOfThree less a b c

def pivotPlace (less : α → α → Bool) (list : List α) : Nat :=
  let test := lessAt less list.toArray
  let part := list.length / 8
  if list.length < 64 then medianOfThree test 0 (part * 4) (part * 7)
  else medianOfMedians test list.length part 0 (part * 4) (part * 7)

def part (test : α → Bool) (place : Nat) (pivotPasses : Bool) (list : List α) :
    List α × List α :=
  let (passed, failed) := list.zipIdx.partition fun (x, i) =>
    if i = place then pivotPasses else test x
  (passed.map Prod.fst, failed.map Prod.fst)

/-- Sort by parting lists at pivots.  Elements that tie with the pivot to their left need
no further sorting; after too many parts the rest is sorted by runs. -/
def quicksort (less : α → α → Bool) : Nat → Nat → Option α → List α → List α
  | 0, _, _, list => sortShort less list
  | fuel + 1, limit, ancestor, list =>
      if list.length ≤ shortLength then sortShort less list
      else if limit = 0 then sortRuns less true id list
      else
        let place := pivotPlace less list
        match list[place]? with
        | none => list
        | some pivot =>
            let (low, high) := part (fun x => less x pivot) place false list
            if (ancestor.any fun other => !less other pivot) || low.isEmpty then
              let (ties, rest) := part (fun x => !less pivot x) place true list
              ties ++ quicksort less fuel (limit - 1) none rest
            else
              quicksort less fuel (limit - 1) ancestor low
                ++ quicksort less fuel (limit - 1) (some pivot) high

/-! ## Sorting -/

def insertionLength : Nat := 20

def sort (less : α → α → Bool) (list : List α) : List α :=
  if list.length ≤ insertionLength then insertAll less [] list
  else
    let quick (list : List α) : List α :=
      quicksort less list.length (2 * list.length.log2) none list
    sortRuns less (list.length ≤ 2 * shortLength) quick list

end Runs

end DocQuery
