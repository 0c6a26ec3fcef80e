import DocQuery.Predicate
import DocQuery.Term

/-!
# Sub-queries

An operand is read item by item, and the maps among its items can be queries of their
own.  What holds of a query once it holds of the queries in its operands holds of every
query, however deep; and what is gathered from a query is gathered from those as well,
in the order in which they are written.  Rewriting reaches the same queries.
-/

namespace DocQuery

/-! ## Items -/

namespace Term

/-- A list item by item, or any other term as the only item. -/
def elements : Term → List Term
  | .list items => items
  | term => [term]

theorem toList_parts (term : Term) : term.parts.toList = term.elements := by
  cases term <;> rfl

end Term

/-! ## Induction -/

section

variable {motive : List (String × Term) → Prop}

mutual

/-- Induction on the fields of a query and of the sub-queries in their terms. -/
theorem fields_induction (nil : motive [])
    (cons : ∀ key term rest, (∀ fields, Term.map fields ∈ term.elements → motive fields) →
      motive rest → motive ((key, term) :: rest)) :
    ∀ fields : List (String × Term), motive fields
  | [] => nil
  | (key, term) :: rest =>
      cons key term rest (term_induction nil cons term) (fields_induction nil cons rest)

theorem term_induction (nil : motive [])
    (cons : ∀ key term rest, (∀ fields, Term.map fields ∈ term.elements → motive fields) →
      motive rest → motive ((key, term) :: rest)) :
    ∀ (term : Term) (fields : List (String × Term)),
      Term.map fields ∈ term.elements → motive fields
  | .scalar _, _, h => nomatch List.mem_singleton.mp h
  | .regex _, _, h => nomatch List.mem_singleton.mp h
  | .map inner, fields, h => by
      have hinner := fields_induction nil cons inner
      cases List.mem_singleton.mp h
      exact hinner
  | .list items, fields, h => items_induction nil cons items fields h

theorem items_induction (nil : motive [])
    (cons : ∀ key term rest, (∀ fields, Term.map fields ∈ term.elements → motive fields) →
      motive rest → motive ((key, term) :: rest)) :
    ∀ (items : List Term) (fields : List (String × Term)),
      Term.map fields ∈ items → motive fields
  | [], _, h => nomatch h
  | item :: rest, fields, h => by
      have hitem := term_induction nil cons item fields
      have hrest := items_induction nil cons rest fields
      rcases List.mem_cons.mp h with rfl | hmem
      · exact hitem List.mem_cons_self
      · exact hrest hmem

end

end

/-! ## Gathering -/

section

variable {β : Type}

mutual

/-- What is gathered from the fields of a query.  A step gives what a field contributes,
from what its sub-queries contribute; an item that is no sub-query contributes what
stands in its place. -/
def gather (step : String → Term → List β → List β) (other : List β) :
    List (String × Term) → List β
  | [] => []
  | (key, term) :: rest =>
      step key term (gatherOperand step other term) ++ gather step other rest

/-- What is gathered from the sub-queries of an operand. -/
def gatherOperand (step : String → Term → List β → List β) (other : List β) :
    Term → List β
  | .map fields => gather step other fields
  | .list items => gatherItems step other items
  | _ => other

def gatherItems (step : String → Term → List β → List β) (other : List β) :
    List Term → List β
  | [] => []
  | .map fields :: rest => gather step other fields ++ gatherItems step other rest
  | _ :: rest => other ++ gatherItems step other rest

end

variable (step : String → Term → List β → List β) (other : List β)

def gatherItem : Term → List β
  | .map fields => gather step other fields
  | _ => other

theorem gatherItems_eq (items : List Term) :
    gatherItems step other items = items.flatMap (gatherItem step other) := by
  induction items with
  | nil =>
      rw [gatherItems, List.flatMap_nil]
  | cons item rest ih =>
      rw [List.flatMap_cons, ← ih]
      cases item <;> rw [gatherItems, gatherItem]
      all_goals exact fun _ h => nomatch h

theorem gatherOperand_eq (term : Term) :
    gatherOperand step other term = term.elements.flatMap (gatherItem step other) := by
  cases term with
  | list items =>
      exact gatherItems_eq step other items
  | scalar | regex | map =>
      simp [gatherOperand, Term.elements, gatherItem]

theorem gather_cons (key : String) (term : Term) (rest : List (String × Term)) :
    gather step other ((key, term) :: rest) =
      step key term (term.elements.flatMap (gatherItem step other)) ++
        gather step other rest := by
  rw [gather, gatherOperand_eq]

end

/-! ## Rewriting -/

section

mutual

/-- A query with other terms in its fields.  A step gives the term in the place of one, from
that term and from the same term with its sub-queries rewritten. -/
def rewrite (step : String → Term → Term → Term) : List (String × Term) → List (String × Term)
  | [] => []
  | (key, term) :: rest => (key, step key term (rewriteOperand step term)) :: rewrite step rest

def rewriteOperand (step : String → Term → Term → Term) : Term → Term
  | .map fields => .map (rewrite step fields)
  | .list items => .list (rewriteItems step items)
  | term => term

def rewriteItems (step : String → Term → Term → Term) : List Term → List Term
  | [] => []
  | .map fields :: rest => .map (rewrite step fields) :: rewriteItems step rest
  | item :: rest => item :: rewriteItems step rest

end

variable (step : String → Term → Term → Term)

def rewriteItem : Term → Term
  | .map fields => .map (rewrite step fields)
  | item => item

theorem rewriteItems_eq (items : List Term) :
    rewriteItems step items = items.map (rewriteItem step) := by
  induction items with
  | nil =>
      rw [rewriteItems, List.map_nil]
  | cons item rest ih =>
      rw [List.map_cons, ← ih]
      cases item <;> simp [rewriteItems, rewriteItem]

theorem elements_rewriteOperand (term : Term) :
    (rewriteOperand step term).elements = term.elements.map (rewriteItem step) := by
  cases term with
  | list items =>
      simp only [rewriteOperand, Term.elements, rewriteItems_eq]
  | scalar | regex | map =>
      simp [rewriteOperand, Term.elements, rewriteItem]

theorem rewriteOperand_ne_regex {term : Term} (hterm : ∀ pattern, term ≠ .regex pattern)
    (pattern : Pattern) : rewriteOperand step term ≠ .regex pattern := by
  cases term with
  | regex other => exact absurd rfl (hterm other)
  | scalar | map | list => simp [rewriteOperand]

theorem keys_rewrite (fields : List (String × Term)) :
    (rewrite step fields).map Prod.fst = fields.map Prod.fst := by
  induction fields with
  | nil =>
      rw [rewrite]
  | cons field rest ih =>
      rw [rewrite, List.map_cons, List.map_cons, ih]

end

end DocQuery
