import DocQuery.Term

/-!
# Operator names

An operator is named by a mark and a body.  Its negation has the same mark and a
longer body.
-/

namespace DocQuery

/-- The name of an operator, without its mark. -/
structure OperatorName where
  body : String
  body_ne : body ≠ "" := by decide
deriving DecidableEq

namespace OperatorName

def text (name : OperatorName) : String :=
  String.ofList (operatorMark :: name.body.toList)

def parse (text : String) : Except QueryError OperatorName :=
  match text.toList with
  | mark :: body =>
      if h : mark = operatorMark ∧ String.ofList body ≠ "" then
        .ok { body := String.ofList body, body_ne := h.2 }
      else .error (.operatorName text)
  | [] => .error (.operatorName text)

def negated (name : OperatorName) : OperatorName where
  body := "not" ++ name.body
  body_ne := by
    intro h
    have : ("not" ++ name.body).toList = "".toList := congrArg String.toList h
    simp at this

/-! ## Texts -/

theorem isOperatorKey_text (name : OperatorName) : isOperatorKey name.text = true := by
  simp [isOperatorKey, text]

theorem text_injective {a b : OperatorName} (h : a.text = b.text) : a = b := by
  obtain ⟨body, _⟩ := a
  obtain ⟨other, _⟩ := b
  have hbody : body.toList = other.toList := by
    simpa [text] using congrArg String.toList h
  have heq : body = other := String.toList_injective hbody
  subst heq
  rfl

theorem negated_injective {a b : OperatorName} (h : a.negated = b.negated) : a = b := by
  obtain ⟨body, _⟩ := a
  obtain ⟨other, _⟩ := b
  have hbody : body.toList = other.toList := by
    simpa [negated] using congrArg (fun name => name.body.toList) h
  have heq : body = other := String.toList_injective hbody
  subst heq
  rfl

/-- A negation has a longer name. -/
theorem negated_ne (name : OperatorName) : name.negated ≠ name := by
  intro h
  have hlength := congrArg (fun name => name.body.toList.length) h
  simp [negated] at hlength
  omega

end OperatorName

end DocQuery
