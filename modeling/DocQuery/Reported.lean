import DocQuery.Log

/-!
# Reported results

The result of work that can fail and reports entries on its way.  What was
reported before a failure stays reported.
-/

namespace DocQuery

/-- A result with what was reported on the way to it. -/
structure Reported (ε α : Type) where
  entries : List LogEntry
  result : Except ε α

namespace Reported

variable {ε α β : Type}

def ofExcept (result : Except ε α) : Reported ε α where
  entries := []
  result := result

def fail (error : ε) : Reported ε α :=
  ofExcept (.error error)

def report (entry : LogEntry) : Reported ε Unit where
  entries := [entry]
  result := .ok ()

/-- Go on with the result, unless it is a failure. -/
def andThen (first : Reported ε α) (next : α → Reported ε β) : Reported ε β :=
  match first.result with
  | .error error => { entries := first.entries, result := .error error }
  | .ok value =>
      let second := next value
      { entries := first.entries ++ second.entries, result := second.result }

instance : Monad (Reported ε) where
  pure value := ofExcept (.ok value)
  bind := andThen

def mapError {δ : Type} (f : ε → δ) (reported : Reported ε α) : Reported δ α where
  entries := reported.entries
  result :=
    match reported.result with
    | .ok value => .ok value
    | .error error => .error (f error)

/-! ## Results -/

@[simp] theorem result_pure (value : α) :
    (pure value : Reported ε α).result = .ok value :=
  rfl

@[simp] theorem result_fail (error : ε) :
    (fail error : Reported ε α).result = .error error :=
  rfl

@[simp] theorem result_report (entry : LogEntry) :
    (report entry : Reported ε Unit).result = .ok () :=
  rfl

@[simp] theorem result_bind (first : Reported ε α) (next : α → Reported ε β) :
    (first >>= next).result = first.result.bind fun value => (next value).result := by
  change (andThen first next).result = _
  unfold andThen
  cases first.result <;> rfl

@[simp] theorem result_map (f : α → β) (reported : Reported ε α) :
    (f <$> reported).result = reported.result.map f := by
  change (andThen reported fun value => ofExcept (.ok (f value))).result = _
  unfold andThen
  cases reported.result <;> rfl

/-! ## Laws -/

theorem andThen_pure (reported : Reported ε α) :
    andThen reported (fun value => ofExcept (.ok value)) = reported := by
  obtain ⟨entries, result⟩ := reported
  cases result <;> simp [andThen, ofExcept]

theorem pure_andThen (value : α) (next : α → Reported ε β) :
    andThen (ofExcept (.ok value)) next = next value := by
  simp [andThen, ofExcept]

theorem andThen_assoc {γ : Type} (first : Reported ε α) (second : α → Reported ε β)
    (third : β → Reported ε γ) :
    andThen (andThen first second) third =
      andThen first fun value => andThen (second value) third := by
  obtain ⟨entries, result⟩ := first
  cases result with
  | error error =>
      rfl
  | ok value =>
      unfold andThen
      cases h : (second value).result <;> simp [h]

instance : LawfulMonad (Reported ε) :=
  LawfulMonad.mk' (Reported ε) (fun reported => andThen_pure reported)
    (fun value next => pure_andThen value next)
    (fun first second third => andThen_assoc first second third)

end Reported

end DocQuery
