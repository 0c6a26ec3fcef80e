import DocQuery.Proofs.Grammar.Reading
import DocQuery.Proofs.Spelling
import DocQuery.Proofs.Strictness

/-!
# Queries spelled out

A pattern that is spelled out is a string, and words tell the two apart.  Most words take
no patterns, so that where nothing is malformed they have none; the pattern operator reads
the string as the pattern; and an equality compares what is written.  Only the inequality
reads a pattern and its text in two ways.
-/

namespace DocQuery

/-! ## Views -/

namespace Term

theorem bool?_spellOut (term : Term) : term.spellOut.bool? = term.bool? := by
  cases term <;> rw [spellOut] <;> rfl

theorem binary64?_spellOut (term : Term) : term.spellOut.binary64? = term.binary64? := by
  cases term <;> rw [spellOut] <;> rfl

theorem spellOut_of_scalar? {term : Term} (h : term.scalar?.isSome) : term.spellOut = term := by
  cases term with
  | scalar value => rw [spellOut]
  | regex | map | list => cases h

theorem spellOut_of_string? {term : Term} (h : term.string?.isSome) : term.spellOut = term := by
  cases term with
  | scalar value => rw [spellOut]
  | regex | map | list => cases h

end Term

namespace FieldWord

/-! ## Faults -/

theorem isPair_spellOut (operand : Term) : isPair operand.spellOut = isPair operand := by
  cases operand with
  | list items =>
      match items with
      | [divisor, remainder] =>
          simp only [Term.spellOut, Term.spellItems, isPair, Term.binary64?_spellOut]
      | [] | [_] | _ :: _ :: _ :: _ =>
          simp [Term.spellOut, Term.spellItems, isPair]
  | scalar | regex | map =>
      simp [Term.spellOut, isPair]

theorem isValue_spellOut (part : Term) : isValue part.spellOut = true := by
  cases part <;> rw [Term.spellOut] <;> rfl

theorem takes_spellOut {word : FieldWord} {part : Term} (h : word.takes part = true) :
    word.takes part.spellOut = true := by
  cases word with
  | differs =>
      rfl
  | present | nil | changed =>
      rw [takes, Term.bool?_spellOut]
      exact h
  | anyOf | leftFrom | changedTo =>
      exact isValue_spellOut part
  | like =>
      rw [Term.spellOut_of_string? h]
      exact h
  | regex =>
      cases part with
      | regex pattern => rw [Term.spellOut]; rfl
      | scalar => rw [Term.spellOut]; exact h
      | map | list => cases h
  | greater | notLess | less | notGreater =>
      rw [Term.spellOut_of_scalar? h]
      exact h
  | modulo =>
      rw [takes, isPair_spellOut]
      exact h

theorem takes_of_partFault? {word : FieldWord} {part : Term}
    (h : word.partFault? part = none) : word.takes part = true := by
  unfold partFault? at h
  split at h
  · assumption
  · cases h

theorem partFault?_spellOut {word : FieldWord} {part : Term}
    (h : word.partFault? part = none) : word.partFault? part.spellOut = none := by
  have htakes := takes_of_partFault? h
  cases part with
  | scalar value =>
      rw [Term.spellOut]
      exact h
  | regex pattern =>
      -- Only the pattern operator looks into what it takes.
      rw [Term.spellOut]
      cases word with
      | regex => exact fault?_regex_text pattern
      | _ => exact if_pos (takes_spellOut htakes)
  | map | list =>
      have hspelled := takes_spellOut htakes
      rw [Term.spellOut] at hspelled ⊢
      simp [partFault?, hspelled]

/-- A word that takes an operand takes it spelled out. -/
theorem fault?_spellOut {word : FieldWord} {operand : Term}
    (h : word.fault? operand = none) : word.fault? operand.spellOut = none := by
  unfold fault? at h ⊢
  split at h
  · rename_i heach
    rw [List.findSome?_eq_none_iff] at h
    rw [if_pos heach, Term.elements_spellOut, List.findSome?_map, List.findSome?_eq_none_iff]
    exact fun part hmem => partFault?_spellOut (h part hmem)
  · rename_i heach
    rw [if_neg heach]
    exact partFault?_spellOut h

/-! ## Meanings -/

theorem equals_spellOut (value : Option Json) (operand : Term) :
    equals value operand.spellOut = equals value operand := by
  rw [equals, equals, Term.toJson_spellOut]

theorem left_spellOut (field : FieldHistory) (operand : Term) :
    left field operand.spellOut = left field operand := by
  simp only [left, equals_spellOut]

theorem reached_spellOut (field : FieldHistory) (operand : Term) :
    reached field operand.spellOut = reached field operand := by
  simp only [reached, equals_spellOut]

theorem holds_differs_spellOut {operand : Term} (hoperand : ∀ pattern, operand ≠ .regex pattern)
    (field : FieldHistory) :
    differs.holds operand.spellOut field = differs.holds operand field := by
  have hequals := equals_spellOut field.now operand
  cases operand with
  | regex pattern => exact absurd rfl (hoperand pattern)
  | scalar =>
      rw [Term.spellOut]
  | map | list =>
      rw [Term.spellOut] at hequals ⊢
      exact congrArg not hequals

theorem holds_regex_spellOut (operand : Term) (field : FieldHistory) :
    regex.holds operand.spellOut field = regex.holds operand field := by
  cases operand with
  | regex pattern => rw [Term.spellOut]; exact holds_regex_text pattern field
  | scalar => rw [Term.spellOut]
  | map | list => rw [Term.spellOut]; rfl

theorem holds_modulo_spellOut {operand : Term} (h : modulo.takes operand = true)
    (field : FieldHistory) : modulo.holds operand.spellOut field = modulo.holds operand field := by
  have hpair : (Standard.divisorPair? operand).isSome := by
    rw [isSome_divisorPair?]
    exact h
  obtain ⟨pair, hpair⟩ := Option.isSome_iff_exists.mp hpair
  obtain ⟨divisor, remainder, rfl, _⟩ := eq_list_of_divisorPair? hpair
  simp only [Term.spellOut, Term.spellItems]

/-- A word says the same of an operand spelled out, unless it is the inequality with a
pattern. -/
theorem holds_spellOut {word : FieldWord} {operand : Term} (hfault : word.fault? operand = none)
    (hoperand : word = differs → ∀ pattern, operand ≠ .regex pattern) (field : FieldHistory) :
    word.holds operand.spellOut field = word.holds operand field := by
  cases word with
  | differs => exact holds_differs_spellOut (hoperand rfl) field
  | present | nil | changed => simp only [holds, Term.bool?_spellOut]
  | anyOf | leftFrom | changedTo =>
      simp only [holds, Term.elements_spellOut, List.any_map, Function.comp_def,
        equals_spellOut, left_spellOut, reached_spellOut]
  | like =>
      have htexts : ∀ part ∈ operand.elements, part.spellOut = part := by
        intro part hmem
        exact Term.spellOut_of_string?
          (takes_of_partFault? (List.findSome?_eq_none_iff.mp hfault part hmem))
      rw [holds, holds, Term.elements_spellOut, List.map_congr_left htexts, List.map_id']
  | regex => exact holds_regex_spellOut operand field
  | greater | notLess | less | notGreater =>
      rw [Term.spellOut_of_scalar? (takes_of_partFault? hfault)]
  | modulo => exact holds_modulo_spellOut (takes_of_partFault? hfault) field

end FieldWord

/-! ## Fields -/

/-- Whether nothing malformed was found. -/
def Sound (found : List Finding) : Prop :=
  ∀ finding ∈ found, finding.isMalformed = false

/-- Whether no inequality in a map has a pattern as its operand. -/
def Term.ComparesValues (term : Term) : Prop :=
  ∀ entries, term = .map entries → ∀ entry ∈ entries,
    entry.1 = "$not" ∨ entry.1 = "$notnot" → ∀ pattern, entry.2 ≠ .regex pattern

/-- Whether a term means in a field what it means spelled out. -/
structure Term.Spellable (term : Term) : Prop where
  value : ∀ pattern, term ≠ .regex pattern
  operands : term.ComparesValues

theorem eq_not_or_notnot {text : String} {negated : Bool}
    (h : Signed.ofText? text = some ⟨FieldWord.differs, negated⟩) :
    text = "$not" ∨ text = "$notnot" := by
  rw [← Signed.text_of_ofText? h]
  cases negated with
  | false => exact .inl rfl
  | true => exact .inr rfl

theorem sameEntry_spellOut {entry : String × Term}
    (sound : Sound (entryFindings entry))
    (operand : entry.1 = "$not" ∨ entry.1 = "$notnot" → ∀ pattern, entry.2 ≠ .regex pattern) :
    SameEntry entry (entry.1, entry.2.spellOut) := by
  cases hname : (Signed.ofText? entry.1 : Option (Signed FieldWord)) with
  | none =>
      exact SameEntry.of_unknown hname entry.2 _
  | some signed =>
      have hfault : signed.word.fault? entry.2 = none := by
        cases hfault : signed.word.fault? entry.2 with
        | none =>
            rfl
        | some error =>
            have hfinding : .malformed error ∈ entryFindings entry := by
              simp [entryFindings, hname, hfault]
            cases sound _ hfinding
      refine SameEntry.of_word hname ?_ (FieldWord.holds_spellOut hfault fun hword => ?_)
      · rw [FieldWord.fault?_spellOut hfault, hfault]
      · obtain ⟨word, negated⟩ := signed
        cases hword
        exact operand (eq_not_or_notnot hname)

theorem ClauseWord.isSome_of_sound {operand : Term} {subqueries : List Finding}
    (sound : Sound (hasFields.findings operand subqueries)) :
    ∀ item ∈ operand.elements, item.string?.isSome := by
  intro item hmem
  by_contra htext
  have hfinding : .malformed hasFields.fault ∈ hasFields.findings operand subqueries := by
    refine List.mem_flatMap.mpr ⟨item, hmem, ?_⟩
    rw [if_neg htext]
    exact List.mem_singleton_self _
  cases sound _ hfinding

section

variable {key : String} {term : Term}

theorem sameField_spellOut_of_clauseWord {signed : Signed ClauseWord}
    (hkey : Signed.ofText? key = some signed) (hterm : ∀ pattern, term ≠ .regex pattern)
    (sound : Sound (fieldFindings key term (term.elements.flatMap itemFindings)))
    (subqueries : takesQueries key = true → ∀ fields, Term.map fields ∈ term.elements →
      Sound (findings fields) → SameReading fields (Term.spellFields fields)) :
    SameField key term term.spellOut := by
  have hform := form_eq_clause_iff.mpr ⟨hterm, hkey⟩
  simp only [fieldFindings, hform] at sound
  refine SameField.clause hkey hterm term.spellOut_ne_regex term.elements_spellOut ?_ ?_
  · intro hword item hitem
    rw [hword] at sound
    rw [Term.spellOut_of_string? (ClauseWord.isSome_of_sound sound item hitem)]
  · intro hword item hitem
    rw [hword] at sound
    have hitemSound : Sound (itemFindings item) :=
      fun finding hmem => sound finding (List.mem_flatMap.mpr ⟨item, hitem, hmem⟩)
    cases item with
    | map fields =>
        rw [Term.spellOut]
        exact SameItem.map (subqueries (takesQueries_of_word hkey hword) fields hitem hitemSound)
    | scalar | regex | list =>
        -- An item that is no query is malformed.
        cases hitemSound _ List.mem_cons_self

theorem sameField_spellOut (spellable : term.Spellable)
    (sound : Sound (fieldFindings key term (term.elements.flatMap itemFindings)))
    (subqueries : takesQueries key = true → ∀ fields, Term.map fields ∈ term.elements →
      Sound (findings fields) → SameReading fields (Term.spellFields fields)) :
    SameField key term term.spellOut := by
  cases hkey : (Signed.ofText? key : Option (Signed ClauseWord)) with
  | some signed =>
      exact sameField_spellOut_of_clauseWord hkey spellable.value sound subqueries
  | none =>
      have hvalue := term.toJson_spellOut
      cases term with
      | regex pattern => exact absurd rfl (spellable.value pattern)
      | scalar value =>
          rw [Term.spellOut]
          exact SameField.refl key _
      | list items =>
          rw [Term.spellOut] at hvalue ⊢
          cases hmark : isOperatorKey key with
          | true =>
              exact SameField.ignored (by simp [form, hkey, hmark]) (by simp [form, hkey, hmark])
          | false =>
              exact SameField.equality (by simp [form, hkey, hmark])
                (by simp [form, hkey, hmark]) hvalue
      | map entries =>
          have hform : form key (.map entries) = .operators entries :=
            form_eq_operators_iff.mpr ⟨hkey, rfl⟩
          rw [fieldFindings, hform] at sound
          rw [Term.spellOut, Term.spellFields_eq_map]
          refine SameField.entries hform fun entry hentry => ?_
          refine sameEntry_spellOut (fun finding hmem => ?_) ?_
          · exact sound finding (List.mem_flatMap.mpr ⟨entry, hentry, hmem⟩)
          · exact spellable.operands entries rfl entry hentry

end

/-! ## Queries -/

/-- A query without malformed operands reads as it does spelled out. -/
theorem sameReading_spellFields {fields : List (String × Term)}
    (spellable : ∀ field ∈ positions fields, field.2.Spellable)
    (sound : Sound (findings fields)) :
    SameReading fields (Term.spellFields fields) := by
  induction fields using fields_induction with
  | nil =>
      rw [Term.spellFields]
      exact SameReading.refl []
  | cons key term rest hsub ih =>
      rw [Term.spellFields]
      rw [findings_cons] at sound
      obtain ⟨hfield, hrest⟩ := List.forall_mem_append.mp sound
      refine SameReading.cons (sameField_spellOut ?_ hfield ?_) ?_
      · exact spellable _ (mem_positions_self key term rest)
      · intro hkey fields hfields
        exact hsub fields hfields fun field hmem =>
          spellable field (mem_positions_of_subquery hkey hfields hmem)
      · exact ih (fun field hmem => spellable field (mem_positions_of_rest hmem)) hrest

end DocQuery
