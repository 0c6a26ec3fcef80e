import DocQuery.Proofs.Grammar.Operand

/-!
# Operands that fit

The operands of each field word as a grammar, and what is wrong with any other operand.
The fault of an operand is absent exactly if the operand fits.
-/

namespace DocQuery

namespace FieldWord

/-! ## Shapes -/

/-- The operands that fit a field word. -/
inductive Fits : FieldWord → Term → Prop
  | any (operand : Term) : Fits differs operand
  | flag {word : FieldWord} (hword : word ∈ [present, nil, changed]) (value : Bool) :
      Fits word (.scalar (.bool value))
  | bound {word : FieldWord} (hword : word ∈ [greater, notLess, less, notGreater])
      (value : Json) : Fits word (.scalar value)
  | values {word : FieldWord} (hword : word ∈ [anyOf, leftFrom, changedTo]) {operand : Term}
      (items : ∀ pattern, Term.regex pattern ∉ operand.elements) : Fits word operand
  | texts {operand : Term}
      (items : ∀ item ∈ operand.elements, ∃ text, item = .scalar (.string text)) :
      Fits like operand
  | pattern (pattern : Pattern) : Fits regex (.regex pattern)
  | literal {literal : String} {pattern : Pattern}
      (reads : Pattern.ofLiteral literal = .ok pattern) :
      Fits regex (.scalar (.string literal))
  | pair (divisor remainder : Number) :
      Fits modulo (.list [.scalar (.number divisor), .scalar (.number remainder)])

/-- What is wrong with an operand that does not fit: a string under the pattern operator is
no literal of a pattern, and anything else is not of the expected shape. -/
inductive Misfit : FieldWord → Term → QueryError → Prop
  | literal {literal : String} {error : QueryError}
      (reads : Pattern.ofLiteral literal = .error error) :
      Misfit regex (.scalar (.string literal)) error
  | shape {word : FieldWord} {operand : Term} (unfit : ¬ word.Fits operand)
      (hoperand : word = regex → ∀ literal, operand ≠ .scalar (.string literal)) :
      Misfit word operand (.operand (Vocabulary.name word).text word.expected)

/-! ## Faults -/

theorem isSome_string?_iff {part : Term} :
    part.string?.isSome = true ↔ ∃ text, part = .scalar (.string text) := by
  constructor
  · intro h
    cases part with
    | scalar value =>
        cases value with
        | string text => exact ⟨text, rfl⟩
        | _ => cases h
    | regex | map | list => cases h
  · rintro ⟨text, rfl⟩
    rfl

theorem isValue_iff {part : Term} :
    isValue part = true ↔ ∀ pattern, part ≠ .regex pattern := by
  cases part <;> simp [isValue]

theorem partFault?_eq_none_iff {word : FieldWord} (hword : word ≠ regex) (part : Term) :
    word.partFault? part = none ↔ word.takes part = true := by
  unfold partFault?
  split
  · rename_i htakes
    cases word <;> simp_all
  · rename_i htakes
    simp [htakes]

theorem fault?_each_eq_none_iff {word : FieldWord} (hword : word ≠ regex)
    (heach : word.takesEach = true) (operand : Term) :
    word.fault? operand = none ↔ ∀ part ∈ operand.elements, word.takes part = true := by
  rw [fault?, if_pos heach, List.findSome?_eq_none_iff]
  exact forall₂_congr fun part _ => partFault?_eq_none_iff hword part

theorem fault?_literal (literal : String) :
    regex.fault? (.scalar (.string literal)) =
      match Pattern.ofLiteral literal with
      | .ok _ => none
      | .error error => some error :=
  rfl

theorem fault?_of_fits {word : FieldWord} {operand : Term} (fits : word.Fits operand) :
    word.fault? operand = none := by
  cases fits with
  | any => rfl
  | flag hword value =>
      simp only [List.mem_cons, List.not_mem_nil, or_false] at hword
      rcases hword with rfl | rfl | rfl <;> rfl
  | bound hword value =>
      simp only [List.mem_cons, List.not_mem_nil, or_false] at hword
      rcases hword with rfl | rfl | rfl | rfl <;> rfl
  | values hword items =>
      have hvalues : ∀ part ∈ operand.elements, isValue part = true := by
        intro part hmem
        rw [isValue_iff]
        rintro pattern rfl
        exact items pattern hmem
      simp only [List.mem_cons, List.not_mem_nil, or_false] at hword
      rcases hword with rfl | rfl | rfl <;>
        exact (fault?_each_eq_none_iff (by decide) rfl operand).mpr hvalues
  | texts items =>
      refine (fault?_each_eq_none_iff (by decide) rfl operand).mpr fun part hmem => ?_
      exact isSome_string?_iff.mpr (items part hmem)
  | pattern => rfl
  | literal reads => rw [fault?_literal, reads]
  | pair => rfl

theorem fits_of_fault? {word : FieldWord} {operand : Term} (h : word.fault? operand = none) :
    word.Fits operand := by
  cases word with
  | differs => exact .any operand
  | present | nil | changed =>
      have htakes := (partFault?_eq_none_iff (by decide) operand).mp h
      cases operand with
      | scalar value =>
          cases value with
          | bool value => exact .flag (by decide) value
          | _ => cases htakes
      | regex | map | list => cases htakes
  | greater | notLess | less | notGreater =>
      have htakes := (partFault?_eq_none_iff (by decide) operand).mp h
      cases operand with
      | scalar value => exact .bound (by decide) value
      | regex | map | list => cases htakes
  | anyOf | leftFrom | changedTo =>
      have htakes := (fault?_each_eq_none_iff (by decide) rfl operand).mp h
      refine .values (by decide) fun pattern hmem => ?_
      exact isValue_iff.mp (htakes _ hmem) pattern rfl
  | like =>
      have htakes := (fault?_each_eq_none_iff (by decide) rfl operand).mp h
      exact .texts fun item hmem => isSome_string?_iff.mp (htakes item hmem)
  | regex =>
      cases operand with
      | regex pattern => exact .pattern pattern
      | scalar value =>
          cases value with
          | string literal =>
              rw [fault?_literal] at h
              split at h
              · rename_i hreads
                exact .literal hreads
              · cases h
          | _ => cases h
      | map | list => cases h
  | modulo =>
      have htakes := (partFault?_eq_none_iff (by decide) operand).mp h
      have hpair : (Standard.divisorPair? operand).isSome := by
        rw [isSome_divisorPair?]
        exact htakes
      obtain ⟨pair, hpair⟩ := Option.isSome_iff_exists.mp hpair
      obtain ⟨divisor, remainder, rfl, _⟩ := eq_list_of_divisorPair? hpair
      exact .pair divisor remainder

theorem fault?_eq_none_iff {word : FieldWord} {operand : Term} :
    word.fault? operand = none ↔ word.Fits operand :=
  ⟨fits_of_fault?, fault?_of_fits⟩

theorem error_of_partFault? {word : FieldWord} {part : Term} {error : QueryError}
    (hpart : word = regex → ∀ literal, part ≠ .scalar (.string literal))
    (h : word.partFault? part = some error) :
    error = .operand (Vocabulary.name word).text word.expected := by
  unfold partFault? at h
  split at h
  · split at h
    · exact absurd rfl (hpart rfl _)
    · cases h
  · exact (Option.some.inj h).symm

/-- Except for literals of patterns the error names the word and what it expects. -/
theorem error_of_fault? {word : FieldWord} {operand : Term} {error : QueryError}
    (hoperand : word = regex → ∀ literal, operand ≠ .scalar (.string literal))
    (h : word.fault? operand = some error) :
    error = .operand (Vocabulary.name word).text word.expected := by
  unfold fault? at h
  split at h
  · rename_i heach
    obtain ⟨part, _, hpart⟩ := List.exists_of_findSome?_eq_some h
    refine error_of_partFault? (fun hword => ?_) hpart
    rw [hword] at heach
    cases heach
  · exact error_of_partFault? hoperand h

theorem fault?_eq_some_iff {word : FieldWord} {operand : Term} {error : QueryError} :
    word.fault? operand = some error ↔ word.Misfit operand error := by
  constructor
  · intro h
    by_cases hliteral : word = regex ∧ ∃ literal, operand = .scalar (.string literal)
    · obtain ⟨rfl, literal, rfl⟩ := hliteral
      rw [fault?_literal] at h
      split at h
      · cases h
      · rename_i hreads
        cases h
        exact .literal hreads
    · have hoperand : word = regex → ∀ literal, operand ≠ .scalar (.string literal) :=
        fun hword literal heq => hliteral ⟨hword, literal, heq⟩
      rw [error_of_fault? hoperand h]
      refine .shape (fun fits => ?_) hoperand
      rw [fault?_of_fits fits] at h
      cases h
  · intro misfit
    cases misfit with
    | literal reads => rw [fault?_literal, reads]
    | shape unfit hoperand =>
        cases h : word.fault? operand with
        | none => exact absurd (fits_of_fault? h) unfit
        | some other => rw [error_of_fault? hoperand h]

end FieldWord

end DocQuery
