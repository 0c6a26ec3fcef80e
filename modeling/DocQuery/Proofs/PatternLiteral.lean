import DocQuery.Proofs.PatternFlags

/-!
# Pattern literals

The source of a pattern may have slashes but its flags have none, so the last slash of a
literal is the one that ends the source, and a pattern is read back from its own text.  Of a
literal that is no pattern the form is looked at first, then the flags in order, and the source
last.
-/

namespace DocQuery

namespace Pattern

theorem slash_not_mem_flags (pattern : Pattern) : '/' ∉ pattern.flags.toList := by
  intro hmem
  exact absurd (pattern.isFlag_of_mem_flags '/' hmem) (by decide)

theorem splitAtLastSlash?_eq_none {text : List Char} (h : '/' ∉ text) :
    splitAtLastSlash? text = none := by
  induction text with
  | nil =>
      rfl
  | cons c rest ih =>
      obtain ⟨hc, hrest⟩ := not_or.mp fun hmem => h (List.mem_cons.mpr hmem)
      rw [splitAtLastSlash?, ih hrest]
      exact if_neg fun heq => hc heq.symm

theorem splitAtLastSlash?_append (source : List Char) {flags : List Char} (h : '/' ∉ flags) :
    splitAtLastSlash? (source ++ '/' :: flags) = some (source, flags) := by
  -- The flags have no slash, so the one before them stays the last, whatever the source.
  induction source with
  | nil =>
      rw [List.nil_append, splitAtLastSlash?, splitAtLastSlash?_eq_none h]
      rfl
  | cons c rest ih =>
      rw [List.cons_append, splitAtLastSlash?, ih]

/-! ## Parts of literals -/

/-- A literal is a source between two slashes, which may have more, and flags without one. -/
structure Written (literal source flags : String) : Prop where
  eq_append : literal = "/" ++ source ++ "/" ++ flags
  plain : '/' ∉ flags.toList

/-- A literal does not start with a slash, or has no second one. -/
def SlashMissing (literal : String) : Prop :=
  literal.toList.head? ≠ some '/' ∨ literal.toList.count '/' < 2

theorem written_text (pattern : Pattern) :
    Written pattern.text pattern.source pattern.flags where
  eq_append := rfl
  plain := pattern.slash_not_mem_flags

theorem Written.ofLiteral_eq {literal source flags : String} (h : Written literal source flags) :
    ofLiteral literal = ofSource source flags := by
  have htext : literal.toList = '/' :: (source.toList ++ '/' :: flags.toList) := by
    simp [h.eq_append]
  have hsplit := splitAtLastSlash?_append source.toList h.plain
  unfold ofLiteral
  rw [htext]
  simp only [hsplit, String.ofList_toList]

theorem ofLiteral_of_slashMissing {literal : String} (h : SlashMissing literal) :
    ofLiteral literal = .error (.patternLiteral literal) := by
  unfold ofLiteral
  split
  · rename_i body hbody
    have hcount : body.count '/' + 1 < 2 := by
      simpa [SlashMissing, hbody] using h
    have hslash : '/' ∉ body := List.count_eq_zero.mp (by omega)
    simp only [splitAtLastSlash?_eq_none hslash]
  · rfl

theorem written_or_slashMissing (literal : String) :
    (∃ source flags, Written literal source flags) ∨ SlashMissing literal := by
  cases hliteral : literal.toList with
  | nil =>
      exact .inr (.inl (by simp [hliteral]))
  | cons first body =>
      by_cases hfirst : first = '/'
      · subst hfirst
        by_cases hslash : '/' ∈ body
        · -- The first slash from behind is the last one.
          obtain ⟨back, front, hreverse, hback⟩ :=
            List.eq_append_cons_of_mem (List.mem_reverse.mpr hslash)
          have hbody : body = front.reverse ++ '/' :: back.reverse := by
            simpa using congrArg List.reverse hreverse
          refine .inl ⟨String.ofList front.reverse, String.ofList back.reverse, ?_, ?_⟩
          · exact String.toList_inj.mp (by simp [hliteral, hbody])
          · simpa using hback
        · exact .inr (.inr (by simp [hliteral, List.count_eq_zero.mpr hslash]))
      · exact .inr (.inl (by simpa [hliteral] using hfirst))

/-- The literal of a pattern is read as that pattern. -/
theorem ofLiteral_text (pattern : Pattern) : ofLiteral pattern.text = .ok pattern :=
  pattern.written_text.ofLiteral_eq.trans pattern.ofSource_self

/-! ## Reading literals -/

inductive Unreadable (literal : String) : QueryError → Prop
  | slash (missing : SlashMissing literal) : Unreadable literal (.patternLiteral literal)
  | parts {source flags : String} {error : QueryError} (written : Written literal source flags)
      (refused : Refused source flags error) : Unreadable literal error

theorem ofLiteral_eq_error_iff {literal : String} {error : QueryError} :
    ofLiteral literal = .error error ↔ Unreadable literal error := by
  constructor
  · intro h
    rcases written_or_slashMissing literal with ⟨source, flags, hwritten⟩ | hmissing
    · rw [hwritten.ofLiteral_eq, ofSource_eq_error_iff] at h
      exact .parts hwritten h
    · rw [ofLiteral_of_slashMissing hmissing] at h
      cases h
      exact .slash hmissing
  · rintro (hmissing | ⟨hwritten, hrefused⟩)
    · exact ofLiteral_of_slashMissing hmissing
    · rw [hwritten.ofLiteral_eq, ofSource_eq_error_iff]
      exact hrefused

theorem exists_ofLiteral_eq_ok_iff {literal : String} :
    (∃ pattern, ofLiteral literal = .ok pattern) ↔
      ∃ source flags, Written literal source flags ∧ (∀ flag ∈ flags.toList, IsFlag flag) ∧
        ∃ program, engine? source flags.toList = some program := by
  constructor
  · rintro ⟨pattern, h⟩
    rcases written_or_slashMissing literal with ⟨source, flags, hwritten⟩ | hmissing
    · rw [hwritten.ofLiteral_eq] at h
      exact ⟨source, flags, hwritten, exists_ofSource_eq_ok_iff.mp ⟨pattern, h⟩⟩
    · rw [ofLiteral_of_slashMissing hmissing] at h
      cases h
  · rintro ⟨source, flags, hwritten, haccepted⟩
    rw [hwritten.ofLiteral_eq]
    exact exists_ofSource_eq_ok_iff.mpr haccepted

theorem Written.eq_of_ofLiteral {literal source flags : String} {pattern : Pattern}
    (hwritten : Written literal source flags) (h : ofLiteral literal = .ok pattern) :
    pattern.source = source ∧ pattern.flags = flags ∧ pattern.text = literal := by
  rw [hwritten.ofLiteral_eq] at h
  obtain ⟨rfl, rfl⟩ := ofSource_eq_ok h
  exact ⟨rfl, rfl, hwritten.eq_append.symm⟩

/-- A source is taken alike under flags that switch on the same options, and matches alike. -/
theorem exists_ofSource_of_switchAlike {source flags others : String} {pattern : Pattern}
    (h : ofSource source flags = .ok pattern) (hothers : ∀ flag ∈ others.toList, IsFlag flag)
    (halike : SwitchAlike flags.toList others.toList) :
    ∃ other, ofSource source others = .ok other ∧
      ∀ text, other.isMatch text = pattern.isMatch text := by
  obtain ⟨rfl, rfl⟩ := ofSource_eq_ok h
  have hengine : engine? pattern.source others.toList = some pattern.program := by
    rw [← halike.engine?_eq, pattern.engine?_eq_program]
  obtain ⟨other, hother⟩ := exists_ofSource_eq_ok_iff.mpr ⟨hothers, _, hengine⟩
  obtain ⟨hsource, hflags⟩ := ofSource_eq_ok hother
  have hprogram : other.program = pattern.program := by
    have hown := other.engine?_eq_program
    rw [hsource, hflags, hengine] at hown
    exact (Option.some.inj hown).symm
  exact ⟨other, hother, fun text => by rw [isMatch, hprogram, isMatch]⟩

/-- Literals are read as what they are written from, and a pattern is written so that it is read
again.  A literal that is no pattern has the first of its faults as the error.  Flags count only
by the options that they switch on. -/
theorem literals_read_as_written :
    (∀ literal, (∃ pattern, ofLiteral literal = .ok pattern) ↔
        ∃ source flags, Written literal source flags ∧
          (∀ flag ∈ flags.toList, IsFlag flag) ∧
          ∃ program, engine? source flags.toList = some program) ∧
      (∀ literal source flags pattern, Written literal source flags →
        ofLiteral literal = .ok pattern →
          pattern.source = source ∧ pattern.flags = flags ∧ pattern.text = literal) ∧
      (∀ source flags pattern, ofSource source flags = .ok pattern →
        pattern.source = source ∧ pattern.flags = flags ∧
          ofLiteral pattern.text = .ok pattern) ∧
      (∀ literal error, ofLiteral literal = .error error ↔ Unreadable literal error) ∧
      ∀ source flags others pattern, ofSource source flags = .ok pattern →
        (∀ flag ∈ others.toList, IsFlag flag) → SwitchAlike flags.toList others.toList →
          ∃ other, ofSource source others = .ok other ∧
            ∀ text, other.isMatch text = pattern.isMatch text := by
  refine ⟨fun _ => exists_ofLiteral_eq_ok_iff, fun _ _ _ _ => Written.eq_of_ofLiteral,
    fun source flags pattern h => ?_, fun _ _ => ofLiteral_eq_error_iff,
    fun _ _ _ _ => exists_ofSource_of_switchAlike⟩
  obtain ⟨hsource, hflags⟩ := ofSource_eq_ok h
  exact ⟨hsource, hflags, pattern.ofLiteral_text⟩

/-- A source with a slash, flags with a fault in front of a source with one, and a source under
the same flags in another order and once more. -/
theorem literals_read_as_written_slashes :
    (∃ pattern, ofLiteral "/a/b/ms" = .ok pattern ∧ pattern.source = "a/b" ∧
        ∃ other, ofSource "a/b" "smgm" = .ok other ∧
          ∀ text, other.isMatch text = pattern.isMatch text) ∧
      ofLiteral "/(/mqs" = .error (.patternFlag 'q') ∧ engine? "(" ['m', 's'] = none ∧
      ofLiteral "/a" = .error (.patternLiteral "/a") := by
  obtain ⟨hok, hparts, -, herror, halike⟩ := literals_read_as_written
  have hwritten : Written "/a/b/ms" "a/b" "ms" := ⟨rfl, by decide⟩
  obtain ⟨pattern, hpattern⟩ :=
    (hok "/a/b/ms").mpr ⟨"a/b", "ms", hwritten, by simp [IsFlag], _, rfl⟩
  refine ⟨⟨pattern, hpattern, (hparts _ _ _ _ hwritten hpattern).1, ?_⟩, ?_, rfl, ?_⟩
  · refine halike "a/b" "ms" "smgm" pattern ?_ (by simp [IsFlag]) (by simp [SwitchAlike])
    rw [← hwritten.ofLiteral_eq, hpattern]
  · have hfaulty : Written "/(/mqs" "(" "mqs" := ⟨rfl, by decide⟩
    have hflags : "mqs".toList = ['m'] ++ 'q' :: ['s'] := rfl
    exact (herror _ _).mpr (.parts hfaulty (.flag hflags (by simp [IsFlag]) (by decide)))
  · exact (herror _ _).mpr (.slash (.inr (by decide)))

end Pattern

end DocQuery
