import DocQuery.Pattern

/-!
# Flags of patterns

To the engine, flags are the three options that they switch on.  A text that is not made of
flags has a first character that is none, and this one is the error whatever the source is.
-/

namespace DocQuery

namespace Pattern

/-- The characters that are flags. -/
def IsFlag (flag : Char) : Prop :=
  flag ∈ ['i', 'm', 's', 'g', 'y', 'u']

instance : DecidablePred IsFlag := fun flag =>
  inferInstanceAs (Decidable (flag ∈ ['i', 'm', 's', 'g', 'y', 'u']))

/-- The options that flags switch on. -/
def optionsOf (flags : List Char) : Regex.Options where
  ignoreCase := decide ('i' ∈ flags)
  multiLine := decide ('m' ∈ flags)
  dotAll := decide ('s' ∈ flags)

/-- Flags that switch on the same options. -/
def SwitchAlike (flags others : List Char) : Prop :=
  ∀ flag ∈ ['i', 'm', 's'], flag ∈ flags ↔ flag ∈ others

theorem SwitchAlike.optionsOf_eq {flags others : List Char} (h : SwitchAlike flags others) :
    optionsOf flags = optionsOf others := by
  simp only [SwitchAlike, List.forall_mem_cons] at h
  obtain ⟨hi, hm, hs, -⟩ := h
  simp only [optionsOf, hi, hm, hs]

/-! ## Switching options on -/

/-- Options with those of some flags switched on besides. -/
def switchedOn (options : Regex.Options) (flags : List Char) : Regex.Options :=
  { options with
    ignoreCase := options.ignoreCase || (optionsOf flags).ignoreCase
    multiLine := options.multiLine || (optionsOf flags).multiLine
    dotAll := options.dotAll || (optionsOf flags).dotAll }

theorem switchedOn_nil (options : Regex.Options) : switchedOn options [] = options := by
  simp [switchedOn, optionsOf]

theorem switchedOn_default (flags : List Char) : switchedOn {} flags = optionsOf flags := by
  simp [switchedOn, optionsOf]

theorem switchedOn_cons (options : Regex.Options) (flag : Char) (rest : List Char) :
    switchedOn options (flag :: rest) = switchedOn (switchedOn options [flag]) rest := by
  simp [switchedOn, optionsOf, Bool.decide_or, Bool.or_assoc]

theorem applyFlag?_of_isFlag (options : Regex.Options) {flag : Char} (h : IsFlag flag) :
    applyFlag? options flag = some (switchedOn options [flag]) := by
  simp only [IsFlag, List.mem_cons, List.not_mem_nil, or_false] at h
  rcases h with rfl | rfl | rfl | rfl | rfl | rfl <;>
    simp [applyFlag?, switchedOn, optionsOf]

theorem applyFlag?_of_not_isFlag (options : Regex.Options) {flag : Char} (h : ¬ IsFlag flag) :
    applyFlag? options flag = none := by
  simp only [IsFlag, List.mem_cons, List.not_mem_nil, or_false, not_or] at h
  unfold applyFlag?
  split <;> simp_all

theorem applyFlags_of_isFlag (options : Regex.Options) {flags : List Char}
    (h : ∀ flag ∈ flags, IsFlag flag) :
    applyFlags options flags = .ok (switchedOn options flags) := by
  induction flags generalizing options with
  | nil =>
      rw [switchedOn_nil]
      rfl
  | cons flag rest ih =>
      obtain ⟨hflag, hrest⟩ := List.forall_mem_cons.mp h
      simp only [applyFlags, applyFlag?_of_isFlag options hflag]
      rw [ih _ hrest, ← switchedOn_cons]

theorem applyFlags_of_not_isFlag (options : Regex.Options) {front back : List Char} {flag : Char}
    (hfront : ∀ other ∈ front, IsFlag other) (hflag : ¬ IsFlag flag) :
    applyFlags options (front ++ flag :: back) = .error (.patternFlag flag) := by
  induction front generalizing options with
  | nil =>
      simp only [List.nil_append, applyFlags, applyFlag?_of_not_isFlag options hflag]
  | cons other rest ih =>
      obtain ⟨hother, hrest⟩ := List.forall_mem_cons.mp hfront
      simp only [List.cons_append, applyFlags, applyFlag?_of_isFlag options hother]
      exact ih _ hrest

/-! ## Compilation under flags -/

/-- The program that the engine makes of a source under flags, if it takes the source. -/
def engine? (source : String) (flags : List Char) : Option Regex.Program :=
  Regex.Program.ofPattern? (optionsOf flags) source.toList

theorem SwitchAlike.engine?_eq {flags others : List Char} (h : SwitchAlike flags others)
    (source : String) : engine? source flags = engine? source others := by
  rw [engine?, h.optionsOf_eq, engine?]

section

variable {source flags : String}

theorem compile_of_isFlag (source : String) (h : ∀ flag ∈ flags.toList, IsFlag flag) :
    compile source flags =
      match engine? source flags.toList with
      | some program => .ok program
      | none => .error .pattern := by
  simp only [compile, applyFlags_of_isFlag {} h, switchedOn_default]
  rfl

theorem compile_of_not_isFlag (source : String) {front back : List Char} {flag : Char}
    (hflags : flags.toList = front ++ flag :: back) (hfront : ∀ other ∈ front, IsFlag other)
    (hflag : ¬ IsFlag flag) : compile source flags = .error (.patternFlag flag) := by
  simp only [compile, hflags, applyFlags_of_not_isFlag {} hfront hflag]

/-- Characters that are not all flags have a first one that is none. -/
theorem isFlag_or_first_not_isFlag (flags : List Char) :
    (∀ flag ∈ flags, IsFlag flag) ∨
      ∃ front flag back, flags = front ++ flag :: back ∧ (∀ other ∈ front, IsFlag other) ∧
        ¬ IsFlag flag := by
  cases hfind : flags.find? (fun flag => ! decide (IsFlag flag)) with
  | none =>
      exact .inl fun flag hmem => by simpa using List.find?_eq_none.mp hfind flag hmem
  | some flag =>
      obtain ⟨hflag, front, back, hflags, hfront⟩ := List.find?_eq_some_iff_append.mp hfind
      exact .inr ⟨front, flag, back, hflags, by simpa using hfront, by simpa using hflag⟩

/-- Why a source under flags is no pattern: a first flag that is none, whatever the source is,
or a source that the engine does not take. -/
inductive Refused (source flags : String) : QueryError → Prop
  | flag {front back : List Char} {flag : Char} (split : flags.toList = front ++ flag :: back)
      (before : ∀ other ∈ front, IsFlag other) (unknown : ¬ IsFlag flag) :
      Refused source flags (.patternFlag flag)
  | source (known : ∀ flag ∈ flags.toList, IsFlag flag)
      (invalid : engine? source flags.toList = none) : Refused source flags .pattern

theorem compile_eq_error_iff {error : QueryError} :
    compile source flags = .error error ↔ Refused source flags error := by
  constructor
  · intro h
    rcases isFlag_or_first_not_isFlag flags.toList with
      hknown | ⟨front, flag, back, hsplit, hbefore, hunknown⟩
    · rw [compile_of_isFlag source hknown] at h
      cases hengine : engine? source flags.toList with
      | none =>
          rw [hengine] at h
          cases h
          exact .source hknown hengine
      | some program =>
          rw [hengine] at h
          cases h
    · rw [compile_of_not_isFlag source hsplit hbefore hunknown] at h
      cases h
      exact .flag hsplit hbefore hunknown
  · rintro (⟨hsplit, hbefore, hunknown⟩ | ⟨hknown, hinvalid⟩)
    · exact compile_of_not_isFlag source hsplit hbefore hunknown
    · rw [compile_of_isFlag source hknown, hinvalid]

theorem compile_eq_ok_iff {program : Regex.Program} :
    compile source flags = .ok program ↔
      (∀ flag ∈ flags.toList, IsFlag flag) ∧ engine? source flags.toList = some program := by
  rcases isFlag_or_first_not_isFlag flags.toList with
    hknown | ⟨front, flag, back, hsplit, hbefore, hunknown⟩
  · rw [compile_of_isFlag source hknown, and_iff_right hknown]
    cases engine? source flags.toList <;> simp
  · rw [compile_of_not_isFlag source hsplit hbefore hunknown]
    refine iff_of_false nofun fun ⟨hknown, _⟩ => hunknown (hknown flag ?_)
    rw [hsplit]
    exact List.mem_append_right front List.mem_cons_self

theorem isFlag_of_mem_flags (pattern : Pattern) : ∀ flag ∈ pattern.flags.toList, IsFlag flag :=
  (compile_eq_ok_iff.mp pattern.compiles).1

theorem engine?_eq_program (pattern : Pattern) :
    engine? pattern.source pattern.flags.toList = some pattern.program :=
  (compile_eq_ok_iff.mp pattern.compiles).2

theorem ofSource_eq_ok {pattern : Pattern} (h : ofSource source flags = .ok pattern) :
    pattern.source = source ∧ pattern.flags = flags := by
  unfold ofSource at h
  split at h
  · cases h
    exact ⟨rfl, rfl⟩
  · cases h

theorem ofSource_eq_error_iff {error : QueryError} :
    ofSource source flags = .error error ↔ Refused source flags error := by
  rw [← compile_eq_error_iff]
  unfold ofSource
  split <;> simp_all

theorem exists_ofSource_eq_ok_iff :
    (∃ pattern, ofSource source flags = .ok pattern) ↔
      (∀ flag ∈ flags.toList, IsFlag flag) ∧
        ∃ program, engine? source flags.toList = some program := by
  rw [← exists_and_left]
  simp only [← compile_eq_ok_iff]
  unfold ofSource
  split <;> simp_all

end

end Pattern

end DocQuery
