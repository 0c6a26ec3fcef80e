import DocQuery.Proofs.SingleField
import Mathlib.Data.List.Infix

/-!
# Texts within texts

A text and the texts that it must contain are put into lower case apart from each other.
Letter by letter that keeps a text inside another one; only a capital sigma looks at its
neighbours, and at the end of a text it has others than in the middle of a word.  So what a
text contains it also contains in lower case, at the places where the capital sigmas take the
forms that they take in the contained text alone.
-/

namespace DocQuery

namespace Text

theorem contains_iff {needle text : List Char} :
    contains needle text = true ↔ needle <:+: text := by
  induction text with
  | nil =>
      rw [contains, List.isEmpty_iff, List.infix_nil]
  | cons c rest ih =>
      rw [contains, Bool.or_eq_true, ih, List.isPrefixOf_iff_prefix, List.infix_cons_iff]

/-! ## Lower case of a stretch -/

/-- The lower case of a stretch of a text between what comes before it, nearest first, and
what comes after it. -/
def lowerBetween (before : List Char) : List Char → List Char → List Char
  | [], _ => []
  | c :: rest, after =>
      (if c = 'Σ' then [lowerSigma before (rest ++ after)] else lowerChar c)
        ++ lowerBetween (c :: before) rest after

theorem lowerFrom_append (before stretch after : List Char) :
    lowerFrom before (stretch ++ after) =
      lowerBetween before stretch after ++ lowerFrom (stretch.reverse ++ before) after := by
  induction stretch generalizing before with
  | nil =>
      rfl
  | cons c rest ih =>
      rw [List.cons_append, lowerFrom, lowerBetween, ih, List.append_assoc, List.reverse_cons,
        List.append_assoc, List.singleton_append]

theorem lowerFrom_eq (before stretch : List Char) :
    lowerFrom before stretch = lowerBetween before stretch [] := by
  have happend := lowerFrom_append before stretch []
  rwa [List.append_nil, lowerFrom, List.append_nil] at happend

theorem length_lowerBetween (before other stretch after behind : List Char) :
    (lowerBetween before stretch after).length = (lowerBetween other stretch behind).length := by
  induction stretch generalizing before other with
  | nil =>
      rfl
  | cons c rest ih =>
      rw [lowerBetween, lowerBetween, List.length_append, List.length_append,
        ih (c :: before) (c :: other)]
      by_cases hsigma : c = 'Σ' <;> simp [hsigma]

/-- Whether each capital sigma of a stretch takes the form between what comes before the
stretch, nearest first, and what comes after it that it takes in the stretch alone. -/
def KeepsSigmas (before stretch after : List Char) : Prop :=
  ∀ front back, stretch = front ++ 'Σ' :: back →
    lowerSigma (front.reverse ++ before) (back ++ after) = lowerSigma front.reverse back

theorem keepsSigmas_of_not_mem {stretch : List Char} (h : 'Σ' ∉ stretch)
    (before after : List Char) : KeepsSigmas before stretch after := by
  rintro front back rfl
  exact absurd (List.mem_append_right front List.mem_cons_self) h

theorem forall_split_cons {motive : List Char → List Char → Prop} (mark c : Char)
    (rest : List Char) :
    (∀ front back, c :: rest = front ++ mark :: back → motive front back) ↔
      (c = mark → motive [] rest) ∧
        ∀ front back, rest = front ++ mark :: back → motive (c :: front) back := by
  constructor
  · intro h
    exact ⟨fun heq => h [] rest (by rw [heq]; rfl),
      fun front back hsplit => h (c :: front) back (by rw [hsplit]; rfl)⟩
  · rintro ⟨hfirst, hlater⟩ front back hsplit
    cases front with
    | nil =>
        cases hsplit
        exact hfirst rfl
    | cons d front =>
        cases hsplit
        exact hlater front back rfl

/-- The stretch stands behind a part of itself, which comes first in the induction. -/
theorem lowerBetween_eq_iff (before done stretch after : List Char) :
    lowerBetween (done ++ before) stretch after = lowerBetween done stretch [] ↔
      ∀ front back, stretch = front ++ 'Σ' :: back →
        lowerSigma (front.reverse ++ (done ++ before)) (back ++ after) =
          lowerSigma (front.reverse ++ done) back := by
  induction stretch generalizing done with
  | nil =>
      refine ⟨fun _ front back hsplit => ?_, fun _ => rfl⟩
      cases front <;> cases hsplit
  | cons c rest ih =>
      have hrest := ih (c :: done)
      rw [List.cons_append] at hrest
      rw [forall_split_cons, lowerBetween, lowerBetween, List.append_nil]
      simp only [List.reverse_cons, List.append_assoc, List.singleton_append, List.reverse_nil,
        List.nil_append]
      by_cases hsigma : c = 'Σ'
      · rw [if_pos hsigma, if_pos hsigma, List.singleton_append, List.singleton_append,
          List.cons.injEq, hrest, forall_prop_of_true hsigma]
      · rw [if_neg hsigma, if_neg hsigma, List.append_cancel_left_eq, hrest]
        exact (and_iff_right fun heq => absurd heq hsigma).symm

theorem lowercase_append (before stretch after : List Char) :
    lowercase (before ++ stretch ++ after) =
      lowerBetween [] before (stretch ++ after) ++
        (lowerBetween before.reverse stretch after ++
          lowerFrom (stretch.reverse ++ before.reverse) after) := by
  rw [lowercase, List.append_assoc, lowerFrom_append, List.append_nil, lowerFrom_append]

/-- A stretch of a text keeps its place in lower case exactly where it keeps its capital
sigmas. -/
theorem keepsSigmas_iff (before stretch after : List Char) :
    KeepsSigmas before.reverse stretch after ↔
      ∃ front back, front.length = (lowercase before).length ∧
        lowercase (before ++ stretch ++ after) = front ++ lowercase stretch ++ back := by
  have hstretch := lowerBetween_eq_iff before.reverse [] stretch after
  simp only [List.nil_append, List.append_nil] at hstretch
  have hkeeps : KeepsSigmas before.reverse stretch after ↔
      lowerBetween before.reverse stretch after = lowercase stretch := by
    rw [lowercase, lowerFrom_eq, hstretch]
    rfl
  have hbefore : (lowerBetween [] before (stretch ++ after)).length = (lowercase before).length := by
    rw [lowercase, lowerFrom_eq]
    exact length_lowerBetween [] [] before (stretch ++ after) []
  rw [hkeeps, lowercase_append]
  constructor
  · intro hlower
    exact ⟨_, _, hbefore, by rw [hlower, List.append_assoc]⟩
  · rintro ⟨front, back, hfront, htext⟩
    rw [List.append_assoc] at htext
    obtain ⟨_, hrest⟩ := List.append_inj htext (hbefore.trans hfront.symm)
    have hlength : (lowerBetween before.reverse stretch after).length =
        (lowercase stretch).length := by
      rw [lowercase, lowerFrom_eq]
      exact length_lowerBetween before.reverse [] stretch after []
    exact (List.append_inj hrest hlength).1

/-- Whether a text stands somewhere in another one with its capital sigmas in the forms that
they take in it alone. -/
def OccursAlike (needle text : List Char) : Prop :=
  ∃ before after, text = before ++ needle ++ after ∧ KeepsSigmas before.reverse needle after

theorem occursAlike_of_not_mem {needle text : List Char} (h : 'Σ' ∉ needle)
    (within : needle <:+: text) : OccursAlike needle text := by
  obtain ⟨before, after, htext⟩ := within
  exact ⟨before, after, htext.symm, keepsSigmas_of_not_mem h _ _⟩

theorem OccursAlike.isInfix_lowercase {needle text : List Char} (h : OccursAlike needle text) :
    lowercase needle <:+: lowercase text := by
  obtain ⟨before, after, rfl, hkeeps⟩ := h
  obtain ⟨front, back, _, htext⟩ := (keepsSigmas_iff before needle after).mp hkeeps
  exact ⟨front, back, htext.symm⟩

end Text

/-! ## Operands -/

namespace FieldWord

variable {operand : Term} {needles : List String}
  (texts : operand.elements = needles.map fun needle => .scalar (.string needle))

include texts

theorem fault?_like : like.fault? operand = none := by
  have heach : like.takesEach = true := rfl
  rw [fault?, if_pos heach, texts, List.findSome?_eq_none_iff]
  intro part hpart
  obtain ⟨needle, _, rfl⟩ := List.mem_map.mp hpart
  rfl

/-- A string has all texts of an operand in it if it has each of them in lower case. -/
theorem holds_like_string (text : String) (before : Option (Option Json)) :
    like.holds operand { now := some (.string text), before } = true ↔
      ∀ needle ∈ needles,
        Text.lowercase needle.toList <:+: Text.lowercase text.toList := by
  rw [holds, texts, List.all_map, List.all_eq_true]
  exact forall_congr' fun needle => forall_congr' fun _ => Text.contains_iff

theorem exists_string_of_holds_like (nonempty : needles ≠ []) {field : FieldHistory}
    (h : like.holds operand field = true) : ∃ text, field.now = some (.string text) := by
  obtain ⟨needle, hneedle⟩ := List.exists_mem_of_ne_nil needles nonempty
  rw [holds, texts, List.all_map, List.all_eq_true] at h
  have hcontains := h needle hneedle
  rw [Function.comp_apply] at hcontains
  unfold contains at hcontains
  split at hcontains
  · rename_i text _ hnow _
    exact ⟨text, hnow⟩
  · cases hcontains

theorem holds_like_of_nil (empty : needles = []) (field : FieldHistory) :
    like.holds operand field = true := by
  rw [holds, texts, empty]
  rfl

end FieldWord

/-! ## Queries -/

def containing (key : String) (operand : Term) : Query where
  fields := [(key, .map [("$like", operand)])]

/-- A query for texts compiles.  If it has some, only strings pass, and among them those in
which each of the texts stands with its capital sigmas in the forms that they take in it alone.
Without any text everything passes. -/
theorem containing_passes_strings (config : Config) {key : String}
    (plain : isOperatorKey key = false) {operand : Term} {needles : List String}
    (texts : operand.elements = needles.map fun needle => .scalar (.string needle)) :
    ∃ predicate : Predicate,
      (({ config } : Compiler).compile (containing key operand)).result = .ok predicate ∧
      ∀ revision,
        (needles = [] → predicate.passes revision = true) ∧
        (needles ≠ [] → predicate.passes revision = true →
          ∃ text, revision.current.field? key = some (.string text)) ∧
        ∀ text, revision.current.field? key = some (.string text) →
          (∀ needle ∈ needles, Text.OccursAlike needle.toList text.toList) →
          predicate.passes revision = true := by
  refine ⟨_, Compiler.result_compile_word config plain .like (FieldWord.fault?_like texts), ?_⟩
  intro revision
  rw [FieldWord.test, Predicate.passes_ofRevision]
  refine ⟨fun hempty => FieldWord.holds_like_of_nil texts hempty _,
    fun hnonempty hholds => FieldWord.exists_string_of_holds_like texts hnonempty hholds, ?_⟩
  intro text hfield halike
  have hhistory : revision.field key =
      { now := some (.string text), before := (revision.field key).before } := by
    rw [← hfield]
    rfl
  rw [hhistory]
  exact (FieldWord.holds_like_string texts text _).mpr fun needle hneedle =>
    (halike needle hneedle).isInfix_lowercase

/-- A capital sigma at the end of a word is not found in it, and any document passes the query
for no texts. -/
theorem containing_misses_contained :
    (¬ ∀ (needle text : String) (predicate : Predicate),
      (({} : Compiler).compile (containing "a" (.scalar (.string needle)))).result =
        .ok predicate →
      needle.toList <:+: text.toList →
      predicate.matchesDocument (.object [("a", .string text)]) = true) ∧
    ¬ ∀ (needles : List String) (predicate : Predicate) (document : Json),
      (({} : Compiler).compile
        (containing "a" (.list (needles.map fun needle => .scalar (.string needle))))).result =
          .ok predicate →
      predicate.matchesDocument document = true →
      ∃ text, document.field? "a" = some (.string text) := by
  constructor
  · intro hcontained
    have hpasses := hcontained "Σ" "ΑΣ" _ (Compiler.result_compile_word {} rfl .like rfl)
      ⟨['Α'], [], rfl⟩
    revert hpasses
    decide +kernel
  · intro hstrings
    obtain ⟨text, htext⟩ := hstrings [] _ (.object [("a", .null)])
      (Compiler.result_compile_word {} rfl .like rfl) rfl
    cases htext

/-- A final sigma, and a letter whose lower case has two characters. -/
def greekAndDotted : String := "ΑΣ İ"

theorem containing_passes_strings_sigma :
    let operand : Term := .list [.scalar (.string "ΑΣ"), .scalar (.string "İ")]
    isOperatorKey "a" = false ∧
      operand.elements = ["ΑΣ", "İ"].map (fun needle => .scalar (.string needle)) ∧
      (∀ needle ∈ ["ΑΣ", "İ"], Text.OccursAlike needle.toList greekAndDotted.toList) ∧
      ∃ predicate : Predicate,
        (({} : Compiler).compile (containing "a" operand)).result = .ok predicate ∧
        predicate.matchesDocument (.object [("a", .string greekAndDotted)]) = true ∧
        predicate.matchesDocument (.object [("a", .null)]) = false := by
  intro operand
  have halike : ∀ needle ∈ ["ΑΣ", "İ"],
      Text.OccursAlike needle.toList greekAndDotted.toList := by
    intro needle hneedle
    rcases List.mem_pair.mp hneedle with rfl | rfl
    · exact ⟨[], [' ', 'İ'], rfl, (Text.keepsSigmas_iff [] _ _).mpr
        ⟨[], [' ', 'i', '\u0307'], rfl, by decide +kernel⟩⟩
    · exact Text.occursAlike_of_not_mem (by decide) ⟨['Α', 'Σ', ' '], [], rfl⟩
  obtain ⟨predicate, hcompile, hpasses⟩ :=
    @containing_passes_strings {} "a" rfl operand ["ΑΣ", "İ"] rfl
  obtain ⟨_, _, hstring⟩ := hpasses { current := .object [("a", .string greekAndDotted)] }
  obtain ⟨_, honly, _⟩ := hpasses { current := .object [("a", .null)] }
  refine ⟨rfl, rfl, halike, predicate, hcompile, hstring greekAndDotted rfl halike, ?_⟩
  rw [Bool.eq_false_iff]
  intro hnull
  obtain ⟨text, htext⟩ := honly (List.cons_ne_nil _ _) hnull
  cases htext

end DocQuery
