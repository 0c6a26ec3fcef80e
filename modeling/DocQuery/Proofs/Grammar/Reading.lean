import DocQuery.Proofs.Grammar.Compilation
import DocQuery.Proofs.PatternLiteral
import Mathlib.Data.List.Basic

/-!
# Queries that read alike

Two queries read alike if the same is found wrong in them and they mean the same, so that
a compiler with the standard operators does the same with both.  Queries whose fields
read alike one by one do so too, and a field is judged by its form: what a name finds in
an operand, and how the sub-queries in an operand read.
-/

namespace DocQuery

/-! ## Fields and queries -/

/-- A compiler with the standard operators does the same with queries in which the same is
found and which mean the same. -/
theorem Compiler.result_compile_congr {query other : Query}
    (found : findings other.fields = findings query.fields)
    (meaning : ∀ revision, means other.fields revision = means query.fields revision)
    (config : Config) :
    (({ config } : Compiler).compile other).result =
      (({ config } : Compiler).compile query).result := by
  have hmeans : means other.fields = means query.fields := funext meaning
  rw [Compiler.result_compile_standard, Compiler.result_compile_standard, found, hmeans]

/-- Whether the same is found in two queries, and the same said by them. -/
structure SameReading (fields others : List (String × Term)) : Prop where
  found : findings others = findings fields
  equalities : ∀ key, hasEquality key others = hasEquality key fields
  meaning : ∀ revision, means others revision = means fields revision

structure SameItem (item other : Term) : Prop where
  found : itemFindings other = itemFindings item
  meaning : ∀ revision, meansItem other revision = meansItem item revision

/-- Whether two terms read alike in a field. -/
structure SameField (key : String) (term other : Term) : Prop where
  found : fieldFindings key other (other.elements.flatMap itemFindings) =
    fieldFindings key term (term.elements.flatMap itemFindings)
  isEquality : (form key other).isEquality = (form key term).isEquality
  meaning : ∀ superseded revision,
    fieldHolds key other superseded (meansSome other revision) revision =
      fieldHolds key term superseded (meansSome term revision) revision

namespace SameReading

theorem refl (fields : List (String × Term)) : SameReading fields fields :=
  ⟨rfl, fun _ => rfl, fun _ => rfl⟩

theorem trans {fields others more : List (String × Term)} (hothers : SameReading fields others)
    (hmore : SameReading others more) : SameReading fields more where
  found := hmore.found.trans hothers.found
  equalities key := (hmore.equalities key).trans (hothers.equalities key)
  meaning revision := (hmore.meaning revision).trans (hothers.meaning revision)

theorem cons {key : String} {term other : Term} {rest others : List (String × Term)}
    (hfield : SameField key term other) (hrest : SameReading rest others) :
    SameReading ((key, term) :: rest) ((key, other) :: others) where
  found := by
    rw [findings_cons, findings_cons, hfield.found, hrest.found]
  equalities wanted := by
    rw [hasEquality_cons, hasEquality_cons, hfield.isEquality, hrest.equalities]
  meaning revision := by
    rw [means, means, hrest.equalities, hfield.meaning, hrest.meaning]

/-- A compiler with the standard operators does the same with queries that read alike. -/
theorem result_compile {query other : Query} (alike : SameReading query.fields other.fields)
    (config : Config) :
    (({ config } : Compiler).compile other).result =
      (({ config } : Compiler).compile query).result :=
  Compiler.result_compile_congr alike.found alike.meaning config

end SameReading

/-! ## Items -/

namespace SameItem

theorem refl (item : Term) : SameItem item item :=
  ⟨rfl, fun _ => rfl⟩

theorem map {fields others : List (String × Term)} (alike : SameReading fields others) :
    SameItem (.map fields) (.map others) :=
  ⟨alike.found, alike.meaning⟩

end SameItem

theorem flatMap_itemFindings {items : List Term} {change : Term → Term}
    (alike : ∀ item ∈ items, SameItem item (change item)) :
    (items.map change).flatMap itemFindings = items.flatMap itemFindings := by
  rw [List.flatMap_map]
  exact List.flatMap_congr fun item hmem => (alike item hmem).found

theorem any_meansItem {items : List Term} {change : Term → Term}
    (alike : ∀ item ∈ items, SameItem item (change item)) (revision : Revision) :
    ((items.map change).any fun item => meansItem item revision) =
      items.any fun item => meansItem item revision := by
  have hitems : items.map (fun item => meansItem (change item) revision) =
      items.map fun item => meansItem item revision :=
    List.map_congr_left fun item hmem => (alike item hmem).meaning revision
  have hany := congrArg (List.any · id) hitems
  simpa only [List.any_map, Function.comp_def, id] using hany

/-! ## Names in maps -/

theorem FieldWord.fault?_regex_text (pattern : Pattern) :
    regex.fault? (.scalar (.string pattern.text)) = none := by
  simp [fault?, takesEach, partFault?, takes, Term.string?, Term.scalar?, Json.string?,
    pattern.ofLiteral_text]

theorem FieldWord.holds_regex_text (pattern : Pattern) (field : FieldHistory) :
    regex.holds (.scalar (.string pattern.text)) field = pattern.occursIn field.now := by
  simp [holds, pattern.ofLiteral_text]

structure SameEntry (entry other : String × Term) : Prop where
  found : entryFindings other = entryFindings entry
  meaning : ∀ field, entryHolds other field = entryHolds entry field

namespace SameEntry

theorem refl (entry : String × Term) : SameEntry entry entry :=
  ⟨rfl, fun _ => rfl⟩

theorem of_unknown {name : String}
    (h : (Signed.ofText? name : Option (Signed FieldWord)) = none) (operand other : Term) :
    SameEntry (name, operand) (name, other) where
  found := by
    simp only [entryFindings, h]
  meaning field := by
    simp only [entryHolds, h]

theorem of_word {name : String} {signed : Signed FieldWord}
    (h : Signed.ofText? name = some signed) {operand other : Term}
    (hfault : signed.word.fault? other = signed.word.fault? operand)
    (hholds : ∀ field, signed.word.holds other field = signed.word.holds operand field) :
    SameEntry (name, operand) (name, other) where
  found := by
    simp only [entryFindings, h, hfault]
  meaning field := by
    simp only [entryHolds, h, Signed.holds, hholds]

end SameEntry

/-! ## Forms -/

namespace SameField

theorem refl (key : String) (term : Term) : SameField key term term :=
  ⟨rfl, rfl, fun _ _ => rfl⟩

/-- A pattern in the place of a value is read as the literal of its text under the pattern
operator. -/
theorem pattern {key : String} (hkey : (Signed.ofText? key : Option (Signed ClauseWord)) = none)
    (pattern : Pattern) :
    SameField key (.regex pattern)
      (.map [(patternOperator, .scalar (.string pattern.text))]) := by
  have hform : form key (.regex pattern) = .pattern pattern := rfl
  have hother : form key (.map [(patternOperator, .scalar (.string pattern.text))]) =
      .operators [(patternOperator, .scalar (.string pattern.text))] :=
    form_eq_operators_iff.mpr ⟨hkey, rfl⟩
  have hword : Signed.ofText? patternOperator = some ⟨FieldWord.regex, false⟩ := rfl
  constructor
  · simp only [fieldFindings, hform, hother, List.flatMap_cons, List.flatMap_nil, entryFindings,
      hword, FieldWord.fault?_regex_text]
    rfl
  · rw [hform, hother]
    rfl
  · intro superseded revision
    simp only [fieldHolds, hform, hother, List.all_cons, List.all_nil, Bool.and_true,
      entryHolds, hword, Signed.holds, FieldWord.holds_regex_text]
    exact Bool.false_bne _

theorem ignored {key : String} {term other : Term} (hform : form key term = .ignored)
    (hother : form key other = .ignored) : SameField key term other := by
  constructor
  · simp only [fieldFindings, hform, hother]
  · rw [hform, hother]
  · intro superseded revision
    simp only [fieldHolds, hform, hother]

/-- Of the term of an equality only its JSON value counts. -/
theorem equality {key : String} {term other : Term} (hform : form key term = .equality)
    (hother : form key other = .equality) (hvalue : other.toJson = term.toJson) :
    SameField key term other := by
  constructor
  · simp only [fieldFindings, hform, hother]
  · rw [hform, hother]
  · intro superseded revision
    simp only [fieldHolds, hform, hother, FieldWord.equals, hvalue]

theorem entries {key : String} {entries : List (String × Term)}
    (hform : form key (.map entries) = .operators entries)
    {change : String × Term → String × Term}
    (alike : ∀ entry ∈ entries, SameEntry entry (change entry)) :
    SameField key (.map entries) (.map (entries.map change)) := by
  have hother : form key (.map (entries.map change)) = .operators (entries.map change) :=
    form_eq_operators_iff.mpr ⟨(form_eq_operators_iff.mp hform).1, rfl⟩
  constructor
  · simp only [fieldFindings, hform, hother]
    rw [List.flatMap_map]
    exact List.flatMap_congr fun entry hmem => (alike entry hmem).found
  · rw [hform, hother]
    rfl
  · intro superseded revision
    simp only [fieldHolds, hform, hother]
    rw [Bool.eq_iff_iff, List.all_map, List.all_eq_true, List.all_eq_true]
    refine forall_congr' fun entry => forall_congr' fun hmem => ?_
    rw [Function.comp_apply, (alike entry hmem).meaning]

/-- An operand of sub-queries reads as its items do. -/
theorem subqueries {key : String} {term other : Term} {negated : Bool}
    (hform : form key term = .clause ⟨.anyQuery, negated⟩)
    (hother : form key other = .clause ⟨.anyQuery, negated⟩) {change : Term → Term}
    (helements : other.elements = term.elements.map change)
    (alike : ∀ item ∈ term.elements, SameItem item (change item)) :
    SameField key term other := by
  constructor
  · simp only [fieldFindings, hform, hother, ClauseWord.findings]
    rw [helements, flatMap_itemFindings alike]
  · rw [hform, hother]
  · intro superseded revision
    have hsome : meansSome other revision = meansSome term revision := by
      rw [meansSome_eq, meansSome_eq, helements, any_meansItem alike]
    simp only [fieldHolds, hform, hother, ClauseWord.holds, hsome]

/-- An operand of field names reads as the texts of its items do. -/
theorem names {key : String} {term other : Term} {negated : Bool}
    (hform : form key term = .clause ⟨.hasFields, negated⟩)
    (hother : form key other = .clause ⟨.hasFields, negated⟩) {change : Term → Term}
    (helements : other.elements = term.elements.map change)
    (alike : ∀ item ∈ term.elements, (change item).string? = item.string?) :
    SameField key term other := by
  have htexts : other.elements.map Term.string? = term.elements.map Term.string? := by
    rw [helements, List.map_map]
    exact List.map_congr_left alike
  constructor
  · have hfound := congrArg (List.flatMap fun text : Option String =>
      if text.isSome then [] else [Finding.malformed ClauseWord.hasFields.fault]) htexts
    simpa only [fieldFindings, hform, hother, ClauseWord.findings, List.flatMap_map]
      using hfound
  · rw [hform, hother]
  · intro superseded revision
    have hall := congrArg (List.all · fun text : Option String =>
      text.any fun name => (revision.field name).now.isSome) htexts
    have hholds : ClauseWord.hasFields.holds other (meansSome other revision) revision =
        ClauseWord.hasFields.holds term (meansSome term revision) revision := by
      simpa only [ClauseWord.holds, List.all_map, Function.comp_def] using hall
    simp only [fieldHolds, hform, hother, hholds]

/-- What a clause word reads of its operand are texts or sub-queries, item by item. -/
theorem clause {key : String} {term other : Term} {signed : Signed ClauseWord}
    (hkey : Signed.ofText? key = some signed) (hterm : ∀ pattern, term ≠ .regex pattern)
    (hother : ∀ pattern, other ≠ .regex pattern) {change : Term → Term}
    (helements : other.elements = term.elements.map change)
    (texts : signed.word = .hasFields →
      ∀ item ∈ term.elements, (change item).string? = item.string?)
    (items : signed.word = .anyQuery → ∀ item ∈ term.elements, SameItem item (change item)) :
    SameField key term other := by
  have hform := form_eq_clause_iff.mpr ⟨hterm, hkey⟩
  have hchanged := form_eq_clause_iff.mpr ⟨hother, hkey⟩
  obtain ⟨word, negated⟩ := signed
  cases word with
  | hasFields => exact names hform hchanged helements (texts rfl)
  | anyQuery => exact subqueries hform hchanged helements (items rfl)

end SameField

end DocQuery
