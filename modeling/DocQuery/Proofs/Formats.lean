import DocQuery.Proofs.Layout
import DocQuery.Proofs.RoundTrip.Values

/-!
# The two formats of documents

Documents can be written as one array or as one value a line, and both are read as the same
documents.  A compact text stays on its line, is not blank and starts with the bracket of an
array only if it writes one; so the first character tells the formats apart as long as the
first document is no array.
-/

namespace DocQuery

namespace Json

/-! ## Compact texts on lines -/

/-- Whether no control character, and so no line feed, is among some characters. -/
def Printable (cs : List Char) : Prop :=
  ∀ c ∈ cs, 0x20 ≤ c.toNat

theorem Printable.append {cs ds : List Char} (hcs : Printable cs) (hds : Printable ds) :
    Printable (cs ++ ds) :=
  fun c hc => (List.mem_append.mp hc).elim (hcs c) (hds c)

theorem Printable.cons {c : Char} {cs : List Char} (hc : 0x20 ≤ c.toNat) (hcs : Printable cs) :
    Printable (c :: cs) :=
  fun d hd => (List.mem_cons.mp hd).elim (fun heq => heq ▸ hc) (hcs d)

theorem printable_nil : Printable [] :=
  nofun

theorem printable_escapeChar (c : Char) : Printable (escapeChar c) := by
  have hcode : ∀ v < 16, 0x20 ≤ (Text.hexDigit v).toNat := by decide
  obtain ⟨d, hescape, hletter, -⟩ | ⟨hcontrol, -, hescape⟩ | ⟨hplain, -, -, hescape, -⟩ :=
    escapeChar_cases c
  · have hd : 0x20 ≤ d.toNat := by
      unfold unescape? at hletter
      split at hletter <;> first | decide | cases hletter
    rw [hescape]
    exact .cons (by decide) (.cons hd printable_nil)
  · rw [hescape]
    exact .cons (by decide) (.cons (by decide) (.cons (by decide) (.cons (by decide)
      (.cons (hcode _ (by omega)) (.cons (hcode _ (by omega)) printable_nil)))))
  · rw [hescape]
    exact .cons hplain printable_nil

theorem printable_quotedChars (text : String) : Printable (quotedChars text) := by
  have hbody : Printable (text.toList.flatMap escapeChar) := by
    intro d hd
    obtain ⟨c, _, hdc⟩ := List.mem_flatMap.mp hd
    exact printable_escapeChar c d hdc
  exact .append (.cons (by decide) hbody) (.cons (by decide) printable_nil)

theorem le_toNat_of_isNumberPart {c : Char} (h : Lexer.isNumberPart c = true) : 0x20 ≤ c.toNat := by
  simp only [Lexer.isNumberPart, Bool.or_eq_true, decide_eq_true_eq] at h
  rcases h with ((((hdigit | rfl) | rfl) | rfl) | rfl) | rfl
  · exact Nat.le_trans (by decide) (Char.isDigit_iff_toNat.mp hdigit).1
  all_goals decide

theorem printable_literal {literal : Number.Literal} (h : literal.WellFormed) :
    Printable literal.chars := by
  obtain ⟨c, cs, hchars, hfirst, hrest⟩ := exists_chars_eq_cons h
  have hc : Lexer.isNumberPart c = true := by
    rcases hfirst with rfl | hdigit
    · rfl
    · exact isNumberPart_of_isDigit hdigit
  rw [hchars]
  exact .cons (le_toNat_of_isNumberPart hc) fun d hd => le_toNat_of_isNumberPart (hrest d hd)

mutual

/-- No control character is in the compact text of a value. -/
theorem printable_chars : ∀ value : Json, Printable value.chars
  | null =>
      .cons (by decide) (.cons (by decide) (.cons (by decide) (.cons (by decide) printable_nil)))
  | bool true =>
      .cons (by decide) (.cons (by decide) (.cons (by decide) (.cons (by decide) printable_nil)))
  | bool false =>
      .cons (by decide) (.cons (by decide) (.cons (by decide) (.cons (by decide)
        (.cons (by decide) printable_nil))))
  | number value => by
      rw [chars, value.toList_text]
      exact printable_literal value.wellFormed_literal
  | string text => printable_quotedChars text
  | array items =>
      .cons (by decide) ((printable_itemChars items).append (.cons (by decide) printable_nil))
  | object members =>
      .cons (by decide) ((printable_memberChars members).append (.cons (by decide) printable_nil))

theorem printable_itemChars : ∀ items : List Json, Printable (itemChars items)
  | [] => printable_nil
  | [item] => printable_chars item
  | item :: next :: rest =>
      (printable_chars item).append (.cons (by decide) (printable_itemChars (next :: rest)))

theorem printable_memberChars : ∀ members : List (String × Json), Printable (memberChars members)
  | [] => printable_nil
  | [(key, value)] =>
      (printable_quotedChars key).append (.cons (by decide) (printable_chars value))
  | (key, value) :: next :: rest =>
      (printable_quotedChars key).append (.cons (by decide) ((printable_chars value).append
        (.cons (by decide) (printable_memberChars (next :: rest)))))

end

theorem lineFeed_not_mem_chars (value : Json) : '\n' ∉ value.chars :=
  fun hmem => absurd (value.printable_chars _ hmem) (by decide)

theorem isBlank_of_isDigit {c : Char} (h : c.isDigit = true) : Text.isBlank c = false := by
  obtain ⟨hlower, hupper⟩ := Char.isDigit_iff_toNat.mp h
  have hzero : '0'.toNat = 48 := rfl
  have hnine : '9'.toNat = 57 := rfl
  simp [Text.isBlank]
  omega

/-- A compact text starts with a character that is not blank, and with the bracket of an array
only if it writes one. -/
theorem exists_chars_start (value : Json) :
    ∃ c cs, value.chars = c :: cs ∧ Text.isBlank c = false ∧
      (c = '[' → ∃ items, value = array items) := by
  cases value with
  | null => exact ⟨_, _, rfl, rfl, nofun⟩
  | bool value => cases value <;> exact ⟨_, _, rfl, rfl, nofun⟩
  | string text => exact ⟨_, _, rfl, rfl, nofun⟩
  | array items => exact ⟨_, _, rfl, rfl, fun _ => ⟨items, rfl⟩⟩
  | object members => exact ⟨_, _, rfl, rfl, nofun⟩
  | number value =>
      obtain ⟨c, cs, hchars, hfirst, _⟩ :=
        exists_chars_eq_cons value.wellFormed_literal
      refine ⟨c, cs, value.toList_text.trans hchars, ?_, ?_⟩
      · rcases hfirst with rfl | hdigit
        · rfl
        · exact isBlank_of_isDigit hdigit
      · rintro rfl
        rcases hfirst with h | h <;> cases h

theorem isBlankLine_chars (value : Json) : Text.isBlankLine value.chars = false := by
  obtain ⟨c, cs, hchars, hblank, _⟩ := exists_chars_start value
  rw [hchars, Text.isBlankLine, List.all_cons, hblank, Bool.false_and]

end Json

/-! ## Blanks at the start of a text -/

namespace Text

theorem dropBlanks_of_blank {line : List Char} (h : isBlankLine line = true) (rest : List Char) :
    dropBlanks (line ++ rest) = dropBlanks rest :=
  List.dropWhile_append_of_pos (List.all_eq_true.mp h)

theorem dropBlanks_cons_of_blank {c : Char} (h : isBlank c = true) (rest : List Char) :
    dropBlanks (c :: rest) = dropBlanks rest :=
  List.dropWhile_cons_of_pos h

theorem dropBlanks_cons_of_not_blank {c : Char} (h : isBlank c = false) (rest : List Char) :
    dropBlanks (c :: rest) = c :: rest :=
  List.dropWhile_cons_of_neg (by rw [h]; exact Bool.false_ne_true)

/-- Whether lines that are not blank start with a character that is not. -/
def Flush (lines : List (List Char)) : Prop :=
  ∀ line ∈ lines, isBlankLine line = false → ∃ c cs, line = c :: cs ∧ isBlank c = false

/-- Of a text in which each line is blank or starts at once, the blanks at the start are blank
lines. -/
theorem LaidOut.dropBlanks {lines : List (List Char)} {text : List Char}
    (h : LaidOut '\n' '\r' lines text) (flush : Flush lines) (unbroken : Unbroken '\n' lines) :
    ∃ more, LaidOut '\n' '\r' more (dropBlanks text) ∧ Unbroken '\n' more ∧
      more.filter (fun line => !isBlankLine line) = lines.filter fun line => !isBlankLine line := by
  have hdrop {line : List Char} {lines : List (List Char)} (flush : Flush (line :: lines))
      (hblank : isBlankLine line = false) (rest : List Char) :
      Text.dropBlanks (line ++ rest) = line ++ rest := by
    obtain ⟨c, cs, rfl, hc⟩ := flush line List.mem_cons_self hblank
    exact dropBlanks_cons_of_not_blank hc _
  have htail {line : List Char} {lines : List (List Char)} (flush : Flush (line :: lines)) :
      Flush lines :=
    fun other hother => flush other (List.mem_cons_of_mem line hother)
  -- Blank lines go one by one, with their ends; the first line that is not blank stays whole.
  induction h with
  | nil =>
      exact ⟨[], .nil, nofun, rfl⟩
  | @last line nonempty =>
      cases hblank : isBlankLine line with
      | true =>
          have hempty := dropBlanks_of_blank hblank []
          rw [List.append_nil] at hempty
          rw [hempty]
          exact ⟨[], .nil, nofun, by simp [hblank]⟩
      | false =>
          have hsame := hdrop flush hblank []
          rw [List.append_nil] at hsame
          rw [hsame]
          exact ⟨[line], .last nonempty, unbroken, rfl⟩
  | @marked line lines text rest ih =>
      cases hblank : isBlankLine line with
      | true =>
          obtain ⟨more, hmore, hbroken, hfilter⟩ := ih (htail flush) (unbroken_cons.mp unbroken).2
          rw [dropBlanks_of_blank hblank, dropBlanks_cons_of_blank rfl]
          exact ⟨more, hmore, hbroken, by simp [hblank, hfilter]⟩
      | false =>
          rw [hdrop flush hblank]
          exact ⟨line :: lines, .marked line rest, unbroken, rfl⟩
  | @returned line lines text rest ih =>
      cases hblank : isBlankLine line with
      | true =>
          obtain ⟨more, hmore, hbroken, hfilter⟩ := ih (htail flush) (unbroken_cons.mp unbroken).2
          rw [dropBlanks_of_blank hblank, dropBlanks_cons_of_blank rfl,
            dropBlanks_cons_of_blank rfl]
          exact ⟨more, hmore, hbroken, by simp [hblank, hfilter]⟩
      | false =>
          rw [hdrop flush hblank]
          exact ⟨line :: lines, .returned line rest, unbroken, rfl⟩

/-- A text starts with its first line, unless that is empty. -/
theorem LaidOut.exists_first {lines : List (List Char)} {c : Char} {text : List Char}
    (h : LaidOut '\n' '\r' lines (c :: text)) (hblank : isBlank c = false) :
    ∃ cs more, lines = (c :: cs) :: more := by
  generalize hwhole : c :: text = whole at h
  cases h with
  | nil =>
      cases hwhole
  | last nonempty =>
      exact ⟨text, [], by rw [hwhole]⟩
  | @marked line more rest _ =>
      cases line with
      | nil =>
          cases hwhole
          cases hblank
      | cons d cs =>
          cases hwhole
          exact ⟨cs, more, rfl⟩
  | @returned line more rest _ =>
      cases line with
      | nil =>
          cases hwhole
          cases hblank
      | cons d cs =>
          cases hwhole
          exact ⟨cs, more, rfl⟩

end Text

/-! ## Reading documents -/

namespace CommandLine

theorem readEach_filter (lines : List (List Char)) :
    readEach (lines.filter fun line => !Text.isBlankLine line) = readEach lines := by
  induction lines with
  | nil =>
      rfl
  | cons line rest ih =>
      rw [List.filter_cons]
      cases hblank : Text.isBlankLine line with
      | true =>
          rw [Bool.not_true, if_neg Bool.false_ne_true, ih, readEach, if_pos hblank]
      | false =>
          have hne : ¬Text.isBlankLine line = true := by simp [hblank]
          rw [Bool.not_false, if_pos rfl, readEach, readEach, if_neg hne, if_neg hne, ih]

/-- A return at the end of a line makes no difference. -/
theorem readEach_of_returns {split lines : List (List Char)}
    (h : List.Forall₂ (fun split line => line = split ∨ line = split ++ ['\r']) split lines) :
    readEach split = readEach lines := by
  induction h with
  | nil =>
      rfl
  | cons hline _ ih =>
      obtain rfl | rfl := hline
      · rw [readEach, readEach, ih]
      · rw [readEach, readEach, Text.isBlankLine_append_return, readJson_append_return, ih]

theorem readJson_chars {document : Json} (proper : document.Proper)
    (nested : document.nesting ≤ Json.depthLimit) : readJson document.chars = .ok document := by
  have hread := proper.ofText?_text nested
  rw [Json.text] at hread
  rw [readJson, hread]

variable {documents : List Json}

theorem readEach_chars (proper : ∀ document ∈ documents, document.Proper)
    (nested : ∀ document ∈ documents, document.nesting ≤ Json.depthLimit) :
    readEach (documents.map Json.chars) = .ok documents := by
  induction documents with
  | nil =>
      rfl
  | cons document rest ih =>
      have hblank : ¬Text.isBlankLine document.chars = true := by
        simp [Json.isBlankLine_chars]
      have hread := readJson_chars (proper document List.mem_cons_self)
        (nested document List.mem_cons_self)
      have hrest := ih (fun other hother => proper other (List.mem_cons_of_mem document hother))
        (fun other hother => nested other (List.mem_cons_of_mem document hother))
      rw [List.map_cons, readEach, if_neg hblank, hread, hrest]
      rfl

theorem parseDocuments_array (proper : ∀ document ∈ documents, document.Proper)
    (nested : ∀ document ∈ documents, document.nesting ≤ 126) :
    parseDocuments (Json.array documents).chars = .ok documents := by
  have hdepth : (Json.array documents).nesting ≤ Json.depthLimit :=
    Nat.succ_le_succ (Json.itemsNesting_le nested)
  have hread := readJson_chars (.array proper) hdepth
  have hchars : (Json.array documents).chars = '[' :: (Json.itemChars documents ++ [']']) := rfl
  rw [parseDocuments, hchars, Text.dropBlanks_cons_of_not_blank rfl, ← hchars, hread]
  rfl

/-- The lines that hold documents start at once and are not broken. -/
theorem flush_and_unbroken {lines : List (List Char)}
    (content : lines.filter (fun line => !Text.isBlankLine line) = documents.map Json.chars)
    (blank : ∀ line ∈ lines, Text.isBlankLine line = true → '\n' ∉ line) :
    Text.Flush lines ∧ Text.Unbroken '\n' lines := by
  have hdocument {line : List Char} (hline : line ∈ lines)
      (hblank : Text.isBlankLine line = false) : ∃ document : Json, line = document.chars := by
    have hmem : line ∈ documents.map Json.chars := by
      rw [← content]
      exact List.mem_filter.mpr ⟨hline, by rw [hblank]; rfl⟩
    obtain ⟨document, _, hchars⟩ := List.mem_map.mp hmem
    exact ⟨document, hchars.symm⟩
  constructor
  · intro line hline hblank
    obtain ⟨document, rfl⟩ := hdocument hline hblank
    obtain ⟨c, cs, hchars, hc, _⟩ := document.exists_chars_start
    exact ⟨c, cs, hchars, hc⟩
  · intro line hline
    cases hblank : Text.isBlankLine line with
    | true =>
        exact blank line hline hblank
    | false =>
        obtain ⟨document, rfl⟩ := hdocument hline hblank
        exact document.lineFeed_not_mem_chars

theorem parseDocuments_lines (proper : ∀ document ∈ documents, document.Proper)
    (nested : ∀ document ∈ documents, document.nesting ≤ Json.depthLimit)
    (first : ∀ items, documents.head? ≠ some (.array items))
    {lines : List (List Char)} {text : List Char} (laidOut : Text.LaidOut '\n' '\r' lines text)
    (content : lines.filter (fun line => !Text.isBlankLine line) = documents.map Json.chars)
    (blank : ∀ line ∈ lines, Text.isBlankLine line = true → '\n' ∉ line) :
    parseDocuments text = .ok documents := by
  obtain ⟨flush, unbroken⟩ := flush_and_unbroken content blank
  obtain ⟨more, hmore, hbroken, hfilter⟩ := laidOut.dropBlanks flush unbroken
  -- The first character that is not blank is that of the first document, which is no array.
  have hhead : ¬(Text.dropBlanks text).head? = some '[' := by
    intro hbracket
    obtain ⟨rest, htext⟩ := List.head?_eq_some_iff.mp hbracket
    rw [htext] at hmore
    obtain ⟨cs, others, hlines⟩ := hmore.exists_first rfl
    have hkept : Text.isBlankLine ('[' :: cs) = false := rfl
    rw [hlines, List.filter_cons, hkept, Bool.not_false, if_pos rfl, content] at hfilter
    cases documents with
    | nil =>
        cases hfilter
    | cons document documents =>
        have hstart := List.head_eq_of_cons_eq hfilter
        obtain ⟨c, ds, hchars, _, harray⟩ := document.exists_chars_start
        rw [hchars] at hstart
        obtain ⟨items, hitems⟩ := harray (List.head_eq_of_cons_eq hstart).symm
        exact first items (congrArg some hitems)
  have hsplit := readEach_of_returns (hmore.splitLines (by decide) hbroken)
  rw [parseDocuments, if_neg hhead, Text.lines, hsplit, ← readEach_filter, hfilter, content,
    readEach_chars proper nested]

/-- Both formats read the same documents: their compact texts in one array, and one a line with
line ends of either kind and blank lines anywhere. -/
theorem parseDocuments_formats (proper : ∀ document ∈ documents, document.Proper)
    (nested : ∀ document ∈ documents, document.nesting ≤ 126)
    (first : ∀ items, documents.head? ≠ some (.array items)) :
    parseDocuments (Json.array documents).chars = .ok documents ∧
      ∀ lines text, Text.LaidOut '\n' '\r' lines text →
        lines.filter (fun line => !Text.isBlankLine line) = documents.map Json.chars →
        (∀ line ∈ lines, Text.isBlankLine line = true → '\n' ∉ line) →
        parseDocuments text = .ok documents := by
  have hdepth (document : Json) (hdocument : document ∈ documents) :
      document.nesting ≤ Json.depthLimit :=
    Nat.le_trans (nested document hdocument) (by decide)
  exact ⟨parseDocuments_array proper nested, fun _ _ laidOut content blank =>
    parseDocuments_lines proper hdepth first laidOut content blank⟩

/-- A document with a line feed in a string. -/
def brokenName : Json :=
  .object [("a", .string "b\n")]

/-- A document that is an array. -/
def flagList : Json :=
  .array [.bool true]

theorem parseDocuments_formats_mixed :
    parseDocuments (Json.array [brokenName, flagList]).chars = .ok [brokenName, flagList] ∧
      parseDocuments ([' '] ++ '\r' :: '\n' ::
        (brokenName.chars ++ '\n' :: ([] ++ '\n' :: flagList.chars))) =
          .ok [brokenName, flagList] := by
  have hproper : ∀ document ∈ [brokenName, flagList], document.Proper := by
    have hname : brokenName.Proper := .object (by decide) fun _ hpair => by
      cases List.mem_singleton.mp hpair
      exact .string _
    have hlist : flagList.Proper := .array fun _ hitem => by
      cases List.mem_singleton.mp hitem
      exact .bool _
    intro document hdocument
    rcases List.mem_pair.mp hdocument with rfl | rfl
    · exact hname
    · exact hlist
  have hnested : ∀ document ∈ [brokenName, flagList], document.nesting ≤ 126 := by decide
  obtain ⟨harray, hlines⟩ := parseDocuments_formats hproper hnested nofun
  refine ⟨harray, hlines [[' '], brokenName.chars, [], flagList.chars] _ ?_ (by decide) (by decide)⟩
  exact .returned _ (.marked _ (.marked _ (.last (by decide))))

end CommandLine

end DocQuery
