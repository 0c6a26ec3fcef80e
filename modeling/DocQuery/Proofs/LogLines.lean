import DocQuery.Log
import DocQuery.Proofs.ByteOrder
import DocQuery.Proofs.Formats

/-!
# What log lines say

A line of the log is put together from pieces of text.  It is the compact text of one object:
the event, the severity and the fields in the order of their keys.  So it is read back as that
object, no line feed is in it but the one that ends it, and the order in which the fields were
given leaves no trace.
-/

namespace DocQuery

namespace Json

/-- Of written members each but the first has a comma in front. -/
theorem memberChars_cons (key : String) (value : Json) (rest : List (String × Json)) :
    memberChars ((key, value) :: rest) = quotedChars key ++ ':' :: (chars value ++
      rest.flatMap fun member => ',' :: (quotedChars member.1 ++ ':' :: chars member.2)) := by
  induction rest generalizing key value with
  | nil =>
      rw [memberChars, List.flatMap_nil, List.append_nil]
  | cons next rest ih =>
      rw [memberChars, ih next.1 next.2, List.flatMap_cons, List.cons_append, List.append_assoc,
        List.cons_append]

end Json

theorem Severity.quotedChars_name (severity : Severity) :
    Json.quotedChars severity.name = '"' :: (severity.name.toList ++ ['"']) := by
  cases severity <;> rfl

namespace LogEntry

def members (entry : LogEntry) : List (String × Json) :=
  ("event", .string entry.event) :: ("severity", .string entry.severity.name)
    :: entry.sortedFields.map fun field => (field.1, .string field.2)

theorem exists_string_of_mem_members {entry : LogEntry} {pair : String × Json}
    (h : pair ∈ entry.members) : ∃ text, pair.2 = .string text := by
  rcases List.mem_cons.mp h with rfl | hrest
  · exact ⟨_, rfl⟩
  rcases List.mem_cons.mp hrest with rfl | hfield
  · exact ⟨_, rfl⟩
  obtain ⟨field, _, rfl⟩ := List.mem_map.mp hfield
  exact ⟨_, rfl⟩

theorem nesting_members_le (entry : LogEntry) :
    (Json.object entry.members).nesting ≤ Json.depthLimit := by
  have hmembers : Json.membersNesting entry.members ≤ 0 := by
    refine Json.membersNesting_le fun pair hpair => ?_
    obtain ⟨text, htext⟩ := exists_string_of_mem_members hpair
    exact Nat.le_of_eq (by rw [htext, Json.nesting])
  rw [Json.nesting]
  exact Nat.le_trans (Nat.succ_le_succ hmembers) (by decide)

theorem toList_fieldText (field : String × String) :
    (fieldText field).toList =
      ',' :: (Json.quotedChars field.1 ++ ':' :: (Json.string field.2).chars) := by
  simp only [fieldText, Json.quoted, String.toList_append, String.toList_ofList, Json.chars,
    List.append_assoc]
  rfl

/-- The pieces of a line make the text of one object. -/
theorem line_eq_text (entry : LogEntry) : entry.line = (Json.object entry.members).text := by
  have hfields : (String.join (entry.sortedFields.map fieldText)).toList =
      (entry.sortedFields.map fun field => (field.1, Json.string field.2)).flatMap
        fun member => ',' :: (Json.quotedChars member.1 ++ ':' :: member.2.chars) := by
    rw [String.toList_join, List.flatMap_map, List.flatMap_map]
    exact List.flatMap_congr fun field _ => toList_fieldText field
  rw [← String.toList_inj, Json.text, String.toList_ofList, Json.chars, members,
    Json.memberChars_cons, List.flatMap_cons, ← hfields]
  simp only [line, Json.quoted, String.toList_append, String.toList_ofList, Json.chars,
    Severity.quotedChars_name, List.append_assoc, List.cons_append, List.nil_append]
  rfl

theorem printable_line (entry : LogEntry) : Json.Printable entry.line.toList := by
  rw [line_eq_text, Json.text, String.toList_ofList]
  exact Json.printable_chars _

theorem lineFeed_not_mem_line (entry : LogEntry) : '\n' ∉ entry.line.toList :=
  fun hmem => absurd (entry.printable_line _ hmem) (by decide)

theorem getLast?_line_ne_return (entry : LogEntry) : entry.line.toList.getLast? ≠ some '\r' :=
  fun h => absurd (entry.printable_line _ (List.mem_of_getLast? h)) (by decide)

theorem toList_text (entry : LogEntry) : entry.text.toList = entry.line.toList ++ ['\n'] :=
  String.toList_append

theorem sortedFields_perm (entry : LogEntry) : entry.sortedFields.Perm entry.fields :=
  List.mergeSort_perm _ _

/-! ## Reading a line back -/

/-- Entries whose fields have distinct keys, and not those of the other members. -/
structure Unambiguous (entry : LogEntry) : Prop where
  distinct : Entries.Distinct entry.fields
  free : ∀ field ∈ entry.fields, field.1 ≠ "event" ∧ field.1 ≠ "severity"

theorem Unambiguous.proper_members {entry : LogEntry} (h : entry.Unambiguous) :
    (Json.object entry.members).Proper := by
  have hkeys : Entries.keys entry.members =
      "event" :: "severity" :: entry.sortedFields.map Prod.fst := by
    rw [members, Entries.keys, List.map_cons, List.map_cons, List.map_map]
    rfl
  have habsent {text : String} (hother : ∀ field ∈ entry.fields, field.1 ≠ text) :
      text ∉ entry.sortedFields.map Prod.fst := by
    intro hmem
    obtain ⟨field, hfield, htext⟩ := List.mem_map.mp hmem
    exact hother field (entry.sortedFields_perm.mem_iff.mp hfield) htext
  have hevent := habsent fun field hfield => (h.free field hfield).1
  have hseverity := habsent fun field hfield => (h.free field hfield).2
  refine .object ?_ ?_
  · rw [Entries.Distinct, hkeys]
    refine List.nodup_cons.mpr ⟨?_, List.nodup_cons.mpr ⟨hseverity, ?_⟩⟩
    · exact List.not_mem_cons_of_ne_of_not_mem (by decide) hevent
    · exact (entry.sortedFields_perm.map Prod.fst).nodup_iff.mpr h.distinct
  · intro pair hpair
    obtain ⟨text, htext⟩ := exists_string_of_mem_members hpair
    exact htext ▸ .string text

theorem Unambiguous.ofText?_line {entry : LogEntry} (h : entry.Unambiguous) :
    Json.ofText? entry.line = some (.object entry.members) := by
  rw [line_eq_text]
  exact h.proper_members.ofText?_text entry.nesting_members_le

theorem Unambiguous.text_of_perm {entry : LogEntry} (h : entry.Unambiguous)
    {fields : List (String × String)} (perm : fields.Perm entry.fields) :
    ({ entry with fields } : LogEntry).text = entry.text := by
  have hsorted : ({ entry with fields } : LogEntry).sortedFields = entry.sortedFields :=
    Text.mergeSort_eq_of_perm Prod.fst h.distinct perm
  rw [text, text, line, line, hsorted]

/-- What is written of an entry is one line, which is read back as the event, the severity and
the fields, these in the ascending order of the bytes of their keys; and the same is written
of the fields in any order. -/
theorem text_read_back {entry : LogEntry} (h : entry.Unambiguous) :
    (∃ (line : String) (sorted : List (String × String)),
      entry.text = line ++ "\n" ∧ '\n' ∉ line.toList ∧
      Json.ofText? line = some (.object (("event", .string entry.event) ::
        ("severity", .string entry.severity.name) ::
          sorted.map fun field => (field.1, .string field.2))) ∧
      sorted.Perm entry.fields ∧
      sorted.Pairwise fun a b => Text.bytes a.1 < Text.bytes b.1) ∧
    ∀ fields : List (String × String), fields.Perm entry.fields →
      ({ entry with fields } : LogEntry).text = entry.text := by
  have hascending : entry.sortedFields.Pairwise fun a b => Text.bytes a.1 < Text.bytes b.1 :=
    (Text.ascending_mergeSort Prod.fst h.distinct).imp Text.bytes_lt_bytes
  refine ⟨⟨entry.line, entry.sortedFields, rfl, entry.lineFeed_not_mem_line, h.ofText?_line,
    entry.sortedFields_perm, hascending⟩, ?_⟩
  exact fun fields perm => h.text_of_perm perm

/-- An entry with texts that have to be escaped, and a key that is longer in bytes. -/
def escapedEntry : LogEntry where
  severity := .warn
  event := "\"a\"\n"
  fields := [("é", "\t"), ("z", "\\"), ("\x01", "")]

theorem text_read_back_escaped :
    escapedEntry.Unambiguous ∧
      (∃ line, escapedEntry.text = line ++ "\n" ∧ '\n' ∉ line.toList ∧
        Json.ofText? line = some (.object [("event", .string "\"a\"\n"),
          ("severity", .string "WARN"), ("\x01", .string ""), ("z", .string "\\"),
          ("é", .string "\t")])) ∧
      ({ escapedEntry with fields := escapedEntry.fields.reverse } : LogEntry).text =
        escapedEntry.text := by
  have hentry : escapedEntry.Unambiguous := ⟨by decide, by decide⟩
  obtain ⟨⟨line, sorted, htext, hfree, hread, hperm, hascending⟩, hsame⟩ := text_read_back hentry
  -- Ascending keys leave only one order.
  have hsorted : sorted = [("\x01", ""), ("z", "\\"), ("é", "\t")] := by
    refine List.Perm.eq_of_pairwise ?_ hascending (by decide) (hperm.trans (by decide))
    exact fun a b _ _ hab hba => absurd hba (List.lt_asymm hab)
  rw [hsorted] at hread
  exact ⟨hentry, ⟨line, htext, hfree, hread⟩, hsame _ (List.reverse_perm _)⟩

end LogEntry

/-! ## Whole logs -/

def Logger.written (logger : Logger) (entries : List LogEntry) : List Char :=
  (entries.filter fun entry => logger.enabled entry.severity).flatMap fun entry =>
    entry.text.toList

/-- A log splits into the lines of the entries that were severe enough, whatever texts are in
them. -/
theorem Logger.splitLines_written (logger : Logger) (entries : List LogEntry) :
    Text.splitLines '\n' '\r' (logger.written entries) =
      (logger.lines entries).map String.toList := by
  rw [written, lines, List.map_map]
  induction entries.filter fun entry => logger.enabled entry.severity with
  | nil =>
      rfl
  | cons entry rest ih =>
      rw [List.flatMap_cons, List.map_cons, entry.toList_text, List.append_assoc,
        List.singleton_append, Text.splitLines_append_of_free entry.lineFeed_not_mem_line
          entry.getLast?_line_ne_return, ih]
      rfl

end DocQuery
