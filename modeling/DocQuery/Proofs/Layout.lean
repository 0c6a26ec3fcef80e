import DocQuery.CommandLine.Documents
import Mathlib.Data.List.Forall2

/-!
# Layouts of lines

A text is a row of lines, each ended by the mark alone or by the mark after a return; the
last one may also end with the text.  A return in front of the mark can be laid out as the end
of a line as well.  It is split off all the same, and a line with it is read as the line
without it.
-/

namespace DocQuery

namespace Text

variable {α : Type}

/-- Whether a text is made of lines, for the mark that ends a line and the return that may
stand in front of it. -/
inductive LaidOut (mark ret : α) : List (List α) → List α → Prop
  | nil : LaidOut mark ret [] []
  | last {line : List α} (nonempty : line ≠ []) : LaidOut mark ret [line] line
  | marked (line : List α) {lines : List (List α)} {text : List α}
      (rest : LaidOut mark ret lines text) :
      LaidOut mark ret (line :: lines) (line ++ mark :: text)
  | returned (line : List α) {lines : List (List α)} {text : List α}
      (rest : LaidOut mark ret lines text) :
      LaidOut mark ret (line :: lines) (line ++ ret :: mark :: text)

def Unbroken (mark : α) (lines : List (List α)) : Prop :=
  ∀ line ∈ lines, mark ∉ line

theorem unbroken_cons {mark : α} {line : List α} {lines : List (List α)} :
    Unbroken mark (line :: lines) ↔ mark ∉ line ∧ Unbroken mark lines :=
  List.forall_mem_cons

/-- Texts with a mark between them have the lines of the first and then those of the second;
an empty one stands between them when the first text has no open line. -/
theorem LaidOut.append {mark ret : α} {lines more : List (List α)} {first second : List α}
    (h : LaidOut mark ret lines first) (hsecond : LaidOut mark ret more second) :
    LaidOut mark ret (lines ++ more) (first ++ mark :: second) ∨
      LaidOut mark ret (lines ++ [] :: more) (first ++ mark :: second) := by
  induction h with
  | nil =>
      exact .inr (.marked [] hsecond)
  | last nonempty =>
      exact .inl (.marked _ hsecond)
  | marked line rest ih =>
      simp only [List.append_assoc, List.cons_append]
      exact ih.imp (.marked line) (.marked line)
  | returned line rest ih =>
      simp only [List.append_assoc, List.cons_append]
      exact ih.imp (.returned line) (.returned line)

/-! ## Splitting -/

theorem eq_nil_of_head?_append {mark : α} {line text : List α} (free : mark ∉ line)
    (h : (line ++ text).head? = some mark) : line = [] := by
  cases line with
  | nil =>
      rfl
  | cons c rest =>
      cases h
      exact absurd List.mem_cons_self free

section

variable [DecidableEq α]

theorem splitLines_cons {mark ret c : α} {rest line : List α} {more : List (List α)}
    (hmark : mark ≠ c) (hreturn : c = ret → rest.head? ≠ some mark)
    (hrest : splitLines mark ret rest = line :: more) :
    splitLines mark ret (c :: rest) = (c :: line) :: more := by
  rw [splitLines, if_neg hmark.symm, if_neg fun h => hreturn h.1 h.2, hrest]

theorem splitLines_of_free {mark ret : α} {line : List α} (free : mark ∉ line)
    (nonempty : line ≠ []) : splitLines mark ret line = [line] := by
  induction line with
  | nil =>
      exact absurd rfl nonempty
  | cons c rest ih =>
      have hmark := List.ne_of_not_mem_cons free
      have hrest := List.not_mem_of_not_mem_cons free
      by_cases hnil : rest = []
      · simp [hnil, splitLines, hmark.symm]
      · exact splitLines_cons hmark (fun _ h => hrest (List.mem_of_head? h)) (ih hrest hnil)

theorem splitLines_append_of_free {mark ret : α} {line : List α} (free : mark ∉ line)
    (unreturned : line.getLast? ≠ some ret) (text : List α) :
    splitLines mark ret (line ++ mark :: text) = line :: splitLines mark ret text := by
  induction line with
  | nil =>
      simp [splitLines]
  | cons c rest ih =>
      have hrest := List.not_mem_of_not_mem_cons free
      have hlast : rest.getLast? ≠ some ret := by
        intro h
        apply unreturned
        simp [List.getLast?_cons, h]
      refine splitLines_cons (List.ne_of_not_mem_cons free) ?_ (ih hrest hlast)
      -- Only the last character of the line has the mark behind it.
      intro hreturn hhead
      apply unreturned
      simp [eq_nil_of_head?_append hrest hhead, hreturn]

theorem splitLines_append_return {mark ret : α} (hne : ret ≠ mark) {line : List α}
    (free : mark ∉ line) (text : List α) :
    splitLines mark ret (line ++ ret :: mark :: text) = line :: splitLines mark ret text := by
  induction line with
  | nil =>
      simp [splitLines, hne]
  | cons c rest ih =>
      have hrest := List.not_mem_of_not_mem_cons free
      refine splitLines_cons (List.ne_of_not_mem_cons free) ?_ (ih hrest)
      intro _ hhead
      rw [eq_nil_of_head?_append hrest hhead] at hhead
      exact hne (Option.some.inj hhead)

/-- The lines split off a text are those of any layout, but for a return that a layout has
inside a line. -/
theorem LaidOut.splitLines {mark ret : α} (hne : ret ≠ mark) {lines : List (List α)}
    {text : List α} (h : LaidOut mark ret lines text) (unbroken : Unbroken mark lines) :
    List.Forall₂ (fun split line => line = split ∨ line = split ++ [ret])
      (splitLines mark ret text) lines := by
  induction h with
  | nil =>
      exact .nil
  | last nonempty =>
      obtain ⟨hfree, -⟩ := unbroken_cons.mp unbroken
      rw [splitLines_of_free hfree nonempty]
      exact .cons (.inl rfl) .nil
  | marked line rest ih =>
      obtain ⟨hfree, hlines⟩ := unbroken_cons.mp unbroken
      by_cases hreturn : line.getLast? = some ret
      · obtain ⟨front, rfl⟩ := List.getLast?_eq_some_iff.mp hreturn
        have hfront : mark ∉ front := fun hmem => hfree (List.mem_append_left _ hmem)
        rw [List.append_assoc, List.singleton_append, splitLines_append_return hne hfront]
        exact .cons (.inr rfl) (ih hlines)
      · rw [splitLines_append_of_free hfree hreturn]
        exact .cons (.inl rfl) (ih hlines)
  | returned line rest ih =>
      obtain ⟨hfree, hlines⟩ := unbroken_cons.mp unbroken
      rw [splitLines_append_return hne hfree]
      exact .cons (.inl rfl) (ih hlines)

end

theorem isBlankLine_append_return (line : List Char) :
    isBlankLine (line ++ ['\r']) = isBlankLine line := by
  rw [isBlankLine, List.all_append, isBlankLine]
  exact Bool.and_true _

end Text

/-! ## A return at the end of a text -/

namespace Json

/-- A return ends the number or the word in front of it, as the end of the text does. -/
theorem Lexer.settle_step_return (state : Lexer.State) :
    (Lexer.step state '\r').bind Lexer.settle = Lexer.settle state := by
  obtain ⟨tokens, mode⟩ := state
  have hstart (tokens : List Token) :
      (Lexer.start tokens '\r').bind Lexer.settle = some tokens := rfl
  cases mode with
  | between => rfl
  | inString pieces => rfl
  | escaped pieces => rfl
  | codeUnit pieces left value => rfl
  | inNumber cs =>
      change ((Lexer.settle _).bind (Lexer.start · '\r')).bind Lexer.settle = _
      cases Lexer.settle { tokens, mode := .inNumber cs } with
      | none => rfl
      | some settled => exact hstart settled
  | inWord cs =>
      change ((Lexer.settle _).bind (Lexer.start · '\r')).bind Lexer.settle = _
      cases Lexer.settle { tokens, mode := .inWord cs } with
      | none => rfl
      | some settled => exact hstart settled

theorem tokens?_append_return (cs : List Char) : tokens? (cs ++ ['\r']) = tokens? cs := by
  unfold tokens?
  rw [List.foldlM_append]
  cases cs.foldlM Lexer.step { tokens := [], mode := .between } with
  | none => rfl
  | some state =>
      have hsettle := Lexer.settle_step_return state
      cases hstep : Lexer.step state '\r' with
      | none =>
          rw [hstep, Option.bind_none] at hsettle
          simp [hstep, ← hsettle]
      | some next =>
          rw [hstep, Option.bind_some] at hsettle
          simp [hstep, ← hsettle]

theorem ofText?_append_return (line : List Char) :
    ofText? (String.ofList (line ++ ['\r'])) = ofText? (String.ofList line) := by
  simp only [ofText?, ofTextWithin?, Raw.ofChars?, String.toList_ofList, tokens?_append_return]

end Json

namespace CommandLine

theorem readJson_append_return (line : List Char) :
    readJson (line ++ ['\r']) = readJson line := by
  rw [readJson, Json.ofText?_append_return, readJson]

end CommandLine

end DocQuery
