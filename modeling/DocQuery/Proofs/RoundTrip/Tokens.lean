import DocQuery.Json.Raw
import DocQuery.Json.Writer
import DocQuery.Proofs.RoundTrip.Numbers

/-!
# Tokens of written values

The compact text of a value falls into tokens as it was put together: one for each string,
number and word, and the marks between them.  The strings keep what was written of them,
which spells the string again.
-/

namespace DocQuery

namespace Json

open Lexer

/-! ## Runs of the lexer -/

/-- Whether characters that start between two tokens come to some tokens. -/
def Lexes (cs : List Char) (tokens : List Token) : Prop :=
  ∀ before, ∃ state, cs.foldlM step { tokens := before, mode := .between } = some state ∧
    settle state = some (tokens.reverse ++ before)

theorem Lexes.tokens? {cs : List Char} {tokens : List Token} (h : Lexes cs tokens) :
    tokens? cs = some tokens := by
  obtain ⟨state, hrun, hsettle⟩ := h []
  rw [Json.tokens?, hrun]
  change (settle state).bind _ = _
  rw [hsettle, List.append_nil]
  simp

theorem Lexes.nil : Lexes [] [] :=
  fun _ => ⟨_, rfl, rfl⟩

/-- A mark ends the number or word in front of it. -/
theorem step_mark {state : State} {tokens : List Token} {c : Char} {token : Token}
    (hsettle : settle state = some tokens) (hmark : mark? c = some token) :
    step state c = some { tokens := token :: tokens, mode := .between } := by
  have hstart : start tokens c = some { tokens := token :: tokens, mode := .between } ∧
      isNumberPart c = false ∧ c.isLower = false := by
    unfold mark? at hmark
    split at hmark <;> cases hmark <;> exact ⟨rfl, rfl, rfl⟩
  obtain ⟨hstart, hnumber, hlower⟩ := hstart
  obtain ⟨done, mode⟩ := state
  cases mode with
  | between =>
      cases hsettle
      exact hstart
  | inNumber cs =>
      unfold step
      dsimp only
      rw [hnumber, if_neg Bool.false_ne_true, hsettle, Option.bind_some, hstart]
  | inWord cs =>
      unfold step
      dsimp only
      rw [hlower, if_neg Bool.false_ne_true, hsettle, Option.bind_some, hstart]
  | inString | escaped | codeUnit => cases hsettle

/-- Tokens with a mark between them. -/
theorem Lexes.mark {cs rest : List Char} {tokens more : List Token} (h : Lexes cs tokens)
    {c : Char} {token : Token} (hmark : mark? c = some token) (hrest : Lexes rest more) :
    Lexes (cs ++ c :: rest) (tokens ++ token :: more) := by
  intro before
  obtain ⟨state, hrun, hsettle⟩ := h before
  obtain ⟨last, hlast, hdone⟩ := hrest (token :: (tokens.reverse ++ before))
  refine ⟨last, ?_, ?_⟩
  · rw [List.foldlM_append, hrun]
    change (step state c).bind _ = _
    rw [step_mark hsettle hmark]
    exact hlast
  · rw [hdone]
    simp

/-! ## Strings -/

/-- How a character of a string is written: control characters without a letter of their own
by their code. -/
def pieceOf (c : Char) : Piece :=
  if c.toNat < 0x20 ∧ c ∉ ['\x08', '\x0c', '\n', '\r', '\t'] then .unit c.toNat else .char c

def piecesOf (text : String) : List Piece :=
  text.toList.map pieceOf

theorem decode_unit_of_lt {code : Nat} (h : code < 0xD800) (rest : List Piece) :
    Piece.decode (.unit code :: rest) = (Piece.decode rest).map (Char.ofNat code :: ·) := by
  have hhigh : ¬(0xD800 ≤ code ∧ code < 0xDC00) := by omega
  have hlow : ¬(0xDC00 ≤ code ∧ code < 0xE000) := by omega
  have hnone : ¬(0xD800 ≤ code ∧ code < 0xE000) := by omega
  cases rest with
  | nil =>
      simp [Piece.decode, hnone]
  | cons piece rest =>
      cases piece with
      | char c =>
          simp [Piece.decode, hnone]
      | unit low =>
          rw [Piece.decode, if_neg hhigh, if_neg hlow]

theorem decode_pieceOf (c : Char) (rest : List Piece) :
    Piece.decode (pieceOf c :: rest) = (Piece.decode rest).map (c :: ·) := by
  unfold pieceOf
  split
  · rw [decode_unit_of_lt (by omega), Char.ofNat_toNat]
  · rw [Piece.decode]

theorem text?_piecesOf (text : String) : Piece.text? (piecesOf text) = some text := by
  have hdecode (cs : List Char) : Piece.decode (cs.map pieceOf) = some cs := by
    induction cs with
    | nil =>
        rw [List.map_nil, Piece.decode]
    | cons c rest ih =>
        rw [List.map_cons, decode_pieceOf, ih, Option.map_some]
  rw [Piece.text?, piecesOf, hdecode, Option.map_some, String.ofList_toList]

theorem foldlM_codeEscape (tokens : List Token) (pieces : List Piece) {code : Nat}
    (h : code < 0x100) :
    ['\\', 'u', '0', '0', Text.hexDigit (code / 16), Text.hexDigit (code % 16)].foldlM step
      { tokens, mode := .inString pieces } =
        some { tokens, mode := .inString (.unit code :: pieces) } := by
  have hhigh : Text.hexValue? (Text.hexDigit (code / 16)) = some (code / 16) :=
    Text.hexValue?_hexDigit (by omega)
  have hlow : Text.hexValue? (Text.hexDigit (code % 16)) = some (code % 16) :=
    Text.hexValue?_hexDigit (by omega)
  change (step { tokens, mode := .codeUnit pieces 2 0 } (Text.hexDigit (code / 16))).bind
    (fun state => (step state (Text.hexDigit (code % 16))).bind some) = _
  simp only [step, hhigh, hlow, Option.map_some, Option.bind_some]
  simp
  omega

/-- A character is written by a letter after a backslash, by its code or as itself. -/
theorem escapeChar_cases (c : Char) :
    (∃ d, escapeChar c = ['\\', d] ∧ unescape? d = some c ∧ pieceOf c = .char c) ∨
      (c.toNat < 0x20 ∧ pieceOf c = .unit c.toNat ∧
        escapeChar c = ['\\', 'u', '0', '0', Text.hexDigit (c.toNat / 16),
          Text.hexDigit (c.toNat % 16)]) ∨
      (0x20 ≤ c.toNat ∧ c ≠ '"' ∧ c ≠ '\\' ∧ escapeChar c = [c] ∧ pieceOf c = .char c) := by
  by_cases hshort : c ∈ ['"', '\\', '\x08', '\x0c', '\n', '\r', '\t']
  · simp only [List.mem_cons, List.not_mem_nil, or_false] at hshort
    rcases hshort with rfl | rfl | rfl | rfl | rfl | rfl | rfl <;> exact .inl ⟨_, rfl, rfl, rfl⟩
  · simp only [List.mem_cons, List.not_mem_nil, or_false, not_or] at hshort
    obtain ⟨hquote, hbackslash, hshort⟩ := hshort
    by_cases hcontrol : c.toNat < 0x20
    · exact .inr (.inl ⟨hcontrol, by simp [pieceOf, *], by simp [escapeChar, *]⟩)
    · exact .inr (.inr ⟨Nat.le_of_not_lt hcontrol, hquote, hbackslash, by simp [escapeChar, *],
        by simp [pieceOf, hcontrol]⟩)

/-- What is written for a character is read as its piece. -/
theorem foldlM_escapeChar (tokens : List Token) (pieces : List Piece) (c : Char) :
    (escapeChar c).foldlM step { tokens, mode := .inString pieces } =
      some { tokens, mode := .inString (pieceOf c :: pieces) } := by
  obtain ⟨d, hescape, hletter, hpiece⟩ | ⟨hcontrol, hpiece, hescape⟩ |
    ⟨hplain, hquote, hbackslash, hescape, hpiece⟩ := escapeChar_cases c
  · have hu : d ≠ 'u' := by
      rintro rfl
      cases hletter
    rw [hescape, hpiece]
    simp [step, hu, hletter]
  · rw [hescape, foldlM_codeEscape tokens pieces (by omega), hpiece]
  · rw [hescape, hpiece]
    simp [step, hquote, hbackslash, hplain]

theorem lexes_quotedChars (text : String) :
    Lexes (quotedChars text) [.string (piecesOf text)] := by
  intro before
  have hrun (cs : List Char) (pieces : List Piece) :
      (cs.flatMap escapeChar).foldlM step { tokens := before, mode := .inString pieces } =
        some { tokens := before, mode := .inString ((cs.map pieceOf).reverse ++ pieces) } := by
    induction cs generalizing pieces with
    | nil =>
        rfl
    | cons c rest ih =>
        rw [List.flatMap_cons, List.foldlM_append, foldlM_escapeChar]
        change (rest.flatMap escapeChar).foldlM step _ = _
        rw [ih, List.map_cons, List.reverse_cons, List.append_assoc, List.singleton_append]
  refine ⟨{ tokens := .string (piecesOf text) :: before, mode := .between }, ?_, rfl⟩
  rw [quotedChars, List.cons_append]
  change (text.toList.flatMap escapeChar ++ ['"']).foldlM step
    { tokens := before, mode := .inString [] } = _
  rw [List.foldlM_append, hrun, List.append_nil]
  simp [step, piecesOf]

/-! ## Numbers -/

theorem isNumberPart_of_isDigit {c : Char} (h : c.isDigit = true) : isNumberPart c = true := by
  simp [isNumberPart, h]

theorem isNumberPart_body {literal : Number.Literal} (h : literal.WellFormed) :
    ∀ c ∈ literal.body, isNumberPart c = true := by
  obtain ⟨negative, whole, fraction, exponent⟩ := literal
  obtain ⟨hdigits, -, hfraction, hexponent⟩ := h
  dsimp only at *
  simp only [Number.Literal.body, List.mem_append]
  rintro c (hc | hc | hc)
  · exact isNumberPart_of_isDigit (hdigits c hc)
  · cases fraction with
    | none =>
        cases hc
    | some cs =>
        rcases List.mem_cons.mp hc with rfl | hc
        · rfl
        · exact isNumberPart_of_isDigit ((hfraction cs rfl).1 c hc)
  · cases exponent with
    | none =>
        cases hc
    | some pair =>
        obtain ⟨sign, cs⟩ := pair
        simp only [Number.Literal.exponentChars, List.mem_cons] at hc
        rcases hc with rfl | rfl | hc
        · rfl
        · cases sign <;> rfl
        · exact isNumberPart_of_isDigit ((hexponent sign cs rfl).1 c hc)

/-- A literal starts with a hyphen or a digit and goes on with parts of numbers. -/
theorem exists_chars_eq_cons {literal : Number.Literal} (h : literal.WellFormed) :
    ∃ c cs, literal.chars = c :: cs ∧ (c = '-' ∨ c.isDigit = true) ∧
      ∀ d ∈ cs, isNumberPart d = true := by
  have hbody := isNumberPart_body h
  rw [Number.Literal.chars]
  cases literal.negative with
  | true =>
      exact ⟨_, _, rfl, .inl rfl, hbody⟩
  | false =>
      cases hwhole : literal.whole with
      | nil =>
          have := h.whole
          simp [hwhole, Number.Literal.isWhole] at this
      | cons c cs =>
          have hc : c.isDigit = true := h.digits c (by rw [hwhole]; exact List.mem_cons_self)
          rw [Number.Literal.body, hwhole] at hbody ⊢
          exact ⟨c, _, rfl, .inr hc, fun d hd => hbody d (List.mem_cons_of_mem c hd)⟩

theorem lexes_literal {literal : Number.Literal} (h : literal.WellFormed) :
    Lexes literal.chars [.number literal] := by
  intro before
  have hread := h.ofChars?_chars
  obtain ⟨c, cs, hchars, hfirst, hrest⟩ := exists_chars_eq_cons h
  have hrun (ds : List Char) (hds : ∀ d ∈ ds, isNumberPart d = true) (read : List Char) :
      ds.foldlM step { tokens := before, mode := .inNumber read } =
        some { tokens := before, mode := .inNumber (ds.reverse ++ read) } := by
    induction ds generalizing read with
    | nil =>
        rfl
    | cons d ds ih =>
        have hstep : step { tokens := before, mode := .inNumber read } d =
            some { tokens := before, mode := .inNumber (d :: read) } :=
          if_pos (hds d List.mem_cons_self)
        rw [List.foldlM_cons, hstep]
        change ds.foldlM step _ = _
        rw [ih (fun e he => hds e (List.mem_cons_of_mem d he)), List.reverse_cons,
          List.append_assoc, List.singleton_append]
  have hstart : step { tokens := before, mode := .between } c =
      some { tokens := before, mode := .inNumber [c] } := by
    have hblank : isBlank c = false ∧ c ≠ '"' := by
      rcases hfirst with rfl | hdigit
      · decide
      · have hne (d : Char) (hd : d.isDigit = false) : c ≠ d := by
          rintro rfl
          rw [hdigit] at hd
          cases hd
        simp [isBlank, hne ' ' rfl, hne '\t' rfl, hne '\n' rfl, hne '\r' rfl, hne '"' rfl]
    simp [step, start, hblank, hfirst]
  refine ⟨{ tokens := before, mode := .inNumber (cs.reverse ++ [c]) }, ?_, ?_⟩
  · rw [hchars, List.foldlM_cons, hstart]
    exact hrun cs hrest [c]
  · have hreverse : (cs.reverse ++ [c]).reverse = literal.chars := by simp [hchars]
    rw [settle, hreverse, hread]
    rfl

end Json

end DocQuery
