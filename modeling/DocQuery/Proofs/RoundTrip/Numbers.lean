import DocQuery.Number
import DocQuery.Proofs.RoundTrip.Shortest

/-!
# Numbers read back

The text of a number is a literal of the grammar, and the literal is read as the number: an
integer from its digits, a double from its shortest decimal, whichever form that takes.
-/

namespace DocQuery

-- Powers are those of the core library, whatever algebra is imported beside them.
attribute [local instance (high)] instPowNat

def Text.AllDigits (cs : List Char) : Prop :=
  ∀ c ∈ cs, c.isDigit = true

namespace Number

/-! ## Literals -/

namespace Literal

open Text (AllDigits)

def fractionChars : Option (List Char) → List Char
  | none => []
  | some digits => '.' :: digits

def exponentChars : Option (Bool × List Char) → List Char
  | none => []
  | some (negative, digits) => 'e' :: (if negative then '-' else '+') :: digits

/-- The characters of a literal after its sign. -/
def body (literal : Literal) : List Char :=
  literal.whole ++ (fractionChars literal.fraction ++ exponentChars literal.exponent)

def chars (literal : Literal) : List Char :=
  if literal.negative then '-' :: literal.body else literal.body

def signed (negative : Bool) (literal : Literal) : Literal :=
  { literal with negative }

/-- Whether the parts of a literal are those of the grammar. -/
structure WellFormed (literal : Literal) : Prop where
  digits : AllDigits literal.whole
  whole : isWhole literal.whole = true
  fraction : ∀ cs, literal.fraction = some cs → AllDigits cs ∧ cs ≠ []
  exponent : ∀ sign cs, literal.exponent = some (sign, cs) → AllDigits cs ∧ cs ≠ []

def exponentValue : Option (Bool × List Char) → Int
  | some (true, cs) => - (Text.decimalValue cs : Int)
  | some (false, cs) => Text.decimalValue cs
  | none => 0

theorem toBinary64?_eq (literal : Literal) :
    literal.toBinary64? = Binary64.ofDecimal? literal.negative
      (Text.decimalValue (literal.whole ++ literal.fraction.getD []))
      (exponentValue literal.exponent - (literal.fraction.getD []).length) :=
  rfl

variable {literal : Literal}

theorem takeDigits_append {cs rest : List Char} (digits : AllDigits cs)
    (stop : ∀ c ∈ rest.head?, c.isDigit = false) : takeDigits (cs ++ rest) = (cs, rest) := by
  rw [takeDigits, List.takeWhile_append_of_pos digits, List.dropWhile_append_of_pos digits]
  cases rest with
  | nil =>
      simp
  | cons c rest =>
      have hc := stop c rfl
      simp [hc]

theorem readExponent_exponentChars {exponent : Option (Bool × List Char)}
    (h : ∀ sign cs, exponent = some (sign, cs) → AllDigits cs ∧ cs ≠ []) :
    readExponent (exponentChars exponent) = some (exponent, []) := by
  cases exponent with
  | none =>
      rfl
  | some pair =>
      obtain ⟨sign, cs⟩ := pair
      obtain ⟨hdigits, hne⟩ := h sign cs rfl
      have htake : takeDigits (cs ++ []) = (cs, []) := takeDigits_append hdigits (by simp)
      rw [List.append_nil] at htake
      cases sign <;> simp [exponentChars, readExponent, takeSign, htake, hne]

theorem readFraction_fractionChars {fraction : Option (List Char)}
    (h : ∀ cs, fraction = some cs → AllDigits cs ∧ cs ≠ [])
    (exponent : Option (Bool × List Char)) :
    readFraction (fractionChars fraction ++ exponentChars exponent) =
      some (fraction, exponentChars exponent) := by
  cases fraction with
  | none =>
      cases exponent <;> simp [fractionChars, exponentChars, readFraction]
  | some cs =>
      obtain ⟨hdigits, hne⟩ := h cs rfl
      have htake : takeDigits (cs ++ exponentChars exponent) = (cs, exponentChars exponent) :=
        takeDigits_append hdigits (by cases exponent <;> simp [exponentChars])
      simp [fractionChars, readFraction, htake, hne]

/-- A literal of the grammar is read back from its characters. -/
theorem WellFormed.ofChars?_chars (h : literal.WellFormed) :
    ofChars? literal.chars = some literal := by
  obtain ⟨negative, whole, fraction, exponent⟩ := literal
  obtain ⟨hdigits, hwhole, hfraction, hexponent⟩ := h
  dsimp only at *
  have htake : takeDigits (whole ++ (fractionChars fraction ++ exponentChars exponent)) =
      (whole, fractionChars fraction ++ exponentChars exponent) :=
    takeDigits_append hdigits
      (by cases fraction <;> cases exponent <;> simp [fractionChars, exponentChars])
  cases negative with
  | true =>
      simp [ofChars?, read?, chars, body, htake, hwhole, readFraction_fractionChars hfraction,
        readExponent_exponentChars hexponent]
  | false =>
      cases whole with
      | nil =>
          simp [isWhole] at hwhole
      | cons c rest =>
          have hc : c ≠ '-' := by
            rintro rfl
            have := hdigits '-' List.mem_cons_self
            simp at this
          rw [List.cons_append] at htake
          simp [ofChars?, read?, chars, body, htake, hwhole, readFraction_fractionChars hfraction,
            readExponent_exponentChars hexponent, hc]

end Literal

end Number

/-! ## Decimal digits -/

namespace Text

theorem decimalValue_eq (cs : List Char) : decimalValue cs = Nat.ofDigitChars 10 cs 0 :=
  rfl

theorem decimalValue_toDigits (n : Nat) : decimalValue (Nat.toDigits 10 n) = n :=
  Nat.ofDigitChars_ten_toDigits

theorem decimalValue_append_zeros (cs : List Char) (count : Nat) :
    decimalValue (cs ++ List.replicate count '0') = decimalValue cs * 10 ^ count := by
  rw [decimalValue_eq, Nat.ofDigitChars_append, Nat.ofDigitChars_replicate_zero, Nat.mul_comm,
    decimalValue_eq]

theorem decimalValue_zeros_append (cs : List Char) (count : Nat) :
    decimalValue (List.replicate count '0' ++ cs) = decimalValue cs := by
  rw [decimalValue_eq, Nat.ofDigitChars_append, Nat.ofDigitChars_replicate_zero, Nat.mul_zero,
    decimalValue_eq]

theorem allDigits_toDigits (n : Nat) : AllDigits (Nat.toDigits 10 n) :=
  fun _ hc => Nat.isDigit_of_mem_toDigits (by decide) (by decide) hc

theorem allDigits_zeros (count : Nat) : AllDigits (List.replicate count '0') := by
  intro c hc
  rw [(List.mem_replicate.mp hc).2]
  rfl

theorem AllDigits.append {cs ds : List Char} (hcs : AllDigits cs) (hds : AllDigits ds) :
    AllDigits (cs ++ ds) :=
  fun c hc => (List.mem_append.mp hc).elim (hcs c) (hds c)

/-- The digits of a positive number start with one that is not zero. -/
theorem exists_toDigits_eq_cons {n : Nat} (h : 0 < n) :
    ∃ c cs, Nat.toDigits 10 n = c :: cs ∧ c ≠ '0' := by
  induction n using Nat.base_induction 10 (by decide) with
  | single m hm =>
      have hdigit : ∀ d < 10, 0 < d → Nat.digitChar d ≠ '0' := by decide
      exact ⟨_, _, Nat.toDigits_of_lt_base hm, hdigit m hm h⟩
  | digit m k hk hm ih =>
      obtain ⟨c, cs, hdigits, hne⟩ := ih hm
      refine ⟨c, cs ++ Nat.toDigits 10 k, ?_, hne⟩
      rw [← Nat.toDigits_append_toDigits (by decide) hm hk, hdigits, List.cons_append]

end Text

/-! ## Decimals -/

namespace Decimal

open Number.Literal
open Text (AllDigits)

variable {decimal : Decimal}

def literal (decimal : Decimal) : Number.Literal :=
  let digits := Nat.toDigits 10 decimal.digits
  let first : Int := digits.length + decimal.exponent - 1
  if -5 ≤ first ∧ first ≤ 15 then
    if 0 ≤ decimal.exponent then
      { negative := false, whole := digits ++ List.replicate decimal.exponent.toNat '0',
        fraction := some ['0'], exponent := none }
    else if 0 ≤ first then
      { negative := false, whole := digits.take (first.toNat + 1),
        fraction := some (digits.drop (first.toNat + 1)), exponent := none }
    else
      { negative := false, whole := ['0'],
        fraction := some (List.replicate (-first - 1).toNat '0' ++ digits), exponent := none }
  else
    { negative := false, whole := digits.take 1,
      fraction := if digits.length = 1 then none else some (digits.drop 1),
      exponent := some (decide (first < 0), Nat.toDigits 10 first.natAbs) }

theorem toList_exponentText (exponent : Int) :
    (exponentText exponent).toList =
      (if exponent < 0 then '-' else '+') :: Nat.toDigits 10 exponent.natAbs := by
  unfold exponentText
  split <;> simp

theorem toList_text (decimal : Decimal) : decimal.text.toList = decimal.literal.body := by
  unfold text literal
  dsimp only
  generalize Nat.toDigits 10 decimal.digits = digits
  generalize (digits.length + decimal.exponent - 1 : Int) = first
  by_cases hplace : -5 ≤ first ∧ first ≤ 15
  · rw [if_pos hplace, if_pos hplace]
    by_cases hinteger : 0 ≤ decimal.exponent
    · rw [if_pos hinteger, if_pos hinteger]
      simp [body, fractionChars, exponentChars, zeros]
    · rw [if_neg hinteger, if_neg hinteger]
      by_cases hfirst : 0 ≤ first
      · rw [if_pos hfirst, if_pos hfirst]
        simp [body, fractionChars, exponentChars, pointAfter]
      · rw [if_neg hfirst, if_neg hfirst]
        simp [body, fractionChars, exponentChars, zeros]
  · rw [if_neg hplace, if_neg hplace]
    by_cases hlength : digits.length = 1
    · have htake : digits.take 1 = digits := List.take_of_length_le (Nat.le_of_eq hlength)
      simp [body, fractionChars, exponentChars, hlength, htake, toList_exponentText]
    · simp [body, fractionChars, exponentChars, hlength, pointAfter, toList_exponentText]

/-- The literal of a decimal has a point or an exponent, so it is not read as an integer. -/
theorem not_plain_literal (negative : Bool) (decimal : Decimal) :
    ¬((decimal.literal.signed negative).fraction.isNone ∧
      (decimal.literal.signed negative).exponent.isNone) := by
  unfold literal signed
  dsimp only
  split
  · split
    · simp
    · split <;> simp
  · simp

theorem wellFormed_literal (decimal : Decimal) (h : 0 < decimal.digits) :
    decimal.literal.WellFormed := by
  have hdigits := Text.allDigits_toDigits decimal.digits
  obtain ⟨c, cs, hcons, hc⟩ := Text.exists_toDigits_eq_cons h
  have hwhole (rest : List Char) : isWhole (c :: rest) = true := by simp [isWhole, hc]
  have htake (n : Nat) : AllDigits ((Nat.toDigits 10 decimal.digits).take n) :=
    fun d hd => hdigits d (List.mem_of_mem_take hd)
  have hdrop (n : Nat) : AllDigits ((Nat.toDigits 10 decimal.digits).drop n) :=
    fun d hd => hdigits d (List.mem_of_mem_drop hd)
  unfold literal
  dsimp only
  generalize hfirst :
    (((Nat.toDigits 10 decimal.digits).length : Int) + decimal.exponent - 1) = first
  split
  · split
    · refine ⟨hdigits.append (Text.allDigits_zeros _), ?_, ?_, nofun⟩
      · rw [hcons]
        exact hwhole _
      · rintro _ ⟨⟩
        exact ⟨Text.allDigits_zeros 1, List.cons_ne_nil _ _⟩
    · split
      · refine ⟨htake _, ?_, ?_, nofun⟩
        · rw [hcons]
          exact hwhole _
        · rintro _ ⟨⟩
          refine ⟨hdrop _, fun hnil => ?_⟩
          have := List.drop_eq_nil_iff.mp hnil
          omega
      · refine ⟨Text.allDigits_zeros 1, rfl, ?_, nofun⟩
        rintro _ ⟨⟩
        refine ⟨(Text.allDigits_zeros _).append hdigits, ?_⟩
        rw [hcons]
        simp
  · refine ⟨htake _, ?_, ?_, ?_⟩
    · rw [hcons]
      exact hwhole _
    · rintro _ heq
      split at heq
      · cases heq
      · rename_i hlength
        cases heq
        refine ⟨hdrop _, fun hnil => ?_⟩
        have := List.drop_eq_nil_iff.mp hnil
        rw [hcons, List.length_cons] at this hlength
        omega
    · rintro _ _ ⟨⟩
      exact ⟨Text.allDigits_toDigits _, Nat.toDigits_ne_nil⟩

theorem exponentValue_signed (exponent : Int) :
    exponentValue (some (decide (exponent < 0), Nat.toDigits 10 exponent.natAbs)) = exponent := by
  by_cases hsign : exponent < 0
  · rw [decide_eq_true hsign, exponentValue, Text.decimalValue_toDigits]
    omega
  · rw [decide_eq_false hsign, exponentValue, Text.decimalValue_toDigits]
    omega

/-- The digits of a literal with its point left out, and the power of ten that they count. -/
def parts (literal : Number.Literal) : Decimal where
  digits := Text.decimalValue (literal.whole ++ literal.fraction.getD [])
  exponent := exponentValue literal.exponent - (literal.fraction.getD []).length

/-- A decimal that is an integer, counted in tenths. -/
def tenths (decimal : Decimal) : Decimal where
  digits := decimal.digits * 10 ^ (decimal.exponent.toNat + 1)
  exponent := -1

/-- The parts of the literal of a decimal are the decimal, but an integer has a zero behind the
point, so that it counts tenths. -/
theorem parts_literal (decimal : Decimal) :
    parts decimal.literal = decimal ∨
      (0 ≤ decimal.exponent ∧ parts decimal.literal = decimal.tenths) := by
  have hvalue := Text.decimalValue_toDigits decimal.digits
  have hne : 0 < (Nat.toDigits 10 decimal.digits).length :=
    List.length_pos_iff.mpr Nat.toDigits_ne_nil
  have hsame {digits : Nat} {exponent : Int} (hd : digits = decimal.digits)
      (he : exponent = decimal.exponent) : Decimal.mk digits exponent = decimal := by
    rw [hd, he]
  unfold parts literal
  dsimp only
  generalize hfirst :
    (((Nat.toDigits 10 decimal.digits).length : Int) + decimal.exponent - 1) = first
  generalize Nat.toDigits 10 decimal.digits = digits at *
  by_cases hplace : -5 ≤ first ∧ first ≤ 15
  · rw [if_pos hplace]
    by_cases hinteger : 0 ≤ decimal.exponent
    · have hzeros : Text.decimalValue
          (digits ++ List.replicate decimal.exponent.toNat '0' ++ ['0']) =
            decimal.digits * 10 ^ (decimal.exponent.toNat + 1) := by
        rw [List.append_assoc, ← List.replicate_succ', Text.decimalValue_append_zeros, hvalue]
      rw [if_pos hinteger]
      dsimp only
      rw [Option.getD_some, hzeros]
      exact .inr ⟨hinteger, rfl⟩
    · rw [if_neg hinteger]
      by_cases hwhole : 0 ≤ first
      · rw [if_pos hwhole]
        dsimp only
        rw [Option.getD_some, List.take_append_drop, List.length_drop, exponentValue]
        exact .inl (hsame hvalue (by omega))
      · have hzero : ['0'] ++ (List.replicate (-first - 1).toNat '0' ++ digits) =
            List.replicate ((-first - 1).toNat + 1) '0' ++ digits := rfl
        rw [if_neg hwhole]
        dsimp only
        rw [Option.getD_some, hzero, Text.decimalValue_zeros_append, List.length_append,
          List.length_replicate, exponentValue]
        exact .inl (hsame hvalue (by omega))
  · rw [if_neg hplace]
    dsimp only
    rw [exponentValue_signed]
    by_cases hlength : digits.length = 1
    · rw [if_pos hlength, Option.getD_none, List.append_nil,
        List.take_of_length_le (Nat.le_of_eq hlength), List.length_nil]
      exact .inl (hsame hvalue (by omega))
    · rw [if_neg hlength, Option.getD_some, List.take_append_drop, List.length_drop]
      exact .inl (hsame hvalue (by omega))

theorem RoundsTo.tenths {rank : Nat} (h : decimal.RoundsTo rank)
    (hinteger : 0 ≤ decimal.exponent) : decimal.tenths.RoundsTo rank := by
  unfold RoundsTo quotient at h
  rw [if_pos hinteger] at h
  have hten := h.scale (by decide : 0 < 10)
  rw [Nat.mul_assoc, ← Nat.pow_succ] at hten
  exact hten

/-- The literal of a decimal is read as the double that the decimal rounds to. -/
theorem toBinary64?_literal (negative : Bool) {rank : Nat} (hrank : 0 < rank)
    (hlt : rank < Binary64.rankBound) (hdigits : 0 < decimal.digits)
    (hmoderate : -20000 ≤ decimal.exponent) (h : decimal.RoundsTo rank) :
    (decimal.literal.signed negative).toBinary64? = some ⟨negative, rank, hlt⟩ := by
  have hread : (decimal.literal.signed negative).toBinary64? =
      Binary64.ofDecimal? negative (parts decimal.literal).digits
        (parts decimal.literal).exponent := toBinary64?_eq _
  rw [hread]
  obtain hparts | ⟨hinteger, hparts⟩ := parts_literal decimal
  · rw [hparts]
    exact Binary64.ofDecimal?_of_roundsTo negative hrank hlt hdigits hmoderate h
  · have hpos : 0 < decimal.tenths.digits := Nat.mul_pos hdigits (Nat.pow_pos (by decide))
    have hone : -20000 ≤ decimal.tenths.exponent := (by decide : (-20000 : Int) ≤ -1)
    rw [hparts]
    exact Binary64.ofDecimal?_of_roundsTo negative hrank hlt hpos hone (h.tenths hinteger)

end Decimal

/-! ## Numbers -/

namespace Number

open Literal

def literal : Number → Literal
  | .int value _ _ =>
      { negative := decide (value < 0), whole := Nat.toDigits 10 value.natAbs, fraction := none,
        exponent := none }
  | .float x =>
      if x.rank = 0 then
        { negative := x.negative, whole := ['0'], fraction := some ['0'], exponent := none }
      else (Binary64.shortest x.rank).literal.signed x.negative

theorem toList_text (number : Number) : number.text.toList = number.literal.chars := by
  cases number with
  | int value lower upper =>
      have htext : (Number.int value lower upper).text = value.repr := rfl
      rw [htext, Int.repr_eq_if, literal]
      by_cases hsign : value < 0
      · have habs : (-value).toNat = value.natAbs := by omega
        rw [if_neg (Int.not_le.mpr hsign), habs]
        simp [chars, body, fractionChars, exponentChars, hsign]
      · have habs : value.toNat = value.natAbs := by omega
        rw [if_pos (Int.not_lt.mp hsign), habs]
        simp [chars, body, fractionChars, exponentChars, hsign]
  | float x =>
      rw [text, Binary64.text, literal]
      by_cases hzero : x.rank = 0
      · rw [if_pos hzero, if_pos hzero]
        cases hsign : x.negative <;> simp [chars, body, fractionChars, exponentChars]
      · have hbody := (Binary64.shortest x.rank).toList_text
        rw [if_neg hzero, if_neg hzero]
        cases hsign : x.negative with
        | true =>
            rw [if_pos rfl, String.toList_append, hbody]
            rfl
        | false =>
            rw [if_neg Bool.false_ne_true, hbody]
            rfl

theorem wellFormed_literal (number : Number) : number.literal.WellFormed := by
  cases number with
  | int value lower upper =>
      refine ⟨Text.allDigits_toDigits _, ?_, nofun, nofun⟩
      by_cases hzero : value = 0
      · subst hzero
        rfl
      · obtain ⟨c, cs, hdigits, hc⟩ :=
          Text.exists_toDigits_eq_cons (Int.natAbs_pos.mpr hzero)
        rw [literal, hdigits]
        simp [isWhole, hc]
  | float x =>
      rw [literal]
      by_cases hzero : x.rank = 0
      · rw [if_pos hzero]
        refine ⟨Text.allDigits_zeros 1, rfl, ?_, nofun⟩
        rintro _ ⟨⟩
        exact ⟨Text.allDigits_zeros 1, List.cons_ne_nil _ _⟩
      · obtain ⟨-, hdigits, -⟩ := Binary64.shortest_spec (Nat.pos_of_ne_zero hzero) x.rank_lt
        obtain ⟨h₁, h₂, h₃, h₄⟩ := (Binary64.shortest x.rank).wellFormed_literal hdigits
        rw [if_neg hzero]
        exact ⟨h₁, h₂, h₃, h₄⟩

/-- A literal with a point or an exponent is a double. -/
theorem toNumber?_of_not_plain {literal : Literal}
    (h : ¬(literal.fraction.isNone ∧ literal.exponent.isNone)) :
    literal.toNumber? = literal.toBinary64?.map .float := by
  unfold toNumber?
  dsimp only
  rw [if_neg h]

theorem toNumber?_literal_int {value : Int} (lower upper) :
    (literal (.int value lower upper)).toNumber? = some (.int value lower upper) := by
  have hvalue := Text.decimalValue_toDigits value.natAbs
  have hinteger : ofInt? value = some (.int value lower upper) := dif_pos ⟨lower, upper⟩
  unfold toNumber? literal
  dsimp only
  rw [hvalue, if_pos (by decide)]
  by_cases hsign : value < 0
  · have habs : - (value.natAbs : Int) = value := by omega
    rw [if_pos (decide_eq_true hsign), if_neg (by omega), habs, hinteger]
  · have habs : (value.natAbs : Int) = value := by omega
    rw [if_neg (by rwa [decide_eq_true_eq]), habs, hinteger]

/-- The literal of a number is read as the number. -/
theorem toNumber?_literal (number : Number) : number.literal.toNumber? = some number := by
  cases number with
  | int value lower upper =>
      exact toNumber?_literal_int lower upper
  | float x =>
      rw [literal]
      by_cases hzero : x.rank = 0
      · have hx : x = Binary64.zero x.negative := by
          obtain ⟨negative, rank, rank_lt⟩ := x
          subst hzero
          rfl
        rw [if_pos hzero, toNumber?_of_not_plain (by simp), toBinary64?_eq]
        exact congrArg (fun y => some (Number.float y)) hx.symm
      · have hrank := Nat.pos_of_ne_zero hzero
        obtain ⟨hrounds, hdigits, hmoderate⟩ := Binary64.shortest_spec hrank x.rank_lt
        have hread :=
          Decimal.toBinary64?_literal x.negative hrank x.rank_lt hdigits hmoderate hrounds
        rw [if_neg hzero, toNumber?_of_not_plain (Decimal.not_plain_literal _ _), hread,
          Option.map_some]

end Number

end DocQuery
