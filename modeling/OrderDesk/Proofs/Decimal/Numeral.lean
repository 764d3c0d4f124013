import Mathlib.Algebra.Order.Field.Rat
import Mathlib.Tactic.FieldSimp
import Mathlib.Tactic.Positivity
import OrderDesk.Decimal.Parser
import OrderDesk.Proofs.Text.Digits

/-!
# Numerals

A decimal number as it is written, and what it denotes (`Numeral.value`). A numeral whose digits fit
a decimal is read digit by digit (`Decimal.exists_scan_append`), so nothing of it is rounded: the
decimal that is read is exactly what the numeral denotes (`Numeral.parse?_text`,
`Numeral.isExactly_decimal`).

A decimal is printed as a numeral, too (`Decimal.printed`), and read again as it was
(`Decimal.parse?_render`).
-/

namespace OrderDesk

open OrderDesk.Text

/-! ## What is written -/

/-- The sign in front of a number. -/
inductive Numeral.Sign where
  | plus
  | minus
  deriving DecidableEq, Repr

def Numeral.Sign.char : Numeral.Sign → Char
  | .plus => '+'
  | .minus => '-'

/-- A decimal number as it is written: a sign or none, digits, and a point or none, with digits
behind it or none. There is a digit at least. -/
structure Numeral where
  sign : Option Numeral.Sign
  whole : List Char
  fraction : Option (List Char)
  isDigit_of_mem : ∀ c ∈ whole ++ fraction.getD [], isDigit c = true
  ne_nil : whole ++ fraction.getD [] ≠ []

namespace Numeral

/-- The digits behind the point. -/
def behind (n : Numeral) : List Char :=
  n.fraction.getD []

/-- How many digits are behind the point. -/
def places (n : Numeral) : Nat :=
  n.behind.length

/-- All the digits as one number, as if there were no point. -/
def mantissa (n : Numeral) : Nat :=
  digitsValue 0 (n.whole ++ n.behind)

def unsigned (n : Numeral) : List Char :=
  n.whole ++ (n.fraction.map ('.' :: ·)).getD []

def text (n : Numeral) : List Char :=
  (n.sign.map Sign.char).toList ++ n.unsigned

/-- Whether there is a minus in front. -/
def isNegated (n : Numeral) : Bool :=
  n.sign == some .minus

/-- A numeral that a decimal has room for. -/
structure Fits (n : Numeral) : Prop where
  places_le : n.places ≤ 28
  mantissa_lt : n.mantissa < Decimal.mantissaLimit

/-- What the digits behind a point denote: each a tenth of what it would be one place before. -/
def fractionValue : List Char → ℚ
  | [] => 0
  | c :: cs => (digitValue c + fractionValue cs) / 10

end Numeral

/-- A number with its sign. -/
def signed (negative : Bool) (magnitude : ℚ) : ℚ :=
  if negative then -magnitude else magnitude

/-- The number that a numeral denotes. -/
def Numeral.value (n : Numeral) : ℚ :=
  signed n.isNegated (digitsValue 0 n.whole + fractionValue n.behind)

/-- The number that a decimal stands for. -/
def Decimal.toRat (d : Decimal) : ℚ :=
  signed d.negative (d.mantissa / 10 ^ d.scale)

/-- A decimal is just what a numeral says, with as many digits behind the point. -/
structure Decimal.IsExactly (d : Decimal) (n : Numeral) : Prop where
  value : d.toRat = n.value
  mantissa : d.mantissa = n.mantissa
  scale : d.scale = n.places
  /-- A zero has no sign. -/
  negative_iff : d.negative = true ↔ n.value < 0

/-! ## What is denoted -/

theorem div_pow_pos_iff {m s : Nat} : (0 : ℚ) < m / 10 ^ s ↔ m ≠ 0 := by
  have hpow : (0 : ℚ) < 10 ^ s := by positivity
  rw [div_pos_iff_of_pos_right hpow, Nat.cast_pos, Nat.pos_iff_ne_zero]

theorem signed_neg_iff {negative : Bool} {m s : Nat} :
    signed negative (m / 10 ^ s) < 0 ↔ negative = true ∧ m ≠ 0 := by
  have hnonneg : (0 : ℚ) ≤ m / 10 ^ s := by positivity
  cases negative with
  | false => simp [signed, hnonneg]
  | true => simp [signed, ← div_pow_pos_iff (m := m) (s := s)]

theorem signed_pos_iff {negative : Bool} {m s : Nat} :
    0 < signed negative (m / 10 ^ s) ↔ negative = false ∧ m ≠ 0 := by
  have hnonneg : (0 : ℚ) ≤ m / 10 ^ s := by positivity
  cases negative with
  | true => simp [signed, hnonneg]
  | false => simp [signed, ← div_pow_pos_iff (m := m) (s := s)]

namespace Decimal

theorem isPositive_iff_toRat {d : Decimal} : d.isPositive = true ↔ 0 < d.toRat := by
  rw [toRat, signed_pos_iff]
  simp [isPositive, and_comm]

theorem isNegative_iff_toRat {d : Decimal} : d.isNegative = true ↔ d.toRat < 0 := by
  rw [toRat, signed_neg_iff]
  simp [isNegative, and_comm]

end Decimal

namespace Numeral

variable (n : Numeral)

theorem fractionValue_eq (cs : List Char) :
    fractionValue cs = digitsValue 0 cs / 10 ^ cs.length := by
  induction cs with
  | nil => simp [fractionValue]
  | cons c cs ih =>
    rw [fractionValue, ih, digitsValue_cons, digitsValue_start (0 * 10 + digitValue c),
      List.length_cons]
    push_cast
    field_simp
    ring

/-- The value is that of all the digits, in units of the last place. -/
theorem value_eq : n.value = signed n.isNegated (n.mantissa / 10 ^ n.places) := by
  rw [value, fractionValue_eq, mantissa, digitsValue_append,
    digitsValue_start (digitsValue 0 n.whole), places]
  congr 1
  push_cast
  field_simp

theorem isDigit_of_mem_whole {c : Char} (h : c ∈ n.whole) : isDigit c = true :=
  n.isDigit_of_mem c (List.mem_append_left _ h)

theorem isDigit_of_mem_behind {c : Char} (h : c ∈ n.behind) : isDigit c = true :=
  n.isDigit_of_mem c (List.mem_append_right _ h)

theorem whole_ne_nil_or : n.whole ≠ [] ∨ n.behind ≠ [] := by
  have h := n.ne_nil
  rwa [ne_eq, List.append_eq_nil_iff, not_and_or] at h

/-- The point is written with the digits behind it, if there is one. -/
theorem unsigned_cases : (n.behind = [] ∧ n.unsigned = n.whole) ∨
    n.unsigned = n.whole ++ '.' :: n.behind := by
  rw [unsigned, behind]
  cases n.fraction with
  | none => exact .inl ⟨rfl, List.append_nil _⟩
  | some ds => exact .inr rfl

theorem isDigit_or_eq_of_mem {c : Char} (h : c ∈ n.unsigned) : isDigit c = true ∨ c = '.' := by
  rcases n.unsigned_cases with ⟨-, hn⟩ | hn
  · exact .inl (n.isDigit_of_mem_whole (hn ▸ h))
  · rw [hn, List.mem_append, List.mem_cons] at h
    rcases h with h | rfl | h
    · exact .inl (n.isDigit_of_mem_whole h)
    · exact .inr rfl
    · exact .inl (n.isDigit_of_mem_behind h)

theorem isBlank_eq_false_of_mem {c : Char} (h : c ∈ n.text) : isBlank c = false := by
  rcases List.mem_append.1 h with h | h
  · obtain ⟨sign, -, rfl⟩ : ∃ sign, n.sign = some sign ∧ sign.char = c := by simpa using h
    cases sign <;> rfl
  · rcases n.isDigit_or_eq_of_mem h with hc | rfl
    · exact isBlank_eq_false_of_isDigit hc
    · rfl

end Numeral

/-- A decimal that is just what a numeral says is no zero with a sign. -/
theorem Decimal.IsExactly.mantissa_ne_zero {d : Decimal} {n : Numeral} (h : d.IsExactly n)
    (hnegative : d.negative = true) : d.mantissa ≠ 0 := by
  have hvalue := h.negative_iff.1 hnegative
  rw [n.value_eq, signed_neg_iff] at hvalue
  rw [h.mantissa]
  exact hvalue.2

/-! ## Reading -/

namespace Decimal

namespace Scan

@[simp] theorem mantissa_push (s : Scan) (digit : Nat) :
    (s.push digit).mantissa = s.mantissa * 10 + digit := rfl

@[simp] theorem scale_push (s : Scan) (digit : Nat) :
    (s.push digit).scale = if s.pointSeen then s.scale + 1 else s.scale := rfl

@[simp] theorem pointSeen_push (s : Scan) (digit : Nat) :
    (s.push digit).pointSeen = s.pointSeen := rfl

@[simp] theorem digitSeen_push (s : Scan) (digit : Nat) : (s.push digit).digitSeen = true := rfl

/-- How far a text has been read once some more digits were. -/
structure Appended (s : Scan) (cs : List Char) (s' : Scan) : Prop where
  mantissa : s'.mantissa = digitsValue s.mantissa cs
  scale : s'.scale = s.scale + if s.pointSeen then cs.length else 0
  pointSeen : s'.pointSeen = s.pointSeen
  digitSeen : s'.digitSeen = (s.digitSeen || decide (cs ≠ []))

theorem Appended.nil (s : Scan) : s.Appended [] s :=
  ⟨rfl, by simp, rfl, by simp⟩

theorem Appended.cons {s s' : Scan} {c : Char} {cs : List Char}
    (h : (s.push (digitValue c)).Appended cs s') : s.Appended (c :: cs) s' where
  mantissa := by rw [h.mantissa, mantissa_push, digitsValue_cons]
  scale := by
    rw [h.scale, scale_push, pointSeen_push, List.length_cons]
    split <;> omega
  pointSeen := h.pointSeen.trans (s.pointSeen_push _)
  digitSeen := by simp [h.digitSeen]

/-- A digit fits if the number with all digits does, and there is a place behind the point. -/
theorem fits_of_lt {s : Scan} {c : Char} {cs : List Char}
    (hmantissa : digitsValue s.mantissa (c :: cs) < mantissaLimit)
    (hscale : s.pointSeen = true → s.scale + (c :: cs).length ≤ 28) :
    s.fits (digitValue c) = true := by
  rw [digitsValue_cons] at hmantissa
  have hroom : s.mantissa * 10 + digitValue c < mantissaLimit :=
    (le_digitsValue _ cs).trans_lt hmantissa
  cases hpoint : s.pointSeen with
  | false => simp [fits, hroom, hpoint]
  | true =>
    have hlength := hscale hpoint
    rw [List.length_cons] at hlength
    simp [fits, hroom, show s.scale < 28 by omega]

end Scan

/-- Digits are read one by one as long as there is room for all of them: the number that was read
so far is never above the one that is read in the end. -/
theorem exists_scan_append {s : Scan} {cs : List Char} (rest : List Char)
    (hdigit : ∀ c ∈ cs, isDigit c = true) (hmantissa : digitsValue s.mantissa cs < mantissaLimit)
    (hscale : s.pointSeen = true → s.scale + cs.length ≤ 28) :
    ∃ s', s.Appended cs s' ∧ scan s (cs ++ rest) = scan s' rest := by
  induction cs generalizing s with
  | nil => exact ⟨s, .nil s, rfl⟩
  | cons c cs ih =>
    obtain ⟨s', happended, hscan⟩ := ih (s := s.push (digitValue c))
      (fun d hd => hdigit d (List.mem_cons_of_mem c hd))
      (by rwa [digitsValue_cons] at hmantissa) fun hpoint => by
        rw [Scan.pointSeen_push] at hpoint
        have hlength := hscale hpoint
        rw [List.length_cons] at hlength
        rw [Scan.scale_push, if_pos hpoint]
        omega
    refine ⟨s', happended.cons, ?_⟩
    rw [List.cons_append, scan, if_pos (hdigit c List.mem_cons_self),
      if_pos (Scan.fits_of_lt hmantissa hscale), hscan]

theorem scan_point {s : Scan} (h : s.pointSeen = false) (cs : List Char) :
    scan s ('.' :: cs) = scan { s with pointSeen := true } cs := by
  rw [scan, if_neg (by decide), if_pos rfl, if_neg (by simp [h])]

theorem scan_nil {s : Scan} (h : s.digitSeen = true) : scan s [] = some (s.mantissa, s.scale) := by
  rw [scan, if_pos h]

/-- What is read of digits behind a sign or none. -/
theorem plain?_append (sign : Option Numeral.Sign) {cs : List Char}
    (h : ∀ c ∈ cs, isDigit c = true ∨ c = '.') :
    plain? ((sign.map Numeral.Sign.char).toList ++ cs) =
      (scan {} cs).bind fun p => ofParts? (sign == some .minus && p.1 != 0) p.1 p.2 := by
  cases sign with
  | some sign =>
    cases sign with
    | plus => cases hscan : scan {} cs <;> simp [plain?, Numeral.Sign.char, hscan]; rfl
    | minus => cases hscan : scan {} cs <;> simp [plain?, Numeral.Sign.char, hscan]
  | none =>
    cases cs with
    | nil => rfl
    | cons c cs =>
      have hsign : c ≠ '-' ∧ c ≠ '+' := by
        rcases h c List.mem_cons_self with hc | rfl
        · constructor <;> rintro rfl <;> cases hc
        · decide
      cases hscan : scan {} (c :: cs) <;> simp [plain?, hsign, hscan]

end Decimal

namespace Numeral

variable {n : Numeral}

/-- Nothing of a numeral is left out or rounded when its digits are read. -/
theorem scan_unsigned (h : n.Fits) :
    Decimal.scan {} n.unsigned = some (n.mantissa, n.places) := by
  have hdigits : digitsValue (digitsValue 0 n.whole) n.behind = n.mantissa :=
    (digitsValue_append 0 n.whole n.behind).symm
  have hlt : digitsValue (digitsValue 0 n.whole) n.behind < Decimal.mantissaLimit :=
    hdigits.trans_lt h.mantissa_lt
  have hread := fun rest => Decimal.exists_scan_append (s := {}) rest
    (fun _ => n.isDigit_of_mem_whole) ((le_digitsValue _ n.behind).trans_lt hlt) (by simp)
  rcases n.unsigned_cases with ⟨hnil, hn⟩ | hn
  · obtain ⟨s, hs, hscan⟩ := hread []
    have hseen : s.digitSeen = true := by
      have hne : n.whole ≠ [] := n.whole_ne_nil_or.resolve_right (by simp [hnil])
      simp [hs.digitSeen, hne]
    rw [List.append_nil] at hscan
    rw [hn, hscan, Decimal.scan_nil hseen, hs.mantissa, hs.scale, ← hdigits, places, hnil]
    rfl
  · obtain ⟨s, hs, hscan⟩ := hread ('.' :: n.behind)
    obtain ⟨s', hs', hscan'⟩ := Decimal.exists_scan_append (s := { s with pointSeen := true }) []
      (fun _ => n.isDigit_of_mem_behind) (by rw [hs.mantissa]; exact hlt)
      fun _ => by rw [hs.scale]; simpa [places] using h.places_le
    have hseen : s'.digitSeen = true := by
      rcases n.whole_ne_nil_or with hne | hne <;> simp [hs'.digitSeen, hs.digitSeen, hne]
    rw [List.append_nil] at hscan'
    rw [hn, hscan, Decimal.scan_point hs.pointSeen, hscan', Decimal.scan_nil hseen, hs'.mantissa,
      hs'.scale, hs.mantissa, hs.scale]
    simp [hdigits, places]

/-- The decimal that is read. -/
def decimal (n : Numeral) (h : n.Fits) : Decimal :=
  ⟨n.isNegated && n.mantissa != 0, n.mantissa, n.places, h.mantissa_lt, h.places_le⟩

theorem plain?_text (h : n.Fits) : Decimal.plain? n.text = some (n.decimal h) := by
  rw [text, Decimal.plain?_append n.sign fun c hc => n.isDigit_or_eq_of_mem hc, scan_unsigned h]
  exact Decimal.ofParts?_eq_some h.mantissa_lt h.places_le

theorem parse?_text (h : n.Fits) : Decimal.parse? n.text = some (n.decimal h) := by
  rw [Decimal.parse?, plain?_text h]

theorem isExactly_decimal (h : n.Fits) : (n.decimal h).IsExactly n where
  value := by
    rw [value_eq, Decimal.toRat]
    by_cases hzero : n.mantissa = 0
    · simp [decimal, hzero, signed]
    · rw [decimal, bne_iff_ne.2 hzero, Bool.and_true]
  mantissa := rfl
  scale := rfl
  negative_iff := by
    rw [value_eq, signed_neg_iff]
    simp [decimal]

end Numeral

/-! ## Printing -/

namespace Decimal

variable (d : Decimal)

/-- The digits that are printed. -/
def digits : List Char :=
  padded (d.scale + 1) d.mantissa

/-- The digits that are printed in front of the point. -/
def wholeDigits : List Char :=
  d.digits.take (d.digits.length - d.scale)

/-- The digits that are printed behind the point, if there are any. -/
def fractionDigits? : Option (List Char) :=
  if d.scale = 0 then none else some (d.digits.drop (d.digits.length - d.scale))

theorem wholeDigits_append : d.wholeDigits ++ d.fractionDigits?.getD [] = d.digits := by
  rw [wholeDigits, fractionDigits?]
  split
  · next hscale => simp [hscale]
  · exact List.take_append_drop _ _

/-- A decimal as it is printed. -/
def printed : Numeral where
  sign := if d.negative then some .minus else none
  whole := d.wholeDigits
  fraction := d.fractionDigits?
  isDigit_of_mem c hc := by
    rw [wholeDigits_append] at hc
    exact isDigit_of_mem_padded hc
  ne_nil := by
    rw [wholeDigits_append, ← List.length_pos_iff]
    exact Nat.lt_of_lt_of_le (Nat.succ_pos d.scale) (le_length_padded _ _)

theorem text_printed : d.printed.text = d.render := by
  have hsign : (d.printed.sign.map Numeral.Sign.char).toList =
      if d.negative then ['-'] else [] := by
    simp only [printed]
    cases d.negative <;> rfl
  have hpoint : (d.printed.fraction.map ('.' :: ·)).getD [] = if d.scale = 0 then []
      else '.' :: d.digits.drop (d.digits.length - d.scale) := by
    simp only [printed, fractionDigits?]
    split <;> rfl
  rw [Numeral.text, Numeral.unsigned, hsign, hpoint, ← List.append_assoc]
  rfl

theorem mantissa_printed : d.printed.mantissa = d.mantissa := by
  have hdigits : d.printed.whole ++ d.printed.behind = d.digits := d.wholeDigits_append
  rw [Numeral.mantissa, hdigits, digits, digitsValue_padded]

theorem places_printed : d.printed.places = d.scale := by
  have hlength : d.scale + 1 ≤ d.digits.length := le_length_padded _ _
  simp only [Numeral.places, Numeral.behind, printed, fractionDigits?]
  split
  · next hscale => exact hscale.symm
  · simp only [Option.getD_some, List.length_drop]
    omega

theorem fits_printed : d.printed.Fits :=
  ⟨d.places_printed.trans_le d.scale_le, d.mantissa_printed.trans_lt d.mantissa_lt⟩

/-- What is printed is read as it was, if it is not a zero with a sign. -/
theorem parse?_render {d : Decimal} (h : d.negative = true → d.mantissa ≠ 0) :
    parse? d.render = some d := by
  have hsign : (d.printed.isNegated && d.mantissa != 0) = d.negative := by
    have hnegated : d.printed.isNegated = d.negative := by
      simp only [Numeral.isNegated, printed]
      cases d.negative <;> rfl
    rw [hnegated]
    cases hnegative : d.negative with
    | false => rfl
    | true => simp [h hnegative]
  rw [← text_printed, Numeral.parse?_text d.fits_printed, Numeral.decimal]
  simp only [mantissa_printed, places_printed, hsign]

end Decimal

end OrderDesk
