import Mathlib.Algebra.Order.Ring.Nat
import Mathlib.Data.List.TakeWhile
import Mathlib.Tactic.Ring
import OrderDesk.Text.Blank
import OrderDesk.Text.Digits

/-!
# The values of digits

What a list of digits denotes, and that the digits of a number denote it (`digitsValue_decimal`),
with zeros in front of them as well (`digitsValue_padded`). A run of digits ends where another text
begins (`takeWhile_isDigit_append`).
-/

namespace OrderDesk.Text

theorem isBlank_eq_false_of_isDigit {c : Char} (h : isDigit c = true) : isBlank c = false := by
  simp only [isDigit, Bool.and_eq_true, decide_eq_true_eq] at h
  simp [isBlank]
  omega

theorem digitsValue_start (start : Nat) (cs : List Char) :
    digitsValue start cs = start * 10 ^ cs.length + digitsValue 0 cs := by
  induction cs generalizing start with
  | nil => simp
  | cons c cs ih =>
    rw [digitsValue_cons, digitsValue_cons, ih, ih (0 * 10 + digitValue c), List.length_cons]
    ring

/-- More digits denote no smaller number. -/
theorem le_digitsValue (start : Nat) (cs : List Char) : start ≤ digitsValue start cs := by
  rw [digitsValue_start]
  exact (Nat.le_mul_of_pos_right start (Nat.pow_pos (by decide))).trans (Nat.le_add_right _ _)

theorem digitsValue_replicate (k : Nat) : digitsValue 0 (List.replicate k '0') = 0 := by
  induction k with
  | zero => rfl
  | succ k ih => exact ih

theorem isDigit_of_mem_decimal {n : Nat} {c : Char} (h : c ∈ decimal n) : isDigit c = true :=
  Nat.isDigit_of_mem_toDigits (by decide) (by decide) h

theorem digitsValue_decimal (n : Nat) : digitsValue 0 (decimal n) = n := by
  have h : ∀ cs start, digitsValue start cs = Nat.ofDigitChars 10 cs start := by
    intro cs start
    simp only [digitsValue, Nat.ofDigitChars, Nat.mul_comm]
    rfl
  rw [h, decimal, Nat.ofDigitChars_ten_toDigits]

/-! ## Zeros in front -/

theorem isDigit_of_mem_padded {width n : Nat} {c : Char} (h : c ∈ padded width n) :
    isDigit c = true := by
  rcases List.mem_append.1 h with h | h
  · rw [List.eq_of_mem_replicate h]
    rfl
  · exact isDigit_of_mem_decimal h

theorem le_length_padded (width n : Nat) : width ≤ (padded width n).length := by
  simp only [padded, List.length_append, List.length_replicate]
  omega

theorem digitsValue_padded (width n : Nat) : digitsValue 0 (padded width n) = n := by
  simp only [padded]
  rw [digitsValue_append, digitsValue_replicate, digitsValue_decimal]

/-- A number that fits is written with so many digits and no more. -/
theorem length_padded {width n : Nat} (hwidth : 0 < width) (h : n < 10 ^ width) :
    (padded width n).length = width := by
  have hle : (decimal n).length ≤ width := (Nat.length_toDigits_le_iff (by decide) hwidth).2 h
  simp only [padded, List.length_append, List.length_replicate]
  omega

/-- A number that is written begins with a digit. -/
theorem exists_padded_eq_cons {width : Nat} (hwidth : 0 < width) (n : Nat) :
    ∃ c digits, padded width n = c :: digits ∧ isDigit c = true := by
  have hlength := le_length_padded width n
  cases hdigits : padded width n with
  | nil =>
    rw [hdigits, List.length_nil] at hlength
    omega
  | cons c digits => exact ⟨c, digits, rfl, isDigit_of_mem_padded (hdigits ▸ List.mem_cons_self)⟩

/-! ## The end of a run of digits -/

/-- Whether a text does not begin with a digit, so that it does not prolong a number. -/
def EndsDigits (rest : List Char) : Prop :=
  ∀ c, rest.head? = some c → isDigit c = false

section
variable {rest : List Char} (h : EndsDigits rest)
include h

theorem takeWhile_isDigit_append (cs : List Char) :
    (cs ++ rest).takeWhile isDigit = cs.takeWhile isDigit := by
  induction cs with
  | nil =>
    cases rest with
    | nil => rfl
    | cons c rest =>
      rw [List.nil_append, List.takeWhile_cons, h c rfl]
      rfl
  | cons c cs ih => rw [List.cons_append, List.takeWhile_cons, List.takeWhile_cons, ih]

theorem dropWhile_isDigit_append (cs : List Char) :
    (cs ++ rest).dropWhile isDigit = cs.dropWhile isDigit ++ rest := by
  induction cs with
  | nil =>
    cases rest with
    | nil => rfl
    | cons c rest =>
      rw [List.nil_append, List.dropWhile_cons, h c rfl]
      rfl
  | cons c cs ih =>
    rw [List.cons_append, List.dropWhile_cons, List.dropWhile_cons, ih]
    split <;> rfl

theorem takeWhile_isDigit_padded (width n : Nat) :
    (padded width n ++ rest).takeWhile isDigit = padded width n := by
  rw [takeWhile_isDigit_append h]
  exact List.takeWhile_eq_self_iff.2 fun c hc => isDigit_of_mem_padded hc

theorem dropWhile_isDigit_padded (width n : Nat) :
    (padded width n ++ rest).dropWhile isDigit = rest := by
  rw [List.dropWhile_append_of_pos fun c hc => isDigit_of_mem_padded hc]
  exact dropWhile_isDigit_append h []

end

theorem endsDigits_nil : EndsDigits [] := by
  intro c hc
  cases hc

theorem endsDigits_cons {c : Char} (h : isDigit c = false) (rest : List Char) :
    EndsDigits (c :: rest) := by
  intro d hd
  obtain rfl := Option.some.inj hd
  exact h

end OrderDesk.Text
