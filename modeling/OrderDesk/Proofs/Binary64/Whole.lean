import Mathlib.Algebra.Order.Ring.Nat
import Mathlib.Tactic.Ring
import OrderDesk.Binary64.Basic

/-!
# Doubles that are whole numbers

`Denotes x n` says that a double is exactly the natural number `n`. A number of at most 53 binary
digits, with any number of zeros behind them, is a double (`denotes_ofRatio`); so is a product of
two doubles that is such a number (`Denotes.mul`). Rounding leaves them as they are
(`Denotes.roundNat`).
-/

namespace OrderDesk.Binary64

/-! ## Rounding what needs no rounding -/

theorem shiftLeft_ne_zero {n : Nat} (hn : n ≠ 0) (k : Nat) : n <<< k ≠ 0 := by
  rw [Nat.shiftLeft_eq]
  exact Nat.mul_ne_zero hn (Nat.two_pow_pos k).ne'

theorem log2_shiftLeft {n : Nat} (hn : n ≠ 0) (k : Nat) : (n <<< k).log2 = n.log2 + k := by
  induction k with
  | zero => rfl
  | succ k ih =>
    rw [Nat.shiftLeft_succ, Nat.log2_two_mul (shiftLeft_ne_zero hn k), ih, Nat.add_assoc]

theorem roundHalfEven_mul (q : Nat) {den : Nat} (hden : 0 < den) :
    roundHalfEven (q * den) den = q := by
  rw [roundHalfEven, Nat.mul_mod_left, Nat.mul_div_cancel q hden]
  exact if_pos hden

theorem pack_of_lt (negative : Bool) {m : Nat} {e : Int} (hm : m < 2 * leastNormal)
    (he : e ≤ maxExponent) : pack negative m e = .finite negative m e := by
  have hcarried : ¬ m = 2 * leastNormal := Nat.ne_of_lt hm
  have hrange : ¬ maxExponent < e := Int.not_lt.2 he
  simp only [pack, hcarried, if_false, hrange]

/-- The last of the 53 digits of a whole number is 52 digits behind its first one. -/
theorem lastPlace_shiftLeft {v : Nat} (hv : v ≠ 0) (j : Nat) :
    lastPlace (v <<< j) (1 <<< j) = (v.log2 : Int) - 52 := by
  have hguess : ((v <<< j).log2 : Int) - ((1 <<< j).log2 : Int) - 52 = (v.log2 : Int) - 52 := by
    have hone : Nat.log2 1 = 0 := rfl
    rw [log2_shiftLeft hv, log2_shiftLeft Nat.one_ne_zero, hone]
    omega
  generalize hplace : (v.log2 : Int) - 52 = place at hguess
  have hfull : ¬ (v <<< j) <<< (-place).toNat < leastNormal * (1 <<< j) <<< place.toNat := by
    have hdigits : leastNormal * 2 ^ place.toNat = 2 ^ v.log2 * 2 ^ (-place).toNat := by
      rw [show leastNormal = 2 ^ 52 from rfl, ← Nat.pow_add, ← Nat.pow_add]
      congr 1
      omega
    have hleast : 2 ^ v.log2 ≤ v := Nat.log2_self_le hv
    simp only [Nat.shiftLeft_eq, Nat.one_mul]
    refine Nat.not_lt.2 ?_
    calc leastNormal * (2 ^ j * 2 ^ place.toNat)
        = leastNormal * 2 ^ place.toNat * 2 ^ j := by ring
      _ = 2 ^ v.log2 * (2 ^ j * 2 ^ (-place).toNat) := by rw [hdigits]; ring
      _ ≤ v * (2 ^ j * 2 ^ (-place).toNat) := Nat.mul_le_mul_right _ hleast
      _ = v * 2 ^ j * 2 ^ (-place).toNat := by ring
  unfold lastPlace
  simp only [hguess, if_neg hfull]
  exact max_eq_left (by unfold minExponent; omega)

/-- A whole number whose digits end with the 53rd is not rounded. -/
theorem ofRatio_shiftLeft (negative : Bool) {v m : Nat} (j : Nat) {e : Int} (hv : v ≠ 0)
    (he : (v.log2 : Int) - 52 = e) (hm : m <<< e.toNat = v <<< (-e).toNat)
    (hrange : e ≤ maxExponent) :
    ofRatio negative (v <<< j) (1 <<< j) = .finite negative m e := by
  have hexact : (v <<< j) <<< (-e).toNat = m * ((1 <<< j) <<< e.toNat) := by
    simp only [Nat.shiftLeft_eq, Nat.one_mul] at hm ⊢
    calc v * 2 ^ j * 2 ^ (-e).toNat = v * 2 ^ (-e).toNat * 2 ^ j := by ring
      _ = m * (2 ^ j * 2 ^ e.toNat) := by rw [← hm]; ring
  have hden : 0 < (1 <<< j) <<< e.toNat :=
    Nat.pos_of_ne_zero (shiftLeft_ne_zero (shiftLeft_ne_zero Nat.one_ne_zero j) _)
  have hlt : m < 2 * leastNormal := by
    have hv2 : v < 2 ^ (v.log2 + 1) := Nat.lt_log2_self
    have hdigits : 2 * leastNormal * 2 ^ e.toNat = 2 ^ (v.log2 + 1) * 2 ^ (-e).toNat := by
      rw [show 2 * leastNormal = 2 ^ 53 from rfl, ← Nat.pow_add, ← Nat.pow_add]
      congr 1
      omega
    simp only [Nat.shiftLeft_eq] at hm
    refine lt_of_mul_lt_mul_right ?_ (Nat.zero_le (2 ^ e.toNat))
    rw [hm, hdigits]
    exact Nat.mul_lt_mul_of_pos_right hv2 (Nat.two_pow_pos _)
  rw [ofRatio, if_neg (shiftLeft_ne_zero hv j), lastPlace_shiftLeft hv, he]
  simp only [hexact, roundHalfEven_mul m hden]
  exact pack_of_lt negative hlt hrange

/-! ## Whole numbers -/

/-- Whether a double is exactly a natural number. -/
def Denotes : Binary64 → Nat → Prop
  | .finite false m e, n => m <<< e.toNat = n <<< (-e).toNat
  | _, _ => False

/-- A whole number of at most 53 binary digits, and zeros behind them. -/
def Representable (v : Nat) : Prop :=
  ∃ m q : Nat, m < 2 * leastNormal ∧ (q : Int) ≤ maxExponent ∧ v = m <<< q

theorem representable_of_lt {n : Nat} (h : n < 2 * leastNormal) : Representable n :=
  ⟨n, 0, h, by decide, rfl⟩

theorem denotes_ofRatio {v : Nat} (h : Representable v) (j : Nat) :
    (ofRatio false (v <<< j) (1 <<< j)).Denotes v := by
  obtain ⟨m, q, hm, hq, hmv⟩ := h
  by_cases hv : v = 0
  · subst hv
    rw [Nat.zero_shiftLeft, ofRatio, if_pos rfl]
    simp only [Denotes, Nat.zero_shiftLeft]
  · have hlog : v.log2 < 53 + q := by
      refine (Nat.log2_lt hv).2 ?_
      rw [hmv, Nat.shiftLeft_eq, Nat.pow_add]
      exact Nat.mul_lt_mul_of_pos_right hm (Nat.two_pow_pos q)
    generalize he : (v.log2 : Int) - 52 = e
    -- the digits of `v` down to the 53rd, or filled up to it with zeros
    obtain ⟨digits, hdigits⟩ : ∃ digits, digits <<< e.toNat = v <<< (-e).toNat := by
      by_cases hlong : 0 ≤ e
      · refine ⟨m <<< (q - e.toNat), ?_⟩
        rw [← Nat.shiftLeft_add, Nat.sub_add_cancel (by omega), ← hmv,
          show (-e).toNat = 0 by omega, Nat.shiftLeft_zero]
      · refine ⟨v <<< (-e).toNat, ?_⟩
        rw [show e.toNat = 0 by omega, Nat.shiftLeft_zero]
    rw [ofRatio_shiftLeft false j hv he hdigits (by omega)]
    exact hdigits

theorem denotes_ofNat {n : Nat} (h : n < 2 * leastNormal) : (ofNat n).Denotes n :=
  denotes_ofRatio (representable_of_lt h) 0

/-- The left side of a product of two equations or bounds between shifted numbers. -/
theorem mul_shift (m k : Nat) (e f : Int) :
    m * k * 2 ^ (e + f).toNat * 2 ^ (e.toNat + f.toNat) =
      (m * 2 ^ e.toNat) * (k * 2 ^ f.toNat) * 2 ^ (e + f).toNat := by
  rw [Nat.pow_add]
  ring

/-- The right side of such a product. -/
theorem mul_unshift (a b : Nat) (e f : Int) :
    a * b * 2 ^ (-(e + f)).toNat * 2 ^ (e.toNat + f.toNat) =
      (a * 2 ^ (-e).toNat) * (b * 2 ^ (-f).toNat) * 2 ^ (e + f).toNat := by
  -- an exponent and its sum with another, each as a shift to the left and one to the right
  have hshifts : 2 ^ (-(e + f)).toNat * 2 ^ (e.toNat + f.toNat) =
      2 ^ ((-e).toNat + (-f).toNat) * 2 ^ (e + f).toNat := by
    rw [← Nat.pow_add, ← Nat.pow_add]
    congr 1
    omega
  rw [Nat.mul_assoc, hshifts, Nat.pow_add]
  ring

namespace Denotes

variable {x y : Binary64} {a b n : Nat}

theorem exists_eq_finite (h : x.Denotes n) :
    ∃ m e, x = .finite false m e ∧ m <<< e.toNat = n <<< (-e).toNat := by
  match x, h with
  | .finite false m e, h => exact ⟨m, e, rfl, h⟩

/-- A product that is a double is exact. -/
theorem mul (hx : x.Denotes a) (hy : y.Denotes b) (h : Representable (a * b)) :
    (x.mul y).Denotes (a * b) := by
  obtain ⟨m, e, rfl, hm⟩ := hx.exists_eq_finite
  obtain ⟨k, f, rfl, hk⟩ := hy.exists_eq_finite
  have hproduct : (m * k) <<< (e + f).toNat = (a * b) <<< (-(e + f)).toNat := by
    simp only [Nat.shiftLeft_eq] at hm hk ⊢
    refine Nat.eq_of_mul_eq_mul_right (Nat.two_pow_pos (e.toNat + f.toNat)) ?_
    rw [mul_shift, hm, hk, mul_unshift]
  change (ofScaled false (m * k) (e + f)).Denotes (a * b)
  rw [ofScaled, hproduct]
  exact denotes_ofRatio h _

/-- A whole number is its own nearest one. -/
theorem roundNat (h : x.Denotes n) : x.roundNat = n := by
  obtain ⟨m, e, rfl, hm⟩ := h.exists_eq_finite
  have hhalf : 2 * n <<< (-e).toNat + 1 <<< (-e).toNat = (2 * n + 1) * 2 ^ (-e).toNat := by
    simp only [Nat.shiftLeft_eq]
    ring
  rw [Binary64.roundNat, hm, hhalf, Nat.shiftLeft_eq,
    Nat.mul_div_mul_right _ _ (Nat.two_pow_pos (-e).toNat)]
  omega

end Denotes

end OrderDesk.Binary64
