import OrderDesk.Proofs.Binary64.Whole

/-!
# Doubles that are not too large

`AtMost x n` says that a double is a number between zero and the natural number `n`. Rounding at
most doubles a number (`roundHalfEven_mul_le`), so bounds of the factors give a bound of a product
(`AtMost.mul`), and twice a number is a number (`AtMost.isFinite_add_self`), as long as all of them
stay far from the largest double.
-/

namespace OrderDesk.Binary64

/-- Whether a double is a number between zero and a natural number. -/
def AtMost : Binary64 → Nat → Prop
  | .finite false m e, n => m <<< e.toNat ≤ n <<< (-e).toNat
  | _, _ => False

/-! ## Rounding -/

theorem roundHalfEven_mul_le (num den : Nat) : roundHalfEven num den * den ≤ 2 * num := by
  have hsplit : num / den * den + num % den = num := Nat.div_add_mod' num den
  have hup : (num / den + 1) * den = num / den * den + den := Nat.succ_mul _ _
  unfold roundHalfEven
  dsimp only
  split
  · omega
  · next hhalf =>
    split
    · omega
    · -- a tie goes to the even neighbour, at most one higher
      rcases Nat.mod_two_eq_zero_or_one (num / den) with heven | hodd
      · rw [heven, Nat.add_zero]
        omega
      · rw [hodd]
        omega

theorem lastPlace_lt {num den k : Nat} (hden : den ≠ 0) (h : num < den <<< k)
    (hk : (k : Int) ≤ maxExponent) : lastPlace num den < maxExponent := by
  have hlog : num.log2 ≤ den.log2 + k := by
    by_cases hnum : num = 0
    · rw [hnum, Nat.log2_zero]
      exact Nat.zero_le _
    · rw [← log2_shiftLeft hden]
      exact (Nat.le_log2 (shiftLeft_ne_zero hden k)).2
        (Nat.le_trans (Nat.log2_self_le hnum) h.le)
  unfold lastPlace
  refine max_lt ?_ (by decide)
  split
  · omega
  · omega

theorem atMost_pack {m n : Nat} {e : Int} (he : e < maxExponent)
    (h : m <<< e.toNat ≤ n <<< (-e).toNat) : (pack false m e).AtMost n := by
  by_cases hcarried : m = 2 * leastNormal
  · have hrange : ¬ maxExponent < e + 1 := by omega
    simp only [pack, hcarried, if_true, hrange, if_false, AtMost]
    rw [hcarried] at h
    simp only [Nat.shiftLeft_eq] at h ⊢
    by_cases hlong : 0 ≤ e
    · rw [show (e + 1).toNat = e.toNat + 1 by omega, Nat.pow_succ,
        show (-(e + 1)).toNat = (-e).toNat by omega]
      calc leastNormal * (2 ^ e.toNat * 2) = 2 * leastNormal * 2 ^ e.toNat := by ring
        _ ≤ n * 2 ^ (-e).toNat := h
    · rw [show (e + 1).toNat = e.toNat by omega]
      rw [show (-e).toNat = (-(e + 1)).toNat + 1 by omega, Nat.pow_succ] at h
      refine Nat.le_of_mul_le_mul_left ?_ Nat.two_pos
      calc 2 * (leastNormal * 2 ^ e.toNat) = 2 * leastNormal * 2 ^ e.toNat := by ring
        _ ≤ n * (2 ^ (-(e + 1)).toNat * 2) := h
        _ = 2 * (n * 2 ^ (-(e + 1)).toNat) := by ring
  · have hrange : ¬ maxExponent < e := by omega
    simp only [pack, hcarried, if_false, hrange, AtMost]
    exact h

theorem atMost_ofRatio {num den n : Nat} (hden : den ≠ 0) (h : num ≤ n * den)
    (hn : n < 2 ^ 200) : (ofRatio false num den).AtMost (2 * n) := by
  unfold ofRatio
  split
  · simp only [AtMost, Nat.zero_shiftLeft, Nat.zero_le]
  · next hnum =>
    have hplace : lastPlace num den < maxExponent := by
      refine lastPlace_lt hden (k := 200) ?_ (by decide)
      rw [Nat.shiftLeft_eq, Nat.mul_comm den]
      exact Nat.lt_of_le_of_lt h (Nat.mul_lt_mul_of_pos_right hn (Nat.pos_of_ne_zero hden))
    generalize lastPlace num den = e at hplace
    refine atMost_pack hplace ?_
    have hround := roundHalfEven_mul_le (num <<< (-e).toNat) (den <<< e.toNat)
    simp only [Nat.shiftLeft_eq] at hround ⊢
    refine Nat.le_of_mul_le_mul_right ?_ (Nat.pos_of_ne_zero hden)
    calc roundHalfEven (num * 2 ^ (-e).toNat) (den * 2 ^ e.toNat) * 2 ^ e.toNat * den
        = roundHalfEven (num * 2 ^ (-e).toNat) (den * 2 ^ e.toNat) * (den * 2 ^ e.toNat) := by
          ring
      _ ≤ 2 * (num * 2 ^ (-e).toNat) := hround
      _ ≤ 2 * (n * den * 2 ^ (-e).toNat) :=
          Nat.mul_le_mul_left 2 (Nat.mul_le_mul_right _ h)
      _ = 2 * n * 2 ^ (-e).toNat * den := by ring

theorem atMost_ofNat {n : Nat} (hn : n < 2 ^ 200) : (ofNat n).AtMost (2 * n) :=
  atMost_ofRatio Nat.one_ne_zero (Nat.mul_one n).ge hn

/-- What is at most one, and not at most zero, is a number up to one. -/
theorem atMost_one_of_le {x : Binary64} (hone : x.le .one = true) (hzero : x.le .zero = false) :
    x.AtMost 1 := by
  match x, hone, hzero with
  | .infinite true, _, hzero => cases hzero
  | .finite true m e, _, hzero =>
    simp only [le, zero, inUnits, if_true, Bool.false_eq_true, if_false, Nat.zero_shiftLeft,
      decide_eq_false_iff_not] at hzero
    exact absurd (neg_nonpos.2 (Int.natCast_nonneg _)) hzero
  | .finite false m e, hone, _ =>
    have hvalue : one = .finite false leastNormal (-52) := rfl
    simp only [hvalue, le, inUnits, Bool.false_eq_true, if_false, decide_eq_true_eq,
      Int.ofNat_le, Nat.shiftLeft_eq] at hone
    simp only [AtMost, Nat.shiftLeft_eq, Nat.one_mul]
    generalize hunit : min e (-52) = unit at hone
    -- both sides are in units of `2 ^ unit`, the smaller one of the two exponents
    have hleft : (e - unit).toNat = e.toNat + ((-unit).toNat - (-e).toNat) := by omega
    have hright : 52 + (-52 - unit).toNat = (-e).toNat + ((-unit).toNat - (-e).toNat) := by omega
    refine Nat.le_of_mul_le_mul_right ?_ (Nat.two_pow_pos ((-unit).toNat - (-e).toNat))
    calc m * 2 ^ e.toNat * 2 ^ ((-unit).toNat - (-e).toNat)
        = m * 2 ^ (e - unit).toNat := by rw [hleft, Nat.pow_add, Nat.mul_assoc]
      _ ≤ 2 ^ 52 * 2 ^ (-52 - unit).toNat := hone
      _ = 2 ^ (-e).toNat * 2 ^ ((-unit).toNat - (-e).toNat) := by
          rw [← Nat.pow_add, ← Nat.pow_add, hright]

namespace AtMost

variable {x y : Binary64} {a b n : Nat}

theorem exists_eq_finite (h : x.AtMost n) :
    ∃ m e, x = .finite false m e ∧ m <<< e.toNat ≤ n <<< (-e).toNat := by
  match x, h with
  | .finite false m e, h => exact ⟨m, e, rfl, h⟩

theorem isFinite (h : x.AtMost n) : x.isFinite = true := by
  obtain ⟨m, e, rfl, -⟩ := h.exists_eq_finite
  rfl

theorem zero_le (h : x.AtMost n) : Binary64.zero.le x = true := by
  obtain ⟨m, e, rfl, -⟩ := h.exists_eq_finite
  simp only [Binary64.zero, Binary64.le, inUnits, Bool.false_eq_true, if_false,
    Nat.zero_shiftLeft, decide_eq_true_eq]
  exact Int.natCast_nonneg _

theorem ofScaled {m : Nat} {e : Int} (h : m <<< e.toNat ≤ n <<< (-e).toNat) (hn : n < 2 ^ 200) :
    (ofScaled false m e).AtMost (2 * n) := by
  refine atMost_ofRatio (shiftLeft_ne_zero Nat.one_ne_zero _) ?_ hn
  simpa only [Nat.shiftLeft_eq, Nat.one_mul] using h

theorem mul (hx : x.AtMost a) (hy : y.AtMost b) (h : a * b < 2 ^ 200) :
    (x.mul y).AtMost (2 * (a * b)) := by
  obtain ⟨m, e, rfl, hm⟩ := hx.exists_eq_finite
  obtain ⟨k, f, rfl, hk⟩ := hy.exists_eq_finite
  refine AtMost.ofScaled (m := m * k) (e := e + f) ?_ h
  simp only [Nat.shiftLeft_eq] at hm hk ⊢
  refine Nat.le_of_mul_le_mul_right ?_ (Nat.two_pow_pos (e.toNat + f.toNat))
  rw [mul_shift, mul_unshift]
  exact Nat.mul_le_mul_right _ (Nat.mul_le_mul hm hk)

theorem isFinite_add_self (h : x.AtMost n) (hn : 2 * n < 2 ^ 200) :
    (x.add x).isFinite = true := by
  obtain ⟨m, e, rfl, hm⟩ := h.exists_eq_finite
  have hself : inUnits false m e e = (m : Int) := by
    rw [inUnits, Int.sub_self]
    rfl
  simp only [add, min_self, hself]
  split
  · rfl
  · have htwice : (m + m) <<< e.toNat ≤ (2 * n) <<< (-e).toNat := by
      simp only [Nat.shiftLeft_eq] at hm ⊢
      calc (m + m) * 2 ^ e.toNat = 2 * (m * 2 ^ e.toNat) := by ring
        _ ≤ 2 * (n * 2 ^ (-e).toNat) := Nat.mul_le_mul_left 2 hm
        _ = 2 * n * 2 ^ (-e).toNat := by ring
    have hpositive : ¬ (m : Int) + m < 0 := by omega
    rw [decide_eq_false hpositive, ← Int.natCast_add, Int.natAbs_natCast]
    exact (AtMost.ofScaled htwice hn).isFinite

end AtMost

end OrderDesk.Binary64
