import OrderDesk.Binary64.Parser
import OrderDesk.Text.LowerCase

/-!
# Words up to case

Whether the full lower case of a text is a certain word is a matter of ASCII, if the word is made
of `isPlain` characters (`lowerCase_eq_iff`): a capital outside of ASCII is not lowered to any of
these. The tables of capitals are searched for that once (`ascii_or_above`, `kelvin_or_above`).
-/

namespace OrderDesk.Text

/-- A digit or a small letter that stems from no capital but its own. The dotted capital I starts
with an i in lower case, and the Kelvin sign becomes a k. -/
def isPlain (c : Char) : Bool :=
  isDigit c || (decide (97 ≤ c.toNat) && decide (c.toNat ≤ 122) && c != 'i' && c != 'k')

theorem lt_of_isPlain {c : Char} (h : isPlain c = true) : c.toNat < 128 := by
  simp only [isPlain, isDigit, Bool.or_eq_true, Bool.and_eq_true, decide_eq_true_eq] at h
  omega

/-! ## The table -/

/-- The first run of the table: the capitals of ASCII. -/
def asciiRun : CaseRun := (0x41, 0x5A, 1, 32)

theorem ascii_or_above : ∀ run ∈ caseRuns, run = asciiRun ∨ 128 ≤ run.1 := by
  decide +kernel

/-- Only the Kelvin sign comes from outside of ASCII into it. -/
theorem kelvin_or_above : ∀ run ∈ caseRuns, run = asciiRun ∨ run = (0x212A, 0x212A, 1, -8383) ∨
    128 ≤ (run.1 : Int) + run.2.2.2 := by
  decide +kernel

theorem covers_iff {run : CaseRun} {n : Nat} : run.covers n = true ↔
    run.1 ≤ n ∧ n ≤ run.2.1 ∧ (n - run.1) % run.2.2.1 = 0 := by
  simp only [CaseRun.covers, Bool.and_eq_true, decide_eq_true_eq, beq_iff_eq, and_assoc]

/-! ## One character -/

/-- The small letter of an ASCII capital; any other character as it is. -/
def asciiLowerOf (c : Char) : Char :=
  if 65 ≤ c.toNat ∧ c.toNat ≤ 90 then Char.ofNat (c.toNat + 32) else c

theorem lowerOf_of_ascii {c : Char} (h : c.toNat < 128) : lowerOf c = [asciiLowerOf c] := by
  have hdotted : ¬ c.toNat = 0x130 := by omega
  rw [lowerOf, if_neg hdotted]
  by_cases hcapital : 65 ≤ c.toNat ∧ c.toNat ≤ 90
  · have hfound : caseRuns.find? (·.covers c.toNat) = some asciiRun := by
      have hcovers : asciiRun.covers c.toNat = true :=
        covers_iff.2 ⟨hcapital.1, hcapital.2, Nat.mod_one _⟩
      rw [show caseRuns = asciiRun :: caseRuns.tail from rfl, List.find?_cons, hcovers]
    rw [hfound, asciiLowerOf, if_pos hcapital]
    rfl
  · have hnone : caseRuns.find? (·.covers c.toNat) = none := by
      refine List.find?_eq_none.2 fun run hrun hcovers => ?_
      obtain ⟨hlow, hhigh, -⟩ := covers_iff.1 hcovers
      rcases ascii_or_above run hrun with rfl | habove
      · exact hcapital ⟨hlow, hhigh⟩
      · omega
    rw [hnone, asciiLowerOf, if_neg hcapital]

theorem isPlain_ofNat {n : Nat} (h : 128 ≤ n) : isPlain (Char.ofNat n) = false := by
  refine Bool.eq_false_iff.2 fun hplain => ?_
  by_cases hvalid : n.isValidChar
  · have hlt := lt_of_isPlain hplain
    rw [Char.ofNat, dif_pos hvalid] at hlt
    exact absurd (Nat.lt_of_le_of_lt h hlt) (Nat.lt_irrefl 128)
  · rw [Char.ofNat, dif_neg hvalid] at hplain
    cases hplain

/-- What stands for a character outside of ASCII is not all plain. -/
theorem exists_not_isPlain {c : Char} (h : 128 ≤ c.toNat) :
    ∃ x ∈ lowerOf c, isPlain x = false := by
  unfold lowerOf
  split
  · exact ⟨'i', List.mem_cons_self, by decide⟩
  · split
    · next run hfound =>
      have hcovers := List.find?_some hfound
      obtain ⟨hlow, hhigh, -⟩ := covers_iff.1 hcovers
      refine ⟨_, List.mem_singleton_self _, ?_⟩
      rcases kelvin_or_above run (List.mem_of_find?_eq_some hfound) with rfl | rfl | habove
      · exact absurd (Nat.le_trans h hhigh) (by decide)
      · rw [Nat.le_antisymm hhigh hlow]
        decide
      · exact isPlain_ofNat (by omega)
    · refine ⟨c, List.mem_singleton_self _, Bool.eq_false_iff.2 fun hplain => ?_⟩
      have hlt := lt_of_isPlain hplain
      omega

/-! ## A text -/

/-- Every character is lowered by itself, and a plain text comes from ASCII. -/
theorem lowerFrom_eq_iff {word : List Char} (h : ∀ d ∈ word, isPlain d = true)
    (before cs : List Char) : lowerFrom before cs = word ↔ cs.map asciiLowerOf = word := by
  induction cs generalizing before word with
  | nil => rfl
  | cons c rest ih =>
    rw [lowerFrom, List.map_cons]
    by_cases hascii : c.toNat < 128
    · have hsigma : ¬ c = 'Σ' := by
        rintro rfl
        exact absurd hascii (by decide)
      rw [if_neg hsigma, lowerOf_of_ascii hascii, List.singleton_append]
      cases word with
      | nil => simp
      | cons d word =>
        simp only [List.cons.injEq]
        exact and_congr_right fun _ => ih (List.forall_mem_cons.1 h).2 _
    · have hforeign : ∃ x ∈ (if c = 'Σ' then
          [if startsCased before && !startsCased rest then 'ς' else 'σ'] else lowerOf c),
          isPlain x = false := by
        split
        · refine ⟨_, List.mem_singleton_self _, ?_⟩
          split <;> decide
        · exact exists_not_isPlain (Nat.not_lt.1 hascii)
      obtain ⟨x, hx, hxplain⟩ := hforeign
      constructor
      · rintro rfl
        have hplain := h x (List.mem_append_left _ hx)
        rw [hxplain] at hplain
        cases hplain
      · rintro rfl
        have hkept : asciiLowerOf c = c := if_neg (by omega)
        have hplain := h (asciiLowerOf c) List.mem_cons_self
        rw [hkept] at hplain
        exact absurd (lt_of_isPlain hplain) hascii

theorem lowerCase_eq_iff {cs word : List Char} (h : ∀ d ∈ word, isPlain d = true) :
    lowerCase cs = word ↔ Binary64.asciiLower cs = word :=
  lowerFrom_eq_iff h [] cs

end OrderDesk.Text
