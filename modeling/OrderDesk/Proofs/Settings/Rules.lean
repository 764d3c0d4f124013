import OrderDesk.Proofs.Wire.Decoding
import OrderDesk.Settings

/-!
# The rules that settings obey

`Settings.Obeys` is what settings have to satisfy once all variables could be read, and
`load_eq_ok_iff` says that just those are accepted.
-/

namespace OrderDesk.Settings

/-- The rules for settings. -/
structure Obeys (s : Settings) : Prop where
  simulatorInterval : s.simulatorInterval ≠ 0
  fillProbability :
    Binary64.zero.le s.fillProbability = true ∧ s.fillProbability.le .one = true
  pollInterval : s.pollInterval ≠ 0
  bufferCapacity : s.bufferCapacity ≠ 0
  cacheTtl : s.cacheEnabled = true → s.cacheTtl ≠ 0
  delays : s.retry.initialDelay ≤ s.retry.maxDelay

/-- A rule that is kept leaves it to the rules after it to find fault. -/
theorem ite_some_eq_none_iff {α : Type} {broken : Prop} [Decidable broken] {fault : α}
    {rest : Option α} : (if broken then some fault else rest) = none ↔ ¬ broken ∧ rest = none := by
  by_cases h : broken <;> simp [h]

theorem fault?_eq_none_iff {s : Settings} : s.fault? = none ↔ s.Obeys := by
  unfold fault?
  simp only [ite_some_eq_none_iff]
  constructor
  · rintro ⟨hinterval, hprobability, hpoll, hbuffer, hcache, hdelays, -⟩
    exact
      { simulatorInterval := hinterval
        fillProbability := by simpa using hprobability
        pollInterval := hpoll
        bufferCapacity := hbuffer
        cacheTtl := by simpa using hcache
        delays := Nat.not_lt.1 hdelays }
  · intro h
    have hprobability := h.fillProbability
    have hcache := h.cacheTtl
    exact ⟨h.simulatorInterval, by simpa using hprobability, h.pollInterval, h.bufferCapacity,
      by simpa using hcache, Nat.not_lt.2 h.delays, trivial⟩

theorem validate_eq_ok_iff {s : Settings} : s.validate = .ok () ↔ s.Obeys := by
  rw [← fault?_eq_none_iff, validate]
  cases s.fault? <;> simp

/-- Settings are accepted when all variables can be read and what they say obeys the rules. -/
theorem load_eq_ok_iff {vars : Variables} {s : Settings} :
    load vars = .ok s ↔ readAll vars = .ok s ∧ s.Obeys := by
  simp only [load, bind_eq_ok_iff, pure, Except.pure, Except.ok.injEq]
  constructor
  · rintro ⟨read, hread, u, hvalid, rfl⟩
    exact ⟨hread, validate_eq_ok_iff.1 hvalid⟩
  · rintro ⟨hread, hobeys⟩
    exact ⟨s, hread, (), validate_eq_ok_iff.2 hobeys, rfl⟩

end OrderDesk.Settings
