import Mathlib.Data.List.Perm.Basic
import OrderDesk.Metrics

/-!
# What was recorded, in numbers

`Recording.total` is how many of some recordings add to the counters that a condition picks, and
`Metrics.total` is the sum of these counters. The metrics `Tell` of some recordings when every sum
and every value is that number; the initial ones tell of none, and recording something more adds
just that (`Tell.record`).
-/

namespace OrderDesk

namespace Recording

/-- Whether a recording adds to one of the counters that are picked. -/
def addsTo (pick : Counter → Bool) : Recording → Bool
  | .count c => pick c
  | .setActive _ => false

/-- How many recordings add to the counters that are picked. -/
def total (pick : Counter → Bool) (recorded : List Recording) : Nat :=
  recorded.countP (addsTo pick)

/-- How many recordings add to one counter. -/
def times (c : Counter) (recorded : List Recording) : Nat :=
  total (fun d => decide (c = d)) recorded

variable (pick : Counter → Bool) (c : Counter) (recorded recorded' : List Recording)

@[simp] theorem total_nil : total pick [] = 0 := rfl

@[simp] theorem times_nil : times c [] = 0 := rfl

@[simp] theorem total_cons (r : Recording) :
    total pick (r :: recorded) = total pick recorded + (if r.addsTo pick then 1 else 0) :=
  List.countP_cons

@[simp] theorem times_cons (r : Recording) : times c (r :: recorded) =
    times c recorded + (if r.addsTo fun d => decide (c = d) then 1 else 0) :=
  List.countP_cons

theorem total_singleton (r : Recording) :
    total pick [r] = if r.addsTo pick then 1 else 0 :=
  List.countP_singleton

theorem times_singleton (r : Recording) :
    times c [r] = if r.addsTo fun d => decide (c = d) then 1 else 0 :=
  List.countP_singleton

@[simp] theorem total_append :
    total pick (recorded ++ recorded') = total pick recorded + total pick recorded' :=
  List.countP_append

@[simp] theorem times_append :
    times c (recorded ++ recorded') = times c recorded + times c recorded' :=
  List.countP_append

variable {recorded recorded'}

theorem total_perm (h : recorded.Perm recorded') : total pick recorded = total pick recorded' :=
  h.countP_eq _

end Recording

namespace Metrics

/-- The sum of the values whose counters are picked. -/
def sum (pick : Counter → Bool) : List (Counter × Nat) → Nat
  | [] => 0
  | entry :: rest => sum pick rest + if pick entry.1 then entry.2 else 0

/-- The sum of the counters that are picked. -/
def total (m : Metrics) (pick : Counter → Bool) : Nat :=
  sum pick m.counts

theorem sum_increment (counts : List (Counter × Nat)) (c : Counter) (pick : Counter → Bool) :
    sum pick (increment counts c) = sum pick counts + if pick c then 1 else 0 := by
  induction counts with
  | nil => simp [increment, sum]
  | cons entry rest ih =>
    rw [increment]
    split
    · next he =>
      subst he
      by_cases hc : pick entry.1 = true
      · simp [sum, hc, Nat.add_assoc]
      · simp [sum, hc]
    · rw [sum, sum, ih]
      omega

theorem total_record_count (m : Metrics) (c : Counter) (pick : Counter → Bool) :
    (m.record (.count c)).total pick = m.total pick + (if pick c then 1 else 0) :=
  sum_increment m.counts c pick

/-- Every recording adds to the value of its own counter. -/
theorem value_recordAll (m : Metrics) (recorded : List Recording) (c : Counter) :
    (m.recordAll recorded).value c = m.value c + Recording.times c recorded := by
  induction recorded generalizing m with
  | nil => rfl
  | cons r recorded ih =>
    have hstep : (m.record r).value c =
        m.value c + if r.addsTo fun d => decide (c = d) then 1 else 0 := by
      cases r with
      | setActive n => rfl
      | count d => simp [value_record_count, Recording.addsTo]
    change ((m.record r).recordAll recorded).value c = _
    rw [ih, hstep, Recording.times_cons, Nat.add_assoc, Nat.add_comm (Recording.times c recorded)]

/-- The metrics tell of some recordings: they are what was recorded, in some order. -/
structure Tell (m : Metrics) (recorded : List Recording) : Prop where
  total : ∀ pick, m.total pick = Recording.total pick recorded
  value : ∀ c, m.value c = Recording.times c recorded

namespace Tell

theorem initial : Metrics.initial.Tell [] :=
  ⟨fun _ => rfl, fun _ => rfl⟩

variable {m : Metrics} {recorded : List Recording}

theorem of_perm (h : m.Tell recorded) {recorded' : List Recording}
    (hp : recorded.Perm recorded') : m.Tell recorded' :=
  ⟨fun pick => (h.total pick).trans (Recording.total_perm pick hp),
    fun c => (h.value c).trans (Recording.total_perm _ hp)⟩

theorem record (h : m.Tell recorded) (r : Recording) : (m.record r).Tell (recorded ++ [r]) := by
  cases r with
  | setActive n =>
    refine ⟨fun pick => ?_, fun c => ?_⟩
    · rw [Recording.total_append]
      exact h.total pick
    · rw [Recording.times_append]
      exact h.value c
  | count d =>
    refine ⟨fun pick => ?_, fun c => ?_⟩
    · rw [total_record_count, h.total, Recording.total_append, Recording.total_singleton]
      rfl
    · rw [value_record_count, h.value, Recording.times_append, Recording.times_singleton]
      simp [Recording.addsTo, eq_comm]

theorem recordAll (h : m.Tell recorded) (more : List Recording) :
    (m.recordAll more).Tell (recorded ++ more) := by
  induction more generalizing m recorded with
  | nil => simpa [Metrics.recordAll] using h
  | cons r more ih =>
    have hrest := ih (h.record r)
    rwa [List.append_assoc] at hrest

end Tell

end Metrics

end OrderDesk
