import Mathlib.Data.List.DropRight
import OrderDesk.Text.Blank

/-!
# What is left of a text that was trimmed

A text is what was trimmed, between blanks (`exists_trim`); what was trimmed neither begins nor ends
with a blank (`isBlank_eq_false_of_trim`), so it is not trimmed any further (`trim_trim`). A text
without blanks is what is left when blanks were put around it (`trim_between`).
-/

namespace OrderDesk.Text

variable (cs : List Char)

theorem trim_eq_rdropWhile : trim cs = (cs.dropWhile isBlank).rdropWhile isBlank := rfl

theorem trim_eq_nil_iff {cs : List Char} : trim cs = [] ↔ ∀ c ∈ cs, isBlank c = true := by
  rw [trim_eq_rdropWhile, List.rdropWhile_eq_nil_iff, ← List.dropWhile_eq_nil_iff,
    List.dropWhile_idempotent, List.dropWhile_eq_nil_iff]

/-- A text is what was trimmed, between blanks. -/
theorem exists_trim : ∃ front back, cs = front ++ trim cs ++ back ∧
    ∀ c ∈ front ++ back, isBlank c = true := by
  refine ⟨cs.takeWhile isBlank, (cs.dropWhile isBlank).rtakeWhile isBlank, ?_, fun c hc => ?_⟩
  · rw [trim_eq_rdropWhile, List.append_assoc, List.rdropWhile_append_rtakeWhile,
      List.takeWhile_append_dropWhile]
  · rcases List.mem_append.1 hc with hc | hc
    · exact List.mem_takeWhile_imp hc
    · exact List.mem_rtakeWhile_imp hc

theorem mem_of_mem_trim {cs : List Char} {c : Char} (h : c ∈ trim cs) : c ∈ cs := by
  obtain ⟨front, back, hcs, -⟩ := exists_trim cs
  rw [hcs]
  exact List.mem_append_left _ (List.mem_append_right _ h)

/-- No blank is left at the front or at the end. -/
theorem isBlank_eq_false_of_trim {cs : List Char} {c : Char}
    (h : (trim cs).head? = some c ∨ (trim cs).getLast? = some c) : isBlank c = false := by
  rcases h with h | h
  · obtain ⟨rest, hrest⟩ := List.rdropWhile_prefix isBlank (cs.dropWhile isBlank)
    refine head?_trimStart cs c ?_
    rw [trimStart, ← hrest, List.head?_append, ← trim_eq_rdropWhile, h]
    rfl
  · rw [trim, trimEnd, List.getLast?_reverse] at h
    exact head?_trimStart _ c h

/-- What neither begins nor ends with a blank is left as it is. -/
theorem trim_eq_self {cs : List Char}
    (h : ∀ c, cs.head? = some c ∨ cs.getLast? = some c → isBlank c = false) : trim cs = cs := by
  have hfront : cs.dropWhile isBlank = cs := by
    cases cs with
    | nil => rfl
    | cons c cs => rw [List.dropWhile_cons, if_neg (by simp [h c (.inl rfl)])]
  rw [trim_eq_rdropWhile, hfront, List.rdropWhile_eq_self_iff]
  intro hne
  simp [h _ (.inr (List.getLast?_eq_some_getLast hne))]

theorem trim_trim : trim (trim cs) = trim cs :=
  trim_eq_self fun _ h => isBlank_eq_false_of_trim h

variable {cs}

theorem trimStart_cons {c : Char} (h : isBlank c = false) : trimStart (c :: cs) = c :: cs := by
  rw [trimStart, List.dropWhile_cons, if_neg (by simp [h])]

theorem trimStart_append {front : List Char} (h : ∀ c ∈ front, isBlank c = true) :
    trimStart (front ++ cs) = trimStart cs :=
  List.dropWhile_append_of_pos h

theorem trimEnd_append {back : List Char} (h : ∀ c ∈ back, isBlank c = true) :
    trimEnd (cs ++ back) = trimEnd cs := by
  rw [trimEnd, List.reverse_append, List.dropWhile_append_of_pos (by simpa using h), trimEnd]

theorem trim_of_not_blank (h : ∀ c ∈ cs, isBlank c = false) : trim cs = cs := by
  apply trim_eq_self
  intro c hc
  rcases hc with hc | hc
  · exact h c (List.mem_of_head? hc)
  · exact h c (List.mem_of_getLast? hc)

/-- What has no blanks in it is what is left between blanks. -/
theorem trim_between {front back : List Char} (hblank : ∀ c ∈ front ++ back, isBlank c = true)
    (h : ∀ c ∈ cs, isBlank c = false) : trim (front ++ cs ++ back) = cs := by
  obtain ⟨hfront, hback⟩ := List.forall_mem_append.1 hblank
  rw [trim, List.append_assoc, trimStart_append hfront]
  cases cs with
  | nil =>
    have hnil : trimStart (back ++ []) = [] := trimStart_append hback
    rw [List.append_nil] at hnil
    rw [List.nil_append, hnil, trimEnd_nil]
  | cons c cs =>
    have hstart : ∀ ds, trimStart (c :: cs ++ ds) = c :: cs ++ ds :=
      fun ds => trimStart_cons (h c List.mem_cons_self)
    have hself : trimEnd (trimStart (c :: cs ++ [])) = c :: cs ++ [] :=
      trim_of_not_blank (by simpa using h)
    rw [hstart, List.append_nil] at hself
    rw [hstart, trimEnd_append hback, hself]

end OrderDesk.Text
