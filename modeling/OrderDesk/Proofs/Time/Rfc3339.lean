import OrderDesk.Proofs.Text.Digits
import OrderDesk.Proofs.Text.Trimming
import OrderDesk.Proofs.Time.Calendar
import OrderDesk.Time.Rfc3339

/-!
# Instants that are written and read

Every part of the text of an instant is read as what was written, and leaves what follows it: the
date (`date?_renderDate`), and the time of day (`time?_renderTime`) with its fraction of a second
(`fraction?_renderFraction`). So an instant is read from its own text (`ofText?_toText`), whether it
lies in a leap second or in a year of more than four digits.
-/

namespace OrderDesk.Instant

open OrderDesk.Text

variable {rest : List Char}

/-! ## Numbers and marks -/

theorem mark?_cons {c : Char} (h : isBlank c = false) : mark? c (c :: rest) = some rest := by
  rw [mark?, trimStart_cons h]
  exact if_pos rfl

section
variable {width n : Nat} (hwidth : 0 < width)
include hwidth

theorem isEmpty_padded : (padded width n).isEmpty = false := by
  obtain ⟨c, digits, hdigits, -⟩ := exists_padded_eq_cons hwidth n
  rw [hdigits]
  rfl

theorem trimStart_padded : trimStart (padded width n ++ rest) = padded width n ++ rest := by
  obtain ⟨c, digits, hdigits, hc⟩ := exists_padded_eq_cons hwidth n
  rw [hdigits]
  exact trimStart_cons (isBlank_eq_false_of_isDigit hc)

/-- A number that fills its width is read up to there, digits behind it or not. -/
theorem number?_padded (h : n < 10 ^ width) :
    number? width (padded width n ++ rest) = some (n, rest) := by
  have hlength := length_padded hwidth h
  have hdigits := takeWhile_isDigit_padded endsDigits_nil width n
  rw [List.append_nil] at hdigits
  simp only [number?, trimStart_padded hwidth, List.take_left' hlength, hdigits,
    isEmpty_padded hwidth, Bool.false_eq_true, ↓reduceIte, digitsValue_padded, List.drop_left]

end

/-! ## The date -/

theorem year?_of_isDigit {c : Char} {cs : List Char} (h : isDigit c = true) :
    year? (c :: cs) = (number? 4 (c :: cs)).map fun (n, rest) => ((n : Int), rest) := by
  unfold year?
  rw [trimStart_cons (isBlank_eq_false_of_isDigit h)]
  split
  · next heq =>
    obtain ⟨rfl, -⟩ := List.cons.inj heq
    cases h
  · next heq =>
    obtain ⟨rfl, -⟩ := List.cons.inj heq
    cases h
  · rfl

theorem year?_renderYear (year : Int) (h : EndsDigits rest) :
    year? (renderYear year ++ rest) = some (year, rest) := by
  unfold renderYear
  split
  · have hnumber : number? 4 (padded 4 year.natAbs ++ rest) = some (year.natAbs, rest) :=
      number?_padded (by decide) (by omega)
    have habs : (year.natAbs : Int) = year := by omega
    obtain ⟨c, digits, hdigits, hc⟩ := exists_padded_eq_cons (by decide : 0 < 4) year.natAbs
    rw [hdigits, List.cons_append] at hnumber ⊢
    simp only [year?_of_isDigit hc, hnumber, Option.map_some, habs]
  · have htake := takeWhile_isDigit_padded h 4 year.natAbs
    have hdrop := dropWhile_isDigit_padded h 4 year.natAbs
    have hempty : (padded 4 year.natAbs).isEmpty = false := isEmpty_padded (by decide)
    split
    · have habs : -(year.natAbs : Int) = year := by omega
      simp only [List.cons_append, year?, trimStart_cons (c := '-') rfl, htake, hempty,
        Bool.false_eq_true, ↓reduceIte, digitsValue_padded, habs, hdrop]
    · have habs : (year.natAbs : Int) = year := by omega
      simp only [List.cons_append, year?, trimStart_cons (c := '+') rfl, htake, hempty,
        Bool.false_eq_true, ↓reduceIte, digitsValue_padded, habs, hdrop]

/-- The text of a date. -/
def renderDate (date : Date) : List Char :=
  renderYear date.year ++ '-' :: padded 2 date.month ++ '-' :: padded 2 date.day

/-- A date of the calendar is read as it is written. -/
theorem date?_renderDate {date : Date} (hvalid : date.isValid = true) :
    date? (renderDate date ++ rest) = some (date, rest) := by
  have hparts := hvalid
  simp only [Date.isValid, Bool.and_eq_true, decide_eq_true_eq] at hparts
  have hdays : Date.daysInMonth date.year date.month ≤ 31 := by
    unfold Date.daysInMonth
    split
    · split <;> omega
    · split <;> omega
  have hhyphen (cs : List Char) : EndsDigits ('-' :: cs) := endsDigits_cons rfl cs
  have hmark (cs : List Char) : mark? '-' ('-' :: cs) = some cs := mark?_cons rfl
  have hmonth : date.month < 10 ^ 2 := by omega
  have hday : date.day < 10 ^ 2 := by omega
  simp only [renderDate, List.append_assoc, List.cons_append]
  simp only [date?, year?_renderYear date.year (hhyphen _), hmark,
    number?_padded Nat.two_pos hmonth, number?_padded Nat.two_pos hday, Option.bind_eq_bind,
    Option.bind_some]
  exact if_pos hvalid

/-! ## The time of day -/

/-- Digits behind a point count parts of a second. -/
theorem fraction?_padded {width n nanos : Nat} (hwidth : 0 < width) (hle : width ≤ 9)
    (hn : n < 10 ^ width) (hnanos : n * 10 ^ (9 - width) = nanos) (h : EndsDigits rest) :
    fraction? ('.' :: padded width n ++ rest) = some (nanos, rest) := by
  have hlength := length_padded hwidth hn
  have hkept : (padded width n).take 9 = padded width n := List.take_of_length_le (by omega)
  simp only [List.cons_append, fraction?, takeWhile_isDigit_padded h, dropWhile_isDigit_padded h,
    isEmpty_padded hwidth, Bool.false_eq_true, ↓reduceIte, hkept, digitsValue_padded, hlength]
  rw [← hnanos]
  rfl

/-- No digit that is left out of a fraction counts. -/
theorem fraction?_renderFraction {nanos : Nat} (hlt : nanos < 1000000000) :
    fraction? (renderFraction nanos ++ 'Z' :: rest) = some (nanos, 'Z' :: rest) := by
  have hend : EndsDigits ('Z' :: rest) := endsDigits_cons rfl rest
  unfold renderFraction
  split
  · next hzero =>
    rw [hzero]
    rfl
  split
  · exact fraction?_padded (by decide) (by decide) (by omega) (by omega) hend
  split
  · exact fraction?_padded (by decide) (by decide) (by omega) (by omega) hend
  · exact fraction?_padded (by decide) (by decide) (by omega) (by omega) hend

/-- The text of a time of day. -/
def renderTime (hour minute second nanos : Nat) : List Char :=
  padded 2 hour ++ ':' :: padded 2 minute ++ ':' :: padded 2 second ++ renderFraction nanos

/-- The second after the last one of a minute is read as its leap second. -/
theorem time?_renderTime {hour minute second nanos : Nat} (hhour : hour < 24)
    (hminute : minute < 60) (hsecond : second ≤ 60) (hnanos : nanos < 1000000000) :
    time? (renderTime hour minute second nanos ++ 'Z' :: rest) =
      some (((hour * 3600 + minute * 60 + (if second = 60 then 59 else second) : Nat) : Int),
        if second = 60 then nanos + 1000000000 else nanos, 'Z' :: rest) := by
  have hmark (cs : List Char) : mark? ':' (':' :: cs) = some cs := mark?_cons rfl
  have hhour' : hour < 10 ^ 2 := by omega
  have hminute' : minute < 10 ^ 2 := by omega
  have hsecond' : second < 10 ^ 2 := by omega
  simp only [renderTime, List.append_assoc, List.cons_append]
  simp only [time?, hmark, number?_padded Nat.two_pos hhour', number?_padded Nat.two_pos hminute',
    number?_padded Nat.two_pos hsecond', fraction?_renderFraction hnanos, Option.bind_eq_bind,
    Option.bind_some]
  exact if_pos ⟨hhour, hminute, hsecond⟩

/-! ## The instant -/

/-- The seconds since the day of an instant began. -/
def secondOfDay (i : Instant) : Nat :=
  (i.seconds % 86400).toNat

/-- The second of a minute that is written for an instant. -/
def writtenSecond (i : Instant) : Nat :=
  i.secondOfDay % 60 + (if i.isLeap then 1 else 0)

theorem render_eq (i : Instant) : i.render = renderDate (Date.ofDays (i.seconds / 86400)) ++
    'T' :: (renderTime (i.secondOfDay / 3600) (i.secondOfDay / 60 % 60) i.writtenSecond
      (i.nanos % 1000000000) ++ ['Z']) := by
  simp only [renderDate, renderTime, List.append_assoc, List.cons_append]
  simp only [render, List.append_assoc, List.cons_append]
  rfl

/-- Only a leap second is written as second 60. -/
theorem writtenSecond_cases (i : Instant) :
    i.writtenSecond = 60 ∧ i.secondOfDay % 60 = 59 ∧ 1000000000 ≤ i.nanos ∨
      i.writtenSecond = i.secondOfDay % 60 ∧ i.nanos < 1000000000 := by
  obtain ⟨-, -, -, hleap⟩ := i.valid
  unfold writtenSecond isLeap secondOfDay
  by_cases hlarge : 1000000000 ≤ i.nanos
  · rw [if_pos (decide_eq_true hlarge)]
    omega
  · rw [if_neg (by simpa using hlarge)]
    omega

/-- The time of day that is read of an instant is its own. -/
theorem time?_written (i : Instant) :
    time? (renderTime (i.secondOfDay / 3600) (i.secondOfDay / 60 % 60) i.writtenSecond
      (i.nanos % 1000000000) ++ 'Z' :: rest) = some (i.seconds % 86400, i.nanos, 'Z' :: rest) := by
  have hofDay : (i.secondOfDay : Int) = i.seconds % 86400 := by
    unfold secondOfDay
    omega
  have hminutes : i.secondOfDay / 3600 * 3600 + i.secondOfDay / 60 % 60 * 60 +
      i.secondOfDay % 60 = i.secondOfDay := by omega
  have hhour : i.secondOfDay / 3600 < 24 := by omega
  have hminute : i.secondOfDay / 60 % 60 < 60 := by omega
  have hnanos : i.nanos % 1000000000 < 1000000000 := by omega
  rcases i.writtenSecond_cases with ⟨hsecond, hlast, hlarge⟩ | ⟨hsecond, hsmall⟩
  · have hfraction : i.nanos % 1000000000 + 1000000000 = i.nanos := by
      have hbound : i.nanos < 2000000000 := i.valid.2.2.1
      omega
    rw [time?_renderTime hhour hminute (by omega) hnanos, if_pos hsecond, if_pos hsecond, ← hlast,
      hminutes, hofDay, hfraction]
  · have hfraction : i.nanos % 1000000000 = i.nanos := by omega
    have hne : i.writtenSecond ≠ 60 := by omega
    rw [time?_renderTime hhour hminute (by omega) hnanos, if_neg hne, if_neg hne, hsecond,
      hminutes, hofDay, hfraction]

theorem parse?_render (i : Instant) : parse? i.render = some i := by
  have hdate := Date.isValid_ofDays (i.seconds / 86400)
  have hwhole : i.seconds / 86400 * 86400 + i.seconds % 86400 = i.seconds := by omega
  have hoffset : offset? ['Z'] = some (0, []) := rfl
  have hself : ofUnix? i.seconds i.nanos = some i := ofUnix?_eq_some i.valid
  rw [render_eq]
  simp only [parse?, date?_renderDate hdate, time?_written, Date.toDays_ofDays, hwhole,
    Option.bind_eq_bind, Option.bind_some]
  simp [isDateEnd, hoffset, hself]

/-- An instant is read from its own text. -/
theorem ofText?_toText (i : Instant) : ofText? i.toText = some i := by
  rw [ofText?, toText, String.toList_ofList, parse?_render]

-- half a second into the leap second at the end of the year 10000
example : toText ⟨253433923199, 1500000000, by decide⟩ = "+10000-12-31T23:59:60.500Z" := by
  decide

end OrderDesk.Instant
