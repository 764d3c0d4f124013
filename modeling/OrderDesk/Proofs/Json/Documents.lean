import OrderDesk.Proofs.Json.Strings
import OrderDesk.Proofs.Text.Digits

/-!
# Documents that are written and read

A document whose numbers are written as numbers is read from its text, whatever it is made of
(`ofText?_toText`). Where it is part of another document its text ends as well, because a comma or
a closing bracket follows: `ReadBack` says so, and is kept by arrays and objects.
-/

namespace OrderDesk.JsonValue

open OrderDesk.Text

/-! ## What may follow a document -/

/-- The text behind a document: none, or what separates it from the next one. -/
inductive Follows : List Char → Prop where
  | nil : Follows []
  | comma (rest : List Char) : Follows (',' :: rest)
  | bracket (rest : List Char) : Follows (']' :: rest)
  | brace (rest : List Char) : Follows ('\x7d' :: rest)

theorem Follows.endsDigits {rest : List Char} (h : Follows rest) : EndsDigits rest := by
  cases h with
  | nil => exact endsDigits_nil
  | comma => exact endsDigits_cons rfl _
  | bracket => exact endsDigits_cons rfl _
  | brace => exact endsDigits_cons rfl _

/-- What is read when more text follows. -/
def leaving {α : Type} (rest : List Char) (read : Option (α × List Char)) :
    Option (α × List Char) :=
  read.map fun (a, more) => (a, more ++ rest)

/-! ## Numbers -/

section
variable {rest : List Char} (h : Follows rest) (cs : List Char)
include h

theorem digits?_append : digits? (cs ++ rest) = leaving rest (digits? cs) := by
  simp only [digits?, takeWhile_isDigit_append h.endsDigits, dropWhile_isDigit_append h.endsDigits]
  split <;> rfl

theorem whole?_append : whole? (cs ++ rest) = leaving rest (whole? cs) := by
  have hdigits := digits?_append h cs
  cases cs with
  | nil => cases h <;> rfl
  | cons c cs =>
    by_cases hzero : c = '0'
    · subst hzero
      rfl
    · simpa [whole?, hzero] using hdigits

theorem fraction?_append : fraction? (cs ++ rest) = leaving rest (fraction? cs) := by
  cases cs with
  | nil => cases h <;> rfl
  | cons c cs =>
    by_cases hpoint : c = '.'
    · subst hpoint
      simp only [List.cons_append, fraction?, digits?_append h]
      cases digits? cs <;> rfl
    · simp [fraction?, hpoint, leaving]

theorem exponent?_append : exponent? (cs ++ rest) = leaving rest (exponent? cs) := by
  cases cs with
  | nil => cases h <;> rfl
  | cons c cs =>
    by_cases hmark : c = 'e' ∨ c = 'E'
    · simp only [List.cons_append, exponent?, if_pos hmark]
      cases cs with
      | nil => cases h <;> rfl
      | cons s more =>
        have hall := digits?_append h (s :: more)
        simp only [List.cons_append] at hall ⊢
        split
        · rw [digits?_append h]
          cases digits? more <;> rfl
        · rw [hall]
          cases digits? (s :: more) <;> rfl
    · simp [exponent?, hmark, leaving]

theorem magnitude?_append : magnitude? (cs ++ rest) = leaving rest (magnitude? cs) := by
  simp only [magnitude?, whole?_append h]
  cases whole? cs with
  | none => rfl
  | some read =>
    obtain ⟨whole, cs⟩ := read
    simp only [leaving, Option.map_some, Option.bind_eq_bind, Option.bind_some, fraction?_append h]
    cases fraction? cs with
    | none => rfl
    | some read =>
      obtain ⟨fraction, cs⟩ := read
      simp only [leaving, Option.map_some, Option.bind_some, exponent?_append h]
      cases exponent? cs <;> rfl

theorem number?_append : number? (cs ++ rest) = leaving rest (number? cs) := by
  have hmagnitude := magnitude?_append h cs
  cases cs with
  | nil => cases h <;> rfl
  | cons c cs =>
    by_cases hminus : c = '-'
    · subst hminus
      simp only [List.cons_append, number?, magnitude?_append h]
      cases magnitude? cs <;> rfl
    · simpa [number?, hminus] using hmagnitude

end

/-- Whether a number may begin with a character. -/
def startsNumber (c : Char) : Bool :=
  c == '-' || isDigit c

theorem exists_eq_cons_of_number? {text : List Char} {read : List Char × List Char}
    (h : number? text = some read) : ∃ c cs, text = c :: cs ∧ startsNumber c = true := by
  cases text with
  | nil => cases h
  | cons c cs =>
    refine ⟨c, cs, rfl, ?_⟩
    by_contra hstart
    obtain ⟨hminus, hdigit⟩ : c ≠ '-' ∧ isDigit c = false := by simpa [startsNumber] using hstart
    have hzero : c ≠ '0' := by
      rintro rfl
      cases hdigit
    simp [number?, magnitude?, whole?, digits?, hminus, hzero, hdigit] at h

theorem isBlank_eq_false_of_startsNumber {c : Char} (h : startsNumber c = true) :
    isBlank c = false := by
  refine Bool.eq_false_iff.2 fun hblank => ?_
  simp only [isBlank, Bool.or_eq_true, beq_iff_eq] at hblank
  rcases hblank with ((rfl | rfl) | rfl) | rfl
  all_goals cases h

theorem skipBlanks_cons {c : Char} (h : isBlank c = false) (cs : List Char) :
    skipBlanks (c :: cs) = c :: cs := by
  rw [skipBlanks, List.dropWhile_cons, h]
  rfl

/-- What begins like a number begins like no other document. -/
theorem value?_of_startsNumber {c : Char} (h : startsNumber c = true) (fuel : Nat)
    (cs : List Char) : value? (fuel + 1) (c :: cs) =
      (number? (c :: cs)).map fun (text, rest) => (.number text, rest) := by
  rw [value?, skipBlanks_cons (isBlank_eq_false_of_startsNumber h)]
  split
  case h_7 => rfl
  all_goals
    next heq =>
      obtain ⟨rfl, -⟩ := List.cons.inj heq
      cases h

/-! ## Documents -/

/-- Documents whose numbers are written as numbers. -/
inductive WellFormed : JsonValue → Prop where
  | null : WellFormed .null
  | bool (b : Bool) : WellFormed (.bool b)
  | number {text : List Char} (h : number? text = some (text, [])) : WellFormed (.number text)
  | string (s : String) : WellFormed (.string s)
  | brokenString : WellFormed .brokenString
  | array {vs : List JsonValue} (h : ∀ v ∈ vs, WellFormed v) : WellFormed (.array vs)
  | object {ms : List (Option String × JsonValue)} (h : ∀ m ∈ ms, WellFormed m.2) :
    WellFormed (.object ms)

/-- The text of a document begins with a character that neither is skipped nor ends an array. -/
theorem WellFormed.exists_render_eq_cons {v : JsonValue} (h : WellFormed v) :
    ∃ c cs, v.render = c :: cs ∧ isBlank c = false ∧ c ≠ ']' := by
  cases h with
  | null => exact ⟨_, _, rfl, rfl, by decide⟩
  | bool b => cases b <;> exact ⟨_, _, rfl, rfl, by decide⟩
  | number h =>
    obtain ⟨c, cs, rfl, hc⟩ := exists_eq_cons_of_number? h
    refine ⟨c, cs, rfl, isBlank_eq_false_of_startsNumber hc, ?_⟩
    rintro rfl
    cases hc
  | string => exact ⟨_, _, rfl, rfl, by decide⟩
  | brokenString => exact ⟨_, _, rfl, rfl, by decide⟩
  | array => exact ⟨_, _, rfl, rfl, by decide⟩
  | object => exact ⟨_, _, rfl, rfl, by decide⟩

/-- A document is read from its text, wherever it stands. -/
def ReadBack (v : JsonValue) : Prop :=
  ∀ fuel rest, 2 * v.render.length ≤ fuel → Follows rest →
    value? fuel (v.render ++ rest) = some (v, rest)

/-- Elements are read up to the bracket. -/
theorem elements?_render {vs : List JsonValue} (hne : vs ≠ []) (hread : ∀ v ∈ vs, ReadBack v)
    {fuel : Nat} (hfuel : 2 * (renderElements vs).length < fuel) (rest : List Char) :
    elements? fuel (renderElements vs ++ ']' :: rest) = some (vs, rest) := by
  induction vs generalizing fuel with
  | nil => exact absurd rfl hne
  | cons v vs ih =>
    obtain ⟨hv, hvs⟩ := List.forall_mem_cons.1 hread
    obtain ⟨fuel, rfl⟩ : ∃ f, fuel = f + 1 := ⟨fuel - 1, by omega⟩
    cases vs with
    | nil =>
      rw [renderElements] at hfuel ⊢
      rw [elements?, hv fuel _ (by omega) (.bracket rest)]
      rfl
    | cons w vs =>
      rw [renderElements, List.length_append, List.length_cons] at hfuel
      have hrest : elements? fuel (renderElements (w :: vs) ++ ']' :: rest) =
          some (w :: vs, rest) := ih (List.cons_ne_nil w vs) hvs (by omega)
      rw [renderElements, List.append_assoc, List.cons_append, elements?,
        hv fuel _ (by omega) (.comma _)]
      simp only [skipBlanks_cons (c := ',') rfl, hrest, Option.map_some]

theorem exists_renderName (name : Option String) (rest : List Char) :
    ∃ body, renderName name ++ rest = '"' :: body ∧ string? body = some (name, rest) := by
  cases name with
  | none => exact ⟨_, rfl, rfl⟩
  | some s => exact string?_renderString s rest

section
variable {name : Option String} {v : JsonValue} (h : ReadBack v) {fuel : Nat}
  (hfuel : 2 * v.render.length ≤ fuel) (rest : List Char)
include h hfuel

theorem members?_last :
    members? (fuel + 1) (renderName name ++ ':' :: (v.render ++ '\x7d' :: rest)) =
      some ([(name, v)], rest) := by
  obtain ⟨body, hbody, hname⟩ := exists_renderName name (':' :: (v.render ++ '\x7d' :: rest))
  have hvalue := h fuel _ hfuel (.brace rest)
  rw [hbody, members?, skipBlanks_cons rfl]
  simp only [hname, skipBlanks_cons (c := ':') rfl, hvalue, withName, Option.map_some]
  rfl

theorem members?_more :
    members? (fuel + 1) (renderName name ++ ':' :: (v.render ++ ',' :: rest)) =
      (members? fuel rest).map fun (ms, rest) => ((name, v) :: ms, rest) := by
  obtain ⟨body, hbody, hname⟩ := exists_renderName name (':' :: (v.render ++ ',' :: rest))
  have hvalue := h fuel _ hfuel (.comma rest)
  rw [hbody, members?, skipBlanks_cons rfl]
  simp only [hname, skipBlanks_cons (c := ':') rfl, hvalue, withName, Option.map_some]
  rfl

end

/-- Members are read up to the brace. -/
theorem members?_render {ms : List (Option String × JsonValue)} (hne : ms ≠ [])
    (hread : ∀ m ∈ ms, ReadBack m.2) {fuel : Nat}
    (hfuel : 2 * (renderMembers ms).length < fuel) (rest : List Char) :
    members? fuel (renderMembers ms ++ '\x7d' :: rest) = some (ms, rest) := by
  induction ms generalizing fuel with
  | nil => exact absurd rfl hne
  | cons m ms ih =>
    obtain ⟨name, v⟩ := m
    have hv : ReadBack v := hread _ List.mem_cons_self
    obtain ⟨fuel, rfl⟩ : ∃ f, fuel = f + 1 := ⟨fuel - 1, by omega⟩
    cases ms with
    | nil =>
      rw [renderMembers, List.length_append, List.length_cons] at hfuel
      rw [renderMembers, List.append_assoc, List.cons_append, members?_last hv (by omega)]
    | cons w ms =>
      rw [renderMembers, List.length_append, List.length_append, List.length_cons,
        List.length_cons] at hfuel
      have hrest : members? fuel (renderMembers (w :: ms) ++ '\x7d' :: rest) =
          some (w :: ms, rest) :=
        ih (List.cons_ne_nil w ms) (List.forall_mem_cons.1 hread).2 (by omega)
      rw [renderMembers, List.append_assoc, List.append_assoc, List.cons_append, List.cons_append,
        members?_more hv (by omega), hrest, Option.map_some]

/-- An array with elements begins with the text of one. -/
theorem value?_bracket {c : Char} (hblank : isBlank c = false) (hne : c ≠ ']') (fuel : Nat)
    (cs : List Char) : value? (fuel + 1) ('[' :: c :: cs) =
      (elements? fuel (c :: cs)).map fun (vs, rest) => (.array vs, rest) := by
  rw [value?, skipBlanks_cons rfl]
  simp only [skipBlanks_cons hblank]
  split
  · next heq => exact absurd (List.cons.inj heq).1 hne
  · rfl

/-- An object with members begins with the name of one. -/
theorem value?_brace (fuel : Nat) (cs : List Char) : value? (fuel + 1) ('\x7b' :: '"' :: cs) =
    (members? fuel ('"' :: cs)).map fun (ms, rest) => (.object ms, rest) :=
  rfl

/-- No document is read without fuel, but none has an empty text either. -/
theorem WellFormed.readBack_of_succ {v : JsonValue} (h : WellFormed v)
    (hread : ∀ fuel rest, 2 * v.render.length ≤ fuel + 1 → Follows rest →
      value? (fuel + 1) (v.render ++ rest) = some (v, rest)) : ReadBack v := by
  intro fuel rest hfuel hrest
  obtain ⟨c, cs, hrender, -⟩ := h.exists_render_eq_cons
  have hpos : v.render.length = cs.length + 1 := by rw [hrender, List.length_cons]
  obtain ⟨fuel, rfl⟩ : ∃ f, fuel = f + 1 := ⟨fuel - 1, by omega⟩
  exact hread fuel rest hfuel hrest

theorem readBack_number {text : List Char} (h : number? text = some (text, [])) :
    ReadBack (.number text) := by
  refine (WellFormed.number h).readBack_of_succ fun fuel rest _ hrest => ?_
  obtain ⟨c, cs, rfl, hc⟩ := exists_eq_cons_of_number? h
  have hnumber := number?_append hrest (c :: cs)
  rw [h, List.cons_append] at hnumber
  rw [render, List.cons_append, value?_of_startsNumber hc, hnumber]
  rfl

theorem readBack_string (s : String) : ReadBack (.string s) := by
  refine (WellFormed.string s).readBack_of_succ fun fuel rest _ _ => ?_
  obtain ⟨body, hbody, hs⟩ := string?_renderString s rest
  rw [render, hbody, value?, skipBlanks_cons rfl]
  simp only [hs, Option.map_some]
  rfl

theorem readBack_array {vs : List JsonValue} (h : ∀ v ∈ vs, WellFormed v)
    (hread : ∀ v ∈ vs, ReadBack v) : ReadBack (.array vs) := by
  refine (WellFormed.array h).readBack_of_succ fun fuel rest hfuel _ => ?_
  cases vs with
  | nil => rfl
  | cons v vs =>
    rw [render, List.length_append, List.length_cons] at hfuel
    have helements : elements? fuel (renderElements (v :: vs) ++ ']' :: rest) =
        some (v :: vs, rest) := elements?_render (List.cons_ne_nil v vs) hread (by omega) rest
    obtain ⟨c, cs, hrender, hblank, hne⟩ := (h v List.mem_cons_self).exists_render_eq_cons
    obtain ⟨cs', hcs'⟩ : ∃ cs', renderElements (v :: vs) ++ ']' :: rest = c :: cs' := by
      cases vs <;> simp [renderElements, hrender]
    rw [render, List.cons_append, List.cons_append, List.append_assoc, List.singleton_append]
    rw [hcs'] at helements ⊢
    rw [value?_bracket hblank hne, helements]
    rfl

theorem readBack_object {ms : List (Option String × JsonValue)} (h : ∀ m ∈ ms, WellFormed m.2)
    (hread : ∀ m ∈ ms, ReadBack m.2) : ReadBack (.object ms) := by
  refine (WellFormed.object h).readBack_of_succ fun fuel rest hfuel _ => ?_
  cases ms with
  | nil => rfl
  | cons m ms =>
    rw [render, List.length_append, List.length_cons] at hfuel
    have hmembers : members? fuel (renderMembers (m :: ms) ++ '\x7d' :: rest) =
        some (m :: ms, rest) := members?_render (List.cons_ne_nil m ms) hread (by omega) rest
    obtain ⟨cs, hcs⟩ : ∃ cs, renderMembers (m :: ms) ++ '\x7d' :: rest = '"' :: cs := by
      obtain ⟨name, v⟩ := m
      obtain ⟨body, hbody, -⟩ := exists_renderName name []
      rw [List.append_nil] at hbody
      cases ms <;> simp [renderMembers, hbody]
    rw [render, List.cons_append, List.cons_append, List.append_assoc, List.singleton_append]
    rw [hcs] at hmembers ⊢
    rw [value?_brace, hmembers]
    rfl

/-- Documents are read back, and so are those that are made of them. -/
theorem WellFormed.readBack {v : JsonValue} (h : WellFormed v) : ReadBack v := by
  induction h with
  | null => exact WellFormed.null.readBack_of_succ fun _ _ _ _ => rfl
  | bool b =>
    refine (WellFormed.bool b).readBack_of_succ fun fuel rest _ _ => ?_
    cases b <;> rfl
  | number h => exact readBack_number h
  | string s => exact readBack_string s
  | brokenString => exact WellFormed.brokenString.readBack_of_succ fun _ _ _ _ => rfl
  | array h ih => exact readBack_array h ih
  | object h ih => exact readBack_object h ih

/-- A document whose numbers are written as numbers is read from its text. -/
theorem ofText?_toText {v : JsonValue} (h : WellFormed v) : ofText? v.toText = some v := by
  have hvalue := h.readBack (2 * v.render.length + 2) [] (by omega) .nil
  rw [List.append_nil] at hvalue
  rw [ofText?, toText, String.toList_ofList, parse?, hvalue]
  rfl

end OrderDesk.JsonValue
