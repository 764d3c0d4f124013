import OrderDesk.Identity

/-!
# The texts of an identifier

A UUID is 32 hexadecimal digits. `Uuid.Layout` says how digits may be laid out in a text: alone, in
groups of 8, 4, 4, 4 and 12 with hyphens between them, and in groups within braces or behind the
prefix of a URN. A text is read exactly when it lays out 32 digits, in either case
(`Uuid.parse?_eq_some_iff`), and it is written as the groups of its digits in lower case
(`Uuid.render_eq_hyphenate`). So an identifier is read back from its own text (`Id.parse_toText`),
and two texts are read alike exactly when they spell the same digits (`Id.parse_eq_parse_iff`).
-/

namespace OrderDesk

open Text

namespace Uuid

/-! ## Digits -/

theorem toNat_toLower (c : Char) :
    c.toLower.toNat = if 65 ≤ c.toNat ∧ c.toNat ≤ 90 then c.toNat + 32 else c.toNat := by
  have hcapital : (c.val ≥ 'A'.val ∧ c.val ≤ 'Z'.val) ↔ 65 ≤ c.toNat ∧ c.toNat ≤ 90 := Iff.rfl
  unfold Char.toLower
  by_cases h : 65 ≤ c.toNat ∧ c.toNat ≤ 90
  · rw [dif_pos (hcapital.2 h), if_pos h]
    change (c.val + 32).toNat = c.toNat + 32
    rw [UInt32.toNat_add]
    exact Nat.mod_eq_of_lt (Nat.lt_of_le_of_lt (Nat.add_le_add_right h.2 _) (by decide))
  · rw [dif_neg (fun hc => h (hcapital.1 hc)), if_neg h]

theorem toNat_hexChar : ∀ d : Fin 16,
    (hexChar d.val).toNat = if d.val < 10 then 48 + d.val else 87 + d.val := by decide

theorem toLower_hexChar : ∀ d : Fin 16, (hexChar d.val).toLower = hexChar d.val := by decide

theorem hexDigit?_eq_some_iff {c : Char} {d : Fin 16} :
    hexDigit? c = some d ↔ c.toLower = hexChar d.val := by
  rw [← Char.toNat_inj, toNat_toLower, toNat_hexChar]
  simp only [hexDigit?, hexValue?]
  grind

/-- A hexadecimal digit, in either case. -/
def isHexDigit (c : Char) : Bool :=
  decide ('0' ≤ c ∧ c ≤ '9' ∨ 'a' ≤ c ∧ c ≤ 'f' ∨ 'A' ≤ c ∧ c ≤ 'F')

theorem isHexDigit_iff {c : Char} : isHexDigit c = true ↔ ∃ d, hexDigit? c = some d := by
  have hranges : isHexDigit c = true ↔ 48 ≤ c.toNat ∧ c.toNat ≤ 57 ∨
      97 ≤ c.toNat ∧ c.toNat ≤ 102 ∨ 65 ≤ c.toNat ∧ c.toNat ≤ 70 := decide_eq_true_iff
  rw [hranges, ← Option.isSome_iff_exists]
  simp only [hexDigit?, hexValue?]
  grind

/-- The 32 digits of a UUID. -/
structure HexDigits (cs : List Char) : Prop where
  length : cs.length = 32
  all : ∀ c ∈ cs, isHexDigit c = true

theorem length_hex (u : Uuid) : u.hex.length = 32 := by
  rw [hex, List.length_map, u.length_digits]

theorem map_toLower_hex (u : Uuid) : u.hex.map Char.toLower = u.hex := by
  rw [hex, List.map_map]
  exact List.map_congr_left fun d _ => toLower_hexChar d

theorem mapM_hexDigit?_eq_some_iff {cs : List Char} {ds : List (Fin 16)} :
    cs.mapM hexDigit? = some ds ↔ cs.map Char.toLower = ds.map fun d => hexChar d.val := by
  induction cs generalizing ds with
  | nil => cases ds <;> simp
  | cons c cs ih =>
    simp only [List.mapM_cons, Option.bind_eq_bind, Option.bind_eq_some_iff, ih,
      hexDigit?_eq_some_iff, Option.pure_def, Option.some.injEq, List.map_cons]
    constructor
    · rintro ⟨d, hd, ds, hds, rfl⟩
      rw [hd, hds, List.map_cons]
    · intro h
      obtain ⟨d, ds, rfl, hd, hds⟩ := List.map_eq_cons_iff.1 h.symm
      exact ⟨d, hd.symm, ds, hds.symm, rfl⟩

/-- Digits are read as the UUID that is written with them, in lower case. -/
theorem ofHex?_eq_some_iff {cs : List Char} {u : Uuid} :
    ofHex? cs = some u ↔ cs.map Char.toLower = u.hex := by
  have hof : ofHex? cs = some u ↔ cs.mapM hexDigit? = some u.digits := by
    simp only [ofHex?, Option.bind_eq_some_iff]
    constructor
    · rintro ⟨ds, hds, h⟩
      split at h
      · obtain rfl := Option.some.inj h
        exact hds
      · cases h
    · intro h
      exact ⟨u.digits, h, dif_pos u.length_digits⟩
  rw [hof, mapM_hexDigit?_eq_some_iff, hex]

theorem hex_injective {u v : Uuid} (h : u.hex = v.hex) : u = v := by
  have hu : ofHex? u.hex = some u := ofHex?_eq_some_iff.2 u.map_toLower_hex
  have hv : ofHex? u.hex = some v := ofHex?_eq_some_iff.2 (h ▸ v.map_toLower_hex)
  exact Option.some.inj (hu.symm.trans hv)

theorem exists_mapM_hexDigit? {cs : List Char} (h : ∀ c ∈ cs, isHexDigit c = true) :
    ∃ ds, cs.mapM hexDigit? = some ds := by
  induction cs with
  | nil => exact ⟨[], rfl⟩
  | cons c cs ih =>
    obtain ⟨hc, hcs⟩ := List.forall_mem_cons.1 h
    obtain ⟨d, hd⟩ := isHexDigit_iff.1 hc
    obtain ⟨ds, hds⟩ := ih hcs
    exact ⟨d :: ds, by rw [List.mapM_cons, hd, hds]; rfl⟩

theorem hexDigits_iff {cs : List Char} :
    HexDigits cs ↔ ∃ u : Uuid, cs.map Char.toLower = u.hex := by
  constructor
  · intro h
    obtain ⟨ds, hds⟩ := exists_mapM_hexDigit? h.all
    have hmap := mapM_hexDigit?_eq_some_iff.1 hds
    have hlen : ds.length = 32 := by
      rw [← h.length, ← List.length_map Char.toLower, hmap, List.length_map]
    exact ⟨⟨ds, hlen⟩, hmap⟩
  · rintro ⟨u, hu⟩
    refine ⟨?_, fun c hc => ?_⟩
    · rw [← u.length_hex, ← hu, List.length_map]
    · have hmem : c.toLower ∈ u.hex := hu ▸ List.mem_map_of_mem hc
      obtain ⟨d, -, hd⟩ := List.mem_map.1 hmem
      exact isHexDigit_iff.2 ⟨d, hexDigit?_eq_some_iff.2 hd.symm⟩

/-! ## Hyphens -/

/-- A text with hyphens after 8, 4, 4 and 4 of its characters. -/
def hyphenate (cs : List Char) : List Char :=
  cs.take 8 ++ '-' :: ((cs.drop 8).take 4 ++ '-' :: ((cs.drop 12).take 4 ++ '-' ::
    ((cs.drop 16).take 4 ++ '-' :: cs.drop 20)))

theorem render_eq_hyphenate (u : Uuid) : u.render = hyphenate u.hex := by
  simp only [render, hyphenate, List.append_assoc, List.cons_append]

theorem length_hyphenate {cs : List Char} (h : cs.length = 32) : (hyphenate cs).length = 36 := by
  simp only [hyphenate, List.length_append, List.length_cons, List.length_take, List.length_drop]
  omega

theorem hyphenate_groups {a b c d : List Char} (ha : a.length = 8) (hb : b.length = 4)
    (hc : c.length = 4) (hd : d.length = 4) (e : List Char) :
    hyphenate (a ++ b ++ c ++ d ++ e) =
      a ++ '-' :: (b ++ '-' :: (c ++ '-' :: (d ++ '-' :: e))) := by
  simp [hyphenate, List.drop_append, List.drop_of_length_le, ha, hb, hc, hd]

theorem afterHyphen?_drop {front rest : List Char} {n : Nat} (h : front.length = n) :
    afterHyphen? ((front ++ '-' :: rest).drop n) = some rest := by
  rw [List.drop_left' h]
  rfl

theorem eq_of_afterHyphen? {cs rest : List Char} {n : Nat}
    (h : afterHyphen? (cs.drop n) = some rest) :
    (cs.take n).length = n ∧ cs = cs.take n ++ '-' :: rest := by
  unfold afterHyphen? at h
  split at h
  · next hdrop =>
    obtain rfl := Option.some.inj h
    have hlen := congrArg List.length hdrop
    rw [List.length_drop, List.length_cons] at hlen
    refine ⟨List.length_take_of_le (by omega), ?_⟩
    rw [← hdrop, List.take_append_drop]
  · cases h

/-- Digits in groups are the digits. -/
theorem take_groups {α : Type} (l : List α) : l.take 8 ++ (l.drop 8).take 4 ++
    (l.drop 12).take 4 ++ (l.drop 16).take 4 ++ l.drop 20 = l := by
  have hgroup (n : Nat) : l.take n ++ (l.drop n).take 4 = l.take (n + 4) := List.take_add.symm
  rw [hgroup, hgroup, hgroup, List.take_append_drop]

theorem unhyphenate?_eq_some_iff {cs digits : List Char} (h : digits.length = 32) :
    unhyphenate? cs = some digits ↔ cs = hyphenate digits := by
  constructor
  · intro hcs
    simp only [unhyphenate?, Option.bind_eq_bind, Option.bind_eq_some_iff,
      Option.some.injEq] at hcs
    obtain ⟨a, ha, b, hb, c, hc, d, hd, rfl⟩ := hcs
    obtain ⟨ha8, ha⟩ := eq_of_afterHyphen? ha
    obtain ⟨hb4, hb⟩ := eq_of_afterHyphen? hb
    obtain ⟨hc4, hc⟩ := eq_of_afterHyphen? hc
    obtain ⟨hd4, hd⟩ := eq_of_afterHyphen? hd
    rw [hyphenate_groups ha8 hb4 hc4 hd4, ← hd, ← hc, ← hb, ← ha]
  · rintro rfl
    have h8 : (digits.take 8).length = 8 := by rw [List.length_take]; omega
    have h4 (n : Nat) (hn : n ≤ 16) : ((digits.drop n).take 4).length = 4 := by
      rw [List.length_take, List.length_drop]; omega
    simp only [unhyphenate?, hyphenate, afterHyphen?_drop h8, afterHyphen?_drop (h4 8 (by decide)),
      afterHyphen?_drop (h4 12 (by decide)), afterHyphen?_drop (h4 16 (by decide)),
      List.take_left' h8, List.take_left' (h4 8 (by decide)), List.take_left' (h4 12 (by decide)),
      List.take_left' (h4 16 (by decide)), Option.bind_eq_bind, Option.bind_some, take_groups]

theorem hyphenated?_eq_some_iff {cs : List Char} {u : Uuid} :
    hyphenated? cs = some u ↔
      ∃ digits, cs = hyphenate digits ∧ digits.map Char.toLower = u.hex := by
  have hlength {digits : List Char} (h : digits.map Char.toLower = u.hex) : digits.length = 32 := by
    rw [← u.length_hex, ← h, List.length_map]
  simp only [hyphenated?, Option.bind_eq_some_iff, ofHex?_eq_some_iff]
  constructor
  · rintro ⟨digits, hcs, hu⟩
    exact ⟨digits, (unhyphenate?_eq_some_iff (hlength hu)).1 hcs, hu⟩
  · rintro ⟨digits, hcs, hu⟩
    exact ⟨digits, (unhyphenate?_eq_some_iff (hlength hu)).2 hcs, hu⟩

/-! ## Prefixes -/

theorem sameLetter_iff {lower c : Char} (h : ¬ (65 ≤ lower.toNat ∧ lower.toNat ≤ 90)) :
    sameLetter lower c = true ↔ c.toLower = lower := by
  rw [← Char.toNat_inj, toNat_toLower]
  simp only [sameLetter, Bool.or_eq_true, beq_iff_eq, Bool.and_eq_true, decide_eq_true_eq,
    ← Char.toNat_inj]
  grind

theorem all_zipWith_sameLetter_iff {front : List Char}
    (hfront : ∀ c ∈ front, ¬ (65 ≤ c.toNat ∧ c.toNat ≤ 90)) {cs : List Char} :
    front.length ≤ cs.length ∧ (List.zipWith sameLetter front cs).all id = true ↔
      (cs.take front.length).map Char.toLower = front := by
  induction front generalizing cs with
  | nil => simp
  | cons p front ih =>
    obtain ⟨hp, hrest⟩ := List.forall_mem_cons.1 hfront
    cases cs with
    | nil => simp
    | cons c cs =>
      simp only [List.length_cons, Nat.add_le_add_iff_right, List.zipWith_cons_cons, List.all_cons,
        id_eq, Bool.and_eq_true, sameLetter_iff hp, List.take_succ_cons, List.map_cons,
        List.cons.injEq, ← ih hrest]
      exact and_left_comm

/-- The prefix of a URN is known by its letters, in either case. -/
theorem isUrn_iff {cs : List Char} :
    isUrn cs = true ↔ (cs.take 9).map Char.toLower = urnPrefix := by
  have hall : urnPrefix.all (fun c => !decide (65 ≤ c.toNat ∧ c.toNat ≤ 90)) = true := rfl
  have hsmall : ∀ c ∈ urnPrefix, ¬ (65 ≤ c.toNat ∧ c.toNat ≤ 90) := by
    simpa only [List.all_eq_true, Bool.not_eq_true', decide_eq_false_iff_not] using hall
  rw [isUrn, Bool.and_eq_true, decide_eq_true_iff]
  exact all_zipWith_sameLetter_iff hsmall

/-! ## The whole text -/

/-- How digits are laid out in a text. -/
inductive Layout (digits : List Char) : List Char → Prop where
  | plain : Layout digits digits
  | hyphenated : Layout digits (hyphenate digits)
  | braced : Layout digits ('\x7b' :: (hyphenate digits ++ ['\x7d']))
  /-- The prefix of a URN is `urn:uuid:`, in either case. -/
  | urn {mark : List Char} (h : mark.map Char.toLower = urnPrefix) :
    Layout digits (mark ++ hyphenate digits)

/-- A text spells the 32 digits of a UUID. -/
structure Spells (digits text : List Char) : Prop where
  hex : HexDigits digits
  layout : Layout digits text

/-- Digits in groups begin with a digit, as no other layout does. -/
theorem exists_hyphenate_eq_cons {digits : List Char} {u : Uuid}
    (h : digits.map Char.toLower = u.hex) : ∃ c rest, hyphenate digits = c :: rest ∧
      c ≠ '\x7b' ∧ c.toLower ≠ 'u' := by
  have hbrace : ∀ d : Fin 16, '\x7b'.toLower ≠ hexChar d.val := by decide
  have hu : ∀ d : Fin 16, hexChar d.val ≠ 'u' := by decide
  obtain ⟨ds, hds⟩ := u
  cases digits with
  | nil =>
    obtain rfl : ds = [] := by simpa [hex] using h.symm
    cases hds
  | cons c digits =>
    obtain ⟨d, ds, rfl, hd, -⟩ := List.map_eq_cons_iff.1 (h.symm.trans (List.map_cons ..))
    refine ⟨c, _, rfl, ?_, hd ▸ hu d⟩
    rintro rfl
    exact hbrace d hd.symm

theorem parse?_eq_some_iff {cs : List Char} {u : Uuid} :
    parse? cs = some u ↔ ∃ digits, Layout digits cs ∧ digits.map Char.toLower = u.hex := by
  unfold parse?
  constructor
  · intro h
    split at h
    · exact ⟨cs, .plain, ofHex?_eq_some_iff.1 h⟩
    · split at h
      · next rest =>
        split at h
        · next hlast =>
          obtain ⟨digits, hrest, hu⟩ := hyphenated?_eq_some_iff.1 h
          obtain ⟨inner, rfl⟩ := List.getLast?_eq_some_iff.1 hlast
          rw [List.dropLast_concat] at hrest
          rw [hrest]
          exact ⟨digits, .braced, hu⟩
        · cases h
      · split at h
        · next hurn =>
          obtain ⟨digits, hrest, hu⟩ := hyphenated?_eq_some_iff.1 h
          rw [← List.take_append_drop 9 cs, hrest]
          exact ⟨digits, .urn (isUrn_iff.1 hurn), hu⟩
        · obtain ⟨digits, rfl, hu⟩ := hyphenated?_eq_some_iff.1 h
          exact ⟨digits, .hyphenated, hu⟩
  · rintro ⟨digits, hlayout, hu⟩
    have hlength : digits.length = 32 := by rw [← u.length_hex, ← hu, List.length_map]
    have hgroups : hyphenated? (hyphenate digits) = some u :=
      hyphenated?_eq_some_iff.2 ⟨digits, rfl, hu⟩
    have h36 := length_hyphenate hlength
    cases hlayout with
    | plain => rw [if_pos hlength, ofHex?_eq_some_iff.2 hu]
    | hyphenated =>
      obtain ⟨c, rest, hcons, hbrace, hletter⟩ := exists_hyphenate_eq_cons hu
      rw [if_neg (by omega)]
      split
      · next heq =>
        rw [hcons] at heq
        exact absurd (List.cons.inj heq).1 hbrace
      · have hurn : isUrn (hyphenate digits) = false := by
          refine Bool.eq_false_iff.2 fun hurn => hletter ?_
          rw [isUrn_iff, hcons] at hurn
          exact (List.cons.inj hurn).1
        rw [hurn, if_neg Bool.false_ne_true, hgroups]
    | braced =>
      rw [if_neg (by simp [h36])]
      simp [hgroups]
    | @urn mark hmark =>
      have h9 : mark.length = 9 := by rw [← List.length_map Char.toLower, hmark]; rfl
      have hurn : isUrn (mark ++ hyphenate digits) = true := by
        rw [isUrn_iff, List.take_left' h9, hmark]
      rw [if_neg (by rw [List.length_append]; omega)]
      split
      · next heq =>
        rw [isUrn_iff, heq] at hurn
        cases hurn
      · rw [if_pos hurn, List.drop_left' h9, hgroups]

theorem parse?_render (u : Uuid) : parse? u.render = some u :=
  parse?_eq_some_iff.2 ⟨u.hex, u.render_eq_hyphenate ▸ .hyphenated, u.map_toLower_hex⟩

end Uuid

namespace Id

open Uuid

variable {kind : IdKind} {s : String}

theorem toText_toList (id : Id kind) : id.toText.toList = hyphenate id.uuid.hex := by
  rw [toText, Uuid.toText, String.toList_ofList, render_eq_hyphenate]

theorem parse_eq_ok_iff {id : Id kind} :
    parse kind s = .ok id ↔ Uuid.parse? s.toList = some id.uuid := by
  unfold parse
  split
  · next hs => simp [hs, show Uuid.parse? [] = none from rfl]
  · cases Uuid.parse? s.toList with
    | none => simp
    | some uuid => cases id; simp

theorem parse_toText (id : Id kind) : parse kind id.toText = .ok id := by
  rw [parse_eq_ok_iff, toText_toList, ← render_eq_hyphenate, parse?_render]

/-- A text that spells digits is read as the identifier that is written with them. -/
theorem exists_parse_eq_ok (kind : IdKind) {digits : List Char} (h : Spells digits s.toList) :
    ∃ id : Id kind, parse kind s = .ok id ∧ digits.map Char.toLower = id.uuid.hex := by
  obtain ⟨u, hu⟩ := hexDigits_iff.1 h.hex
  exact ⟨⟨u⟩, parse_eq_ok_iff.2 (parse?_eq_some_iff.2 ⟨digits, h.layout, hu⟩), hu⟩

/-- The texts that are read are those that spell digits. -/
theorem exists_parse_eq_ok_iff :
    (∃ id, parse kind s = .ok id) ↔ ∃ digits, Spells digits s.toList := by
  constructor
  · rintro ⟨id, h⟩
    obtain ⟨digits, hlayout, hu⟩ := parse?_eq_some_iff.1 (parse_eq_ok_iff.1 h)
    exact ⟨digits, hexDigits_iff.2 ⟨id.uuid, hu⟩, hlayout⟩
  · rintro ⟨digits, hs⟩
    obtain ⟨id, hid, -⟩ := exists_parse_eq_ok kind hs
    exact ⟨id, hid⟩

/-- Any other text is refused, the field of the identifier being to blame. -/
theorem parse_of_not_spells (h : ¬ ∃ digits, Spells digits s.toList) :
    parse kind s =
      .error ⟨kind.field, if s = "" then "is required" else "must be a valid UUID"⟩ := by
  cases hp : parse kind s with
  | ok id => exact absurd (exists_parse_eq_ok_iff.1 ⟨id, hp⟩) h
  | error e =>
    unfold parse at hp
    split at hp
    · next hs => rw [← Except.error.inj hp, if_pos hs]
    · next hs =>
      split at hp
      · cases hp
      · rw [← Except.error.inj hp, if_neg hs]

/-- Texts that spell digits are read alike exactly when these are the same, up to case. -/
theorem parse_eq_parse_iff {s' : String} {digits digits' : List Char}
    (h : Spells digits s.toList) (h' : Spells digits' s'.toList) :
    parse kind s = parse kind s' ↔ digits.map Char.toLower = digits'.map Char.toLower := by
  obtain ⟨id, hid, hhex⟩ := exists_parse_eq_ok kind h
  obtain ⟨id', hid', hhex'⟩ := exists_parse_eq_ok kind h'
  rw [hid, hid', hhex, hhex', Except.ok.injEq]
  constructor
  · rintro rfl
    rfl
  · intro heq
    exact congrArg Id.mk (hex_injective heq)

end Id

end OrderDesk
