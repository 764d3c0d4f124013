import OrderDesk.Proofs.Wire.Decoding
import OrderDesk.Proofs.Wire.Updates

/-!
# What is read of a market

A market is read exactly when its identifier is (`WireMarket.exists_decode_eq_ok_iff`), as it was
sent but for two things (`WireMarket.ReadAs`). Roles that nobody knows are left out, which is meant.
A deletion time is left out too when it names no instant, and without a deletion time a market
counts as one that was not deleted: `decode_reads_market` says when this mark is kept, and
`deletion_mark_is_lost` that it may be lost.
-/

namespace OrderDesk

open Uuid

/-! ## Roles -/

namespace Role

/-- The roles that are read stand for the known numbers, in their order and as often. -/
theorem map_toWire_filterMap_ofWire? (ns : List Int) :
    (ns.filterMap ofWire?).map toWire = ns.filter (· ∈ known) := by
  induction ns with
  | nil => rfl
  | cons n ns ih =>
    cases h : ofWire? n with
    | none =>
      have hn : n ∉ known := ofWire?_eq_none_iff.1 h
      rw [List.filterMap_cons_none h, ih, List.filter_cons_of_neg (by simpa using hn)]
    | some role =>
      have hn : n ∈ known := by
        by_contra hn
        rw [ofWire?_eq_none_iff.2 hn] at h
        cases h
      rw [List.filterMap_cons_some h, List.map_cons, ih, ofWire?_eq_some_iff.1 h,
        List.filter_cons_of_pos (by simpa using hn)]

end Role

/-! ## Times -/

/-- Whether a time in a message names an instant. -/
def WireTime.NamesInstant (t : WireTime) : Prop :=
  0 ≤ t.nanos ∧ Instant.Valid t.seconds t.nanos.toNat

theorem WireTime.namesInstant_iff {t : WireTime} :
    t.NamesInstant ↔ ∃ i, t = WireTime.ofInstant i := by
  constructor
  · rintro ⟨hnanos, hvalid⟩
    refine ⟨⟨t.seconds, t.nanos.toNat, hvalid⟩, (WireTime.ofInstant_of_toInstant? ?_).symm⟩
    rw [WireTime.toInstant?, if_neg (by omega), Instant.ofUnix?_eq_some hvalid]
  · rintro ⟨i, rfl⟩
    have hseconds : (WireTime.ofInstant i).seconds = i.seconds := rfl
    refine ⟨?_, ?_⟩
    · rw [nanos_ofInstant]
      omega
    · rw [hseconds, nanos_ofInstant, Int.toNat_natCast]
      exact i.valid

/-! ## Markets -/

namespace WireMarket

/-- What is read of a market. -/
structure ReadAs (wire : WireMarket) (market : Market) : Prop where
  id : Id.parse .market wire.id = .ok market.id
  name : market.name = wire.name
  enabled : market.enabled = wire.enabled
  /-- The roles that are known, in their order and as often as they were sent. -/
  roles : market.allowedRoles.map Role.toWire = wire.allowedRoles.filter (· ∈ Role.known)
  deletedAt : ∀ i, market.deletedAt = some i ↔ wire.deletedAt = some (WireTime.ofInstant i)
  /-- A market that was sent as deleted is read as deleted, and no other one, unless the time of its
  deletion names no instant. -/
  deleted_iff : (market.deletedAt.isSome = wire.deletedAt.isSome) ↔
    ∀ t, wire.deletedAt = some t → t.NamesInstant

theorem bind_toInstant?_eq_some_iff {sent : Option WireTime} {i : Instant} :
    sent.bind WireTime.toInstant? = some i ↔ sent = some (WireTime.ofInstant i) := by
  simp [Option.bind_eq_some_iff, WireTime.toInstant?_eq_some_iff]

theorem isSome_bind_toInstant?_iff {sent : Option WireTime} :
    ((sent.bind WireTime.toInstant?).isSome = sent.isSome) ↔
      ∀ t, sent = some t → t.NamesInstant := by
  cases sent with
  | none => simp
  | some t =>
    have hsome : t.toInstant?.isSome = true ↔ t.NamesInstant := by
      simp only [Option.isSome_iff_exists, WireTime.toInstant?_eq_some_iff,
        WireTime.namesInstant_iff]
    simp [hsome]

/-- **What is read of a market.** A market is read exactly when its identifier spells 32 digits,
and then as it was sent, without the roles that nobody knows. The mark of its deletion is kept
exactly when the time of the deletion names an instant. -/
theorem decode_reads_market (wire : WireMarket) :
    ((∃ market, wire.decode = .ok market) ↔ ∃ digits, Spells digits wire.id.toList) ∧
    ∀ market, wire.decode = .ok market → wire.ReadAs market := by
  refine ⟨?_, fun market h => ?_⟩
  · rw [exists_decode_eq_ok_iff, Id.exists_parse_eq_ok_iff]
  · obtain ⟨hid, hname, henabled, hdeleted, hroles⟩ := decode_eq_ok_iff.1 h
    exact
      { id := hid
        name := hname
        enabled := henabled
        roles := by rw [hroles, Role.map_toWire_filterMap_ofWire?]
        deletedAt := fun i => by rw [hdeleted, bind_toInstant?_eq_some_iff]
        deleted_iff := by rw [hdeleted, isSome_bind_toInstant?_iff] }

/-- A market that is sent as deleted a nanosecond before a second is read as one that was not
deleted, if the nanosecond is written as a negative number. -/
theorem deletion_mark_is_lost :
    let wire : WireMarket :=
      { id := "f47ac10b-58cc-4372-a567-0e02b2c3d479"
        name := "BTC-USDT"
        enabled := true
        deletedAt := some ⟨1700000000, -1⟩
        allowedRoles := [1, 3] }
    (∀ t ∈ wire.deletedAt, t.Fits) ∧
      ∃ market, wire.decode = .ok market ∧ market.deletedAt = none := by
  refine ⟨?_, _, rfl, rfl⟩
  rintro t ⟨rfl⟩
  exact ⟨by decide, by decide⟩

end WireMarket

end OrderDesk
