import Mathlib.Data.Option.Basic
import OrderDesk.Proofs.Identity.Text
import OrderDesk.Wire.Update

/-!
# Nothing is lost in an update

A time in a message names an instant exactly when it is what is sent for that instant
(`WireTime.toInstant?_eq_some_iff`). What is sent of an update says the update itself, field by
field (`OrderUpdate.says_toWire`), and a message says at most one update
(`WireUpdate.Says.unique`), so `toWire_lossless`: no two updates are sent alike.
-/

namespace OrderDesk

namespace WireTime

/-- Whether the numbers of a time fit in its message: 64 and 32 bits, signed. -/
structure Fits (t : WireTime) : Prop where
  seconds : -0x8000000000000000 ≤ t.seconds ∧ t.seconds < 0x8000000000000000
  nanos : -(nanosLimit : Int) ≤ t.nanos ∧ t.nanos < nanosLimit

theorem fits_ofInstant (i : Instant) : (ofInstant i).Fits := by
  obtain ⟨hmin, hmax, hnanos, -⟩ := i.valid
  have hseconds : (ofInstant i).seconds = i.seconds := rfl
  unfold Instant.minSeconds at hmin
  unfold Instant.maxSeconds at hmax
  refine ⟨?_, ?_⟩
  · rw [hseconds]
    omega
  · rw [nanos_ofInstant]
    unfold nanosLimit
    omega

/-- A time that names an instant is what is sent for it: there is no other way to write it. -/
theorem ofInstant_of_toInstant? {t : WireTime} {i : Instant} (h : t.toInstant? = some i) :
    ofInstant i = t := by
  unfold toInstant? at h
  split at h
  · cases h
  · next hnanos =>
    unfold Instant.ofUnix? at h
    split at h
    · next hvalid =>
      obtain rfl := Option.some.inj h
      have hsent := nanos_ofInstant ⟨t.seconds, t.nanos.toNat, hvalid⟩
      have hback : (t.nanos.toNat : Int) = t.nanos := Int.toNat_of_nonneg (by omega)
      exact congrArg (WireTime.mk t.seconds) (hsent.trans hback)
    · cases h

theorem toInstant?_eq_some_iff {t : WireTime} {i : Instant} :
    t.toInstant? = some i ↔ t = ofInstant i := by
  constructor
  · intro h
    exact (ofInstant_of_toInstant? h).symm
  · rintro rfl
    exact toInstant?_ofInstant i

end WireTime

/-! ## Updates -/

/-- What a message says about an order, when each of its fields is read. A time that names no
instant says nothing. -/
structure WireUpdate.Says (wire : WireUpdate) (u : OrderUpdate) : Prop where
  orderId : Id.parse .order wire.orderId = .ok u.orderId
  status : OrderStatus.ofWire wire.status = u.status
  updatedAt : wire.updatedAt.map WireTime.toInstant? = u.updatedAt.map some

theorem WireUpdate.Says.unique {wire : WireUpdate} {u u' : OrderUpdate} (h : wire.Says u)
    (h' : wire.Says u') : u = u' := by
  have hid : u.orderId = u'.orderId := Except.ok.inj (h.orderId.symm.trans h'.orderId)
  have hstatus : u.status = u'.status := h.status.symm.trans h'.status
  have htime : u.updatedAt = u'.updatedAt :=
    Option.map_injective (Option.some_injective _) (h.updatedAt.symm.trans h'.updatedAt)
  obtain ⟨id, status, time⟩ := u
  obtain ⟨id', status', time'⟩ := u'
  dsimp only at hid hstatus htime
  rw [hid, hstatus, htime]

namespace OrderUpdate

theorem says_toWire (u : OrderUpdate) : u.toWire.Says u where
  orderId := u.orderId.parse_toText
  status := u.status.ofWire_toWire
  updatedAt := by
    rw [toWire, Option.map_map]
    exact congrArg (u.updatedAt.map ·) (funext WireTime.toInstant?_ofInstant)

/-- **Nothing is lost in an update.** Instants are sent as times that fit in a message and name
them, and a time that names an instant is sent back as it came. An update can be read from what is
sent, so two updates that differ are not sent alike. -/
theorem toWire_lossless :
    (∀ i : Instant, (WireTime.ofInstant i).Fits ∧ (WireTime.ofInstant i).toInstant? = some i) ∧
    (∀ (t : WireTime) (i : Instant), t.toInstant? = some i → WireTime.ofInstant i = t) ∧
    (∀ u : OrderUpdate, u.toWire.Says u) ∧ Function.Injective toWire := by
  refine ⟨fun i => ⟨WireTime.fits_ofInstant i, WireTime.toInstant?_ofInstant i⟩, ?_,
    says_toWire, ?_⟩
  · intro t i h
    exact WireTime.ofInstant_of_toInstant? h
  · intro u u' hsame
    have hsays : u.toWire.Says u' := hsame ▸ u'.says_toWire
    exact u.says_toWire.unique hsays

end OrderUpdate

end OrderDesk
