import OrderDesk.Proofs.Identity.Text
import OrderDesk.Rpc.Handlers

/-!
# Identifiers go by their digits

How the texts of identifiers are read is the same for orders, users and markets (`ReadByDigits`):
a text is accepted exactly when it spells 32 digits, and what it names depends on nothing else
(`readByDigits`). So a caller may write an identifier in any layout and either case, and is answered
alike (`decode_of_sameDigits`).
-/

namespace OrderDesk

open Uuid

/-- Two texts spell the same digits, up to case. -/
def SameDigits (s s' : String) : Prop :=
  ∃ digits digits', Spells digits s.toList ∧ Spells digits' s'.toList ∧
    digits.map Char.toLower = digits'.map Char.toLower

/-- How the texts of identifiers of one kind are read and written. -/
structure ReadByDigits (kind : IdKind) : Prop where
  accepted_iff : ∀ s, (∃ id, Id.parse kind s = .ok id) ↔ ∃ digits, Spells digits s.toList
  /-- Any other text is refused, and the field of the identifier is to blame. -/
  refused : ∀ s, (¬ ∃ digits, Spells digits s.toList) → Id.parse kind s =
    .error ⟨kind.field, if s = "" then "is required" else "must be a valid UUID"⟩
  /-- What was read is written as the same digits, hyphenated and in lower case. -/
  written : ∀ s digits id, Spells digits s.toList → Id.parse kind s = .ok id →
    id.toText = String.ofList (hyphenate (digits.map Char.toLower))
  reread : ∀ id : Id kind, Id.parse kind id.toText = .ok id
  same_iff : ∀ s s' digits digits', Spells digits s.toList → Spells digits' s'.toList →
    (Id.parse kind s = Id.parse kind s' ↔
      digits.map Char.toLower = digits'.map Char.toLower)

theorem readByDigits (kind : IdKind) : ReadByDigits kind where
  accepted_iff _ := Id.exists_parse_eq_ok_iff
  refused s h := Id.parse_of_not_spells h
  written s digits id hs hid := by
    obtain ⟨id', hid', hhex⟩ := Id.exists_parse_eq_ok kind hs
    obtain rfl : id = id' := Except.ok.inj (hid.symm.trans hid')
    rw [hhex, ← Id.toText_toList, String.ofList_toList]
  reread id := id.parse_toText
  same_iff s s' digits digits' hs hs' := Id.parse_eq_parse_iff hs hs'

theorem parse_of_sameDigits {s s' : String} (h : SameDigits s s') (kind : IdKind) :
    Id.parse kind s = Id.parse kind s' := by
  obtain ⟨digits, digits', hs, hs', hsame⟩ := h
  exact (Id.parse_eq_parse_iff hs hs').2 hsame

theorem decode_of_sameDigits {orderId orderId' userId userId' : String}
    (ho : SameDigits orderId orderId') (hu : SameDigits userId userId') :
    OrderQuery.decode orderId userId = OrderQuery.decode orderId' userId' := by
  rw [OrderQuery.decode, parse_of_sameDigits ho, parse_of_sameDigits hu, OrderQuery.decode]

namespace Rpc

/-- **Identifiers go by their digits.** Texts of identifiers of every kind are read exactly when
they spell 32 digits, and alike exactly when these are the same. So all spellings of an order and of
a user are answered alike by both calls that ask for an order, whatever is stored. -/
theorem identifiers_go_by_digits :
    (∀ kind, ReadByDigits kind) ∧
    ∀ orderId orderId' userId userId', SameDigits orderId orderId' → SameDigits userId userId' →
      ∀ (desk : Desk) (read : OrderReader) (now : Nanos),
        getOrderStatus read orderId userId = getOrderStatus read orderId' userId' ∧
        streamOrderUpdates desk read orderId userId now =
          streamOrderUpdates desk read orderId' userId' now := by
  refine ⟨readByDigits, fun orderId orderId' userId userId' ho hu desk read now => ?_⟩
  have hd := decode_of_sameDigits ho hu
  constructor
  · rw [getOrderStatus, hd, getOrderStatus]
  · rw [streamOrderUpdates, hd, streamOrderUpdates]

/-- The prefix of a URN may be written with capitals, so a text may be read that is neither digits
nor their groups, neither in braces nor behind `urn:uuid:` as it is written here. -/
theorem urn_in_capitals_is_read :
    let text := "Urn:Uuid:67e55044-10b1-426f-9247-bb680e5fe0c8"
    (∃ id, Id.parse .order text = .ok id) ∧
    ¬ ∃ digits, HexDigits digits ∧ (text.toList = digits ∨ text.toList = hyphenate digits ∨
      text.toList = '\x7b' :: (hyphenate digits ++ ['\x7d']) ∨
      text.toList = urnPrefix ++ hyphenate digits) := by
  refine ⟨⟨_, rfl⟩, ?_⟩
  rintro ⟨digits, hdigits, h | h | h | h⟩
  · exact absurd (h ▸ hdigits.length) (by decide)
  · have hlen := congrArg List.length h
    rw [length_hyphenate hdigits.length] at hlen
    exact absurd hlen (by decide)
  · cases h
  · cases h

end Rpc

end OrderDesk
