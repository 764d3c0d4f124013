import OrderDesk.Json.Records
import OrderDesk.Proofs.Identity.Text
import OrderDesk.Proofs.Json.Documents
import OrderDesk.Proofs.Time.Rfc3339

/-!
# Markets that are written and read

A market is written as a document that is well formed (`Market.wellFormed_toJson`) and read from it
field by field (`Market.ofJson?_toJson`). So it is read from its text just as it was, and no two
markets have the same text (`Market.json_lossless`).
-/

namespace OrderDesk

/-! ## Values -/

theorem Id.ofJson?_toJson {kind : IdKind} (id : Id kind) : ofJson? id.toJson = some id := by
  rw [toJson, ofJson?, toText, Uuid.toText, String.toList_ofList, Uuid.parse?_render]
  rfl

theorem Instant.ofJson?_toJson (i : Instant) : ofJson? i.toJson = some i :=
  i.ofText?_toText

theorem Role.ofJson?_toJson (r : Role) : ofJson? r.toJson = some r :=
  r.ofName?_name

namespace JsonValue

variable {α : Type} {write : α → JsonValue} {read : JsonValue → Option α}

/-- A value that may be absent is read back, if it is not written as null itself. -/
theorem optional?_map_getD (h : ∀ a, read (write a) = some a) (hnull : ∀ a, write a ≠ .null)
    (value : Option α) : optional? read ((value.map write).getD .null) = some value := by
  cases value with
  | none => rfl
  | some a =>
    rw [Option.map_some, Option.getD_some, optional?.eq_def]
    split
    · next heq => exact absurd heq (hnull a)
    · rw [h]
      rfl

theorem list?_array_map (h : ∀ a, read (write a) = some a) (values : List α) :
    list? read (.array (values.map write)) = some values := by
  rw [list?]
  induction values with
  | nil => rfl
  | cons a values ih => simp [List.mapM_cons, h, ih]

end JsonValue

/-! ## Markets -/

namespace Market

theorem wellFormed_toJson (m : Market) : m.toJson.WellFormed := by
  have hdeleted : ((m.deletedAt.map Instant.toJson).getD .null).WellFormed := by
    cases m.deletedAt with
    | none => exact .null
    | some i => exact .string i.toText
  have hroles : (JsonValue.array (m.allowedRoles.map Role.toJson)).WellFormed := by
    refine .array fun v hv => ?_
    obtain ⟨r, -, rfl⟩ := List.mem_map.1 hv
    exact .string r.name
  refine .object fun member hmember => ?_
  simp only [List.map_cons, List.map_nil, List.mem_cons, List.not_mem_nil, or_false] at hmember
  rcases hmember with rfl | rfl | rfl | rfl | rfl
  · exact .string _
  · exact .string _
  · exact .bool _
  · exact hdeleted
  · exact hroles

theorem ofFields?_toJson (m : Market) :
    ofFields? m.id.toJson (.string m.name) (.bool m.enabled)
      ((m.deletedAt.map Instant.toJson).getD .null) (.array (m.allowedRoles.map Role.toJson)) =
        some m := by
  have hdeleted := JsonValue.optional?_map_getD Instant.ofJson?_toJson
    (fun i => by rintro ⟨⟩) m.deletedAt
  have hroles := JsonValue.list?_array_map Role.ofJson?_toJson m.allowedRoles
  rw [ofFields?, m.id.ofJson?_toJson, hdeleted, hroles]
  rfl

theorem ofJson?_toJson (m : Market) : ofJson? m.toJson = some m := by
  have hmembers (a b c d e : JsonValue) : ofJson? (.record [("id", a), ("name", b), ("enabled", c),
      ("deleted_at", d), ("allowed_roles", e)]) = ofFields? a b c d e := by
    simp [JsonValue.record, ofJson?, named?, ofMembers?, field?]
  rw [toJson, hmembers, ofFields?_toJson]

/-- **Nothing is lost in the text of a market.** A market is read from its text as it was, whatever
its name and its time of deletion are, so two markets that differ have different texts. -/
theorem json_lossless :
    (∀ m : Market, (JsonValue.ofText? m.toJson.toText).bind ofJson? = some m) ∧
      Function.Injective fun m : Market => m.toJson.toText := by
  have hread : ∀ m : Market, (JsonValue.ofText? m.toJson.toText).bind ofJson? = some m := by
    intro m
    rw [JsonValue.ofText?_toText m.wellFormed_toJson, Option.bind_some, ofJson?_toJson]
  refine ⟨hread, ?_⟩
  intro m m' hsame
  have hm := hread m
  rw [show m.toJson.toText = m'.toJson.toText from hsame, hread m'] at hm
  exact (Option.some.inj hm).symm

end Market

end OrderDesk
