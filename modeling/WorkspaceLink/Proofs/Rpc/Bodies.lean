import WorkspaceLink.Proofs.Json.Decoders
import WorkspaceLink.Rpc.ErrorPayload

/-!
# Bodies of error responses

Which values say a number, a message and perhaps data, and what is read out of all others. A body
that is written can be read back, under either spelling of its number; a value of any other form
becomes the data of an internal error, and that payload can be written and read back too.
-/
namespace WorkspaceLink

/-- The member `name` of an object goes by another name. -/
def Json.renamed (name other : String) : Json → Json
  | .obj members =>
    .object (members.map fun member => (if member.1 = name then other else member.1, member.2))
  | value => value

namespace ErrorPayload

/-! ### Forms of a body -/

/-- A message: a text, or nothing for an empty one. -/
def Says (value? : Option Json) (message : String) : Prop :=
  value? = some (.str message) ∨ value? = none ∧ message = ""

/-- What the wire can carry: a number of 64 bits, and data that is more than `null`. -/
structure Sendable (payload : ErrorPayload) : Prop where
  least : Word.signed64.least ≤ payload.number
  greatest : payload.number ≤ Word.signed64.greatest
  data : payload.data ≠ some .null

/-- The value is a body with this payload: an object with the number under exactly one of its two
names, or an array of up to three items that begins with the number. -/
inductive Spells : Json → ErrorPayload → Prop
  | object {members : List (String × Json)} {payload : ErrorPayload} (name other : String)
      (hnames : (name, other) = ("number", "code") ∨ (name, other) = ("code", "number"))
      (hnumber : members.lookup name = some (.num (.int payload.number)))
      (hother : members.lookup other = none)
      (hmessage : Says (members.lookup "message") payload.message)
      (hdata : payload.data = Json.unlessNull (members.lookup "data"))
      (hsendable : payload.Sendable) : Spells (.obj members) payload
  | items {items : List Json} {payload : ErrorPayload}
      (hnumber : items[0]? = some (.num (.int payload.number)))
      (hmessage : Says items[1]? payload.message)
      (hdata : payload.data = Json.unlessNull items[2]?)
      (hlength : items.length ≤ 3)
      (hsendable : payload.Sendable) : Spells (.arr items) payload

theorem field_text_eq_ok {value? : Option Json} {message : String} :
    Decode.field Decode.text "" value? = .ok message ↔ Says value? message := by
  cases value? with
  | none => simp [Decode.field, Says, eq_comm]
  | some value => simp [Decode.field, Says, Decode.text_eq_ok]

theorem optionalField_pure_eq_ok {value? data : Option Json} :
    Decode.optionalField pure value? = .ok data ↔ data = Json.unlessNull value? := by
  rw [Decode.optionalField_eq_ok]
  cases Json.unlessNull value? <;> simp [pure, Except.pure]

theorem unlessNull_ne_null (value? : Option Json) : Json.unlessNull value? ≠ some .null := by
  simp [Json.unlessNull, Option.filter_eq_some_iff]

theorem ofItems_eq_ok {items : List Json} {payload : ErrorPayload} :
    ofItems items = .ok payload ↔
      (∃ value, items[0]? = some value ∧ Decode.integer .signed64 value = .ok payload.number) ∧
      Decode.field Decode.text "" items[1]? = .ok payload.message ∧
      Decode.optionalField pure items[2]? = .ok payload.data := by
  unfold ofItems
  cases items[0]? with
  | none => simp [throw, throwThe, MonadExceptOf.throw, bind, Except.bind]
  | some value =>
    simp only [bind_eq_ok, Option.some.injEq, exists_eq_left']
    constructor
    · rintro ⟨number, hnumber, message, hmessage, data, hdata, h⟩
      cases h
      exact ⟨hnumber, hmessage, hdata⟩
    · rintro ⟨hnumber, hmessage, hdata⟩
      exact ⟨_, hnumber, _, hmessage, _, hdata, rfl⟩

theorem ofMembers_eq_ok {members : List (String × Json)} {payload : ErrorPayload} :
    ofMembers members = .ok payload ↔
      (∃ name other, ((name, other) = ("number", "code") ∨ (name, other) = ("code", "number")) ∧
        members.lookup other = none ∧
        ∃ value, members.lookup name = some value ∧
          Decode.integer .signed64 value = .ok payload.number) ∧
      Decode.field Decode.text "" (members.lookup "message") = .ok payload.message ∧
      Decode.optionalField pure (members.lookup "data") = .ok payload.data := by
  unfold ofMembers
  simp only [bind_eq_ok, Decode.field_map_some_eq_ok]
  -- A number under both names is refused, so either name is read only while the other is absent.
  constructor
  · rintro ⟨code, hcode, data, hdata, message, hmessage, h⟩
    cases hnumber : members.lookup "number" with
    | none =>
      rw [hnumber] at h
      simp only [bind_eq_ok, Decode.required_eq_ok] at h
      obtain ⟨_, h, number, rfl, hpayload⟩ := h
      cases hpayload
      cases h
      obtain ⟨-, h⟩ | ⟨value, _, hvalue, h, hdecode⟩ := hcode
      · cases h
      · cases h
        exact ⟨⟨"code", "number", .inr rfl, hnumber, value, hvalue, hdecode⟩, hmessage, hdata⟩
    | some value =>
      rw [hnumber] at h
      obtain ⟨hcode, rfl⟩ | ⟨_, _, -, rfl, -⟩ := hcode
      · change ((Decode.integer .signed64 value).map some >>= fun _ => _) = _ at h
        simp only [bind_eq_ok, map_eq_ok, Decode.required_eq_ok] at h
        obtain ⟨_, ⟨number, hdecode, rfl⟩, _, hsome, hpayload⟩ := h
        cases hpayload
        cases hsome
        exact ⟨⟨"number", "code", .inl rfl, hcode, value, hnumber, hdecode⟩, hmessage, hdata⟩
      · cases h
  · rintro ⟨⟨name, other, hnames, hother, value, hvalue, hdecode⟩, hmessage, hdata⟩
    rcases hnames with hnames | hnames <;> cases hnames
    · refine ⟨none, .inl ⟨hother, rfl⟩, _, hdata, _, hmessage, ?_⟩
      rw [hvalue]
      change ((Decode.integer .signed64 value).map some >>= fun _ => _) = _
      rw [hdecode]
      rfl
    · refine ⟨some payload.number, .inr ⟨value, _, hvalue, rfl, hdecode⟩, _, hdata, _, hmessage, ?_⟩
      rw [hother]
      rfl

theorem Sendable.unlessNull_data {payload : ErrorPayload} (h : payload.Sendable) :
    Json.unlessNull payload.data = payload.data := by
  cases hdata : payload.data with
  | none => rfl
  | some value => exact Json.unlessNull_some fun hnull => h.data (hnull ▸ hdata)

/-- The decoder accepts exactly the forms of a body. -/
theorem decode_eq_ok {value : Json} {payload : ErrorPayload} :
    decode value = .ok payload ↔ Spells value payload := by
  rw [decode, Decode.record_eq_ok]
  simp only [ofMembers_eq_ok, ofItems_eq_ok, Decode.integer_eq_ok, field_text_eq_ok,
    optionalField_pure_eq_ok]
  constructor
  · rintro (⟨members, rfl, ⟨name, other, hnames, hother, value, hvalue, rfl, hleast, hgreatest⟩,
      hmessage, hdata⟩ | ⟨items, rfl, hlength, ⟨value, hvalue, rfl, hleast, hgreatest⟩, hmessage,
      hdata⟩)
    · exact .object name other hnames hvalue hother hmessage hdata
        ⟨hleast, hgreatest, hdata ▸ unlessNull_ne_null _⟩
    · exact .items hvalue hmessage hdata hlength
        ⟨hleast, hgreatest, hdata ▸ unlessNull_ne_null _⟩
  · intro h
    cases h with
    | object name other hnames hnumber hother hmessage hdata hsendable =>
      exact .inl ⟨_, rfl, ⟨name, other, hnames, hother, _, hnumber, rfl, hsendable.least,
        hsendable.greatest⟩, hmessage, hdata⟩
    | items hnumber hmessage hdata hlength hsendable =>
      exact .inr ⟨_, rfl, hlength, ⟨_, hnumber, rfl, hsendable.least, hsendable.greatest⟩,
        hmessage, hdata⟩

theorem Spells.sendable {value : Json} {payload : ErrorPayload} (h : Spells value payload) :
    payload.Sendable := by
  cases h with
  | object _ _ _ _ _ _ _ hsendable => exact hsendable
  | items _ _ _ _ hsendable => exact hsendable

theorem ofWire_of_spells {value : Json} {payload : ErrorPayload} (h : Spells value payload) :
    ofWire value = payload := by
  rw [ofWire, decode_eq_ok.mpr h]

/-! ### Writing and reading back -/

theorem toJson_eq (payload : ErrorPayload) : payload.toJson =
    .obj (Encode.optional "data" id payload.data ++
      [("message", .str payload.message), ("number", .num (.int payload.number))]) := by
  obtain ⟨number, message, data⟩ := payload
  cases data <;>
    simp only [toJson, Json.object, Members.ofList, Members.insert, Encode.optional, id_eq,
      List.foldl_cons, List.foldl_nil, List.cons_append, List.nil_append, List.append_nil,
      String.reduceLT, ↓reduceIte]

theorem renamed_toJson (payload : ErrorPayload) : payload.toJson.renamed "number" "code" =
    .obj (("code", .num (.int payload.number)) :: Encode.optional "data" id payload.data ++
      [("message", .str payload.message)]) := by
  rw [toJson_eq]
  obtain ⟨number, message, data⟩ := payload
  cases data <;>
    simp only [Json.renamed, Json.object, Members.ofList, Members.insert, Encode.optional, id_eq,
      List.map_cons, List.map_nil, List.foldl_cons, List.foldl_nil, List.cons_append,
      List.nil_append, String.reduceLT, String.reduceEq, ↓reduceIte]

/-- What is written, under either spelling of the number, is a body with the same payload. -/
theorem spells_toJson {payload : ErrorPayload} (h : payload.Sendable) :
    Spells payload.toJson payload ∧ Spells (payload.toJson.renamed "number" "code") payload := by
  have hdata := h.unlessNull_data.symm
  rw [renamed_toJson, toJson_eq]
  constructor
  · refine .object "number" "code" (.inl rfl) ?_ ?_ (.inl ?_) ?_ h
    all_goals simp [List.lookup_append, Encode.lookup_optional, List.lookup_cons]
    exact hdata
  · refine .object "code" "number" (.inr rfl) ?_ ?_ (.inl ?_) ?_ h
    all_goals simp [List.lookup_append, Encode.lookup_optional, List.lookup_cons]
    exact hdata

/-- A body is read as it was written, and nothing is lost of what is no body: every value that
spells no payload becomes the data of an internal error. Either way what was read can be written
and read again, unless it was `null`, which no data keeps. -/
theorem error_bodies_recovered :
    (∀ value payload, decode value = .ok payload ↔ Spells value payload) ∧
    (∀ payload : ErrorPayload, payload.Sendable →
      ofWire payload.toJson = payload ∧
        ofWire (payload.toJson.renamed "number" "code") = payload) ∧
    (∀ value, (∀ payload, decode value ≠ .ok payload) →
      (ofWire value).number = -32603 ∧ (ofWire value).data = some value) ∧
    ∀ value, value ≠ .null → ofWire (ofWire value).toJson = ofWire value := by
  have hwritten : ∀ payload : ErrorPayload, payload.Sendable →
      ofWire payload.toJson = payload ∧
        ofWire (payload.toJson.renamed "number" "code") = payload := by
    intro payload h
    obtain ⟨hnumber, hcode⟩ := spells_toJson h
    exact ⟨ofWire_of_spells hnumber, ofWire_of_spells hcode⟩
  have hmalformed : ∀ value, (∀ payload, decode value ≠ .ok payload) →
      (ofWire value).number = -32603 ∧ (ofWire value).data = some value := by
    intro value h
    unfold ofWire
    split
    next payload hdecode => exact absurd hdecode (h payload)
    next => exact ⟨rfl, rfl⟩
  refine ⟨fun _ _ => decode_eq_ok, hwritten, hmalformed, ?_⟩
  intro value hnull
  -- Whatever was read can be sent: a spelled payload is, and so is an internal error with its data.
  refine (hwritten _ ?_).1
  by_cases h : ∃ payload, Spells value payload
  · obtain ⟨payload, h⟩ := h
    rw [ofWire_of_spells h]
    exact h.sendable
  · obtain ⟨hnumber, hdata⟩ := hmalformed value fun payload hdecode =>
      h ⟨payload, decode_eq_ok.mp hdecode⟩
    refine ⟨?_, ?_, ?_⟩
    · rw [hnumber]
      decide
    · rw [hnumber]
      decide
    · rw [hdata]
      simpa using hnull

theorem error_bodies_recovered_two_numbers :
    (⟨7, "seven", some (.bool true)⟩ : ErrorPayload).Sendable ∧
      ofWire ((⟨7, "seven", some (.bool true)⟩ : ErrorPayload).toJson.renamed "number" "code") =
        ⟨7, "seven", some (.bool true)⟩ ∧
      (∀ payload, decode (.obj [("code", .nat 1), ("number", .nat 1)]) ≠ .ok payload) ∧
      (ofWire (.obj [("code", .nat 1), ("number", .nat 1)])).number = -32603 ∧
      ofWire (ofWire (.obj [("code", .nat 1), ("number", .nat 1)])).toJson =
        ofWire (.obj [("code", .nat 1), ("number", .nat 1)]) := by
  have hsendable : (⟨7, "seven", some (.bool true)⟩ : ErrorPayload).Sendable :=
    ⟨by decide, by decide, by simp⟩
  have hmalformed :
      ∀ payload, decode (.obj [("code", .nat 1), ("number", .nat 1)]) ≠ .ok payload := by
    intro payload h
    have hdecode : decode (.obj [("code", .nat 1), ("number", .nat 1)]) =
        .error (.duplicate "number") := rfl
    rw [hdecode] at h
    cases h
  obtain ⟨-, hwritten, hkept, hagain⟩ := error_bodies_recovered
  exact ⟨hsendable, (hwritten _ hsendable).2, hmalformed, (hkept _ hmalformed).1,
    hagain _ (by simp)⟩

end ErrorPayload

end WorkspaceLink
