import Duplex.Proofs.Utf8.Pieces
import Duplex.Wire.Item

/-!
Messages become items and items messages. The bytes of binary data, pings and pongs are carried as
they are; a text is carried as characters, so what comes back of its bytes is the lenient reading of
them, and that is all that is ever lost.
-/

namespace Duplex.Wire

/-- What comes back of a message. -/
inductive Returned : Message → Message → Prop
  | bytes {m : Message} (other : m.type ≠ .text) : Returned m m
  | text {payload : Octets} {s : String} (lossy : Utf8.IsLossy payload s) :
    Returned ⟨.text, payload⟩ (.text s)

namespace Item

theorem toMessage?_text (payload : Octets) :
    (ofMessage ⟨.text, payload⟩).toMessage? = some (.text (Utf8.decodeLossy payload)) := rfl

@[simp] theorem ofMessage_text (s : String) : ofMessage (.text s) = .text s := by
  simp [ofMessage, Message.text, Message.asText]

theorem exists_returned (m : Message) (carried : m.type ≠ .close) :
    ∃ back, (ofMessage m).toMessage? = some back ∧ Returned m back := by
  obtain ⟨type, payload⟩ := m
  cases type with
  | text => exact ⟨_, toMessage?_text payload, .text (Utf8.isLossy_iff.mpr rfl)⟩
  | binary => exact ⟨_, rfl, .bytes (by simp)⟩
  | ping => exact ⟨_, rfl, .bytes (by simp)⟩
  | pong => exact ⟨_, rfl, .bytes (by simp)⟩
  | close => exact absurd rfl carried

theorem ofMessage_of_toMessage? {i : Item} {m : Message} (surfaced : i.toMessage? = some m) :
    ofMessage m = i := by
  cases i with
  | text s =>
    obtain rfl := Option.some.inj surfaced
    exact ofMessage_text s
  | binary | ping | pong =>
    obtain rfl := Option.some.inj surfaced
    rfl
  | close => cases surfaced

theorem toMessage?_eq_none_iff {i : Item} : i.toMessage? = none ↔ ∃ body, i = .close body := by
  cases i <;> simp [toMessage?]

end Item

theorem Returned.type_eq {m back : Message} (returned : Returned m back) : back.type = m.type := by
  cases returned <;> rfl

theorem Returned.eq_self_iff {m back : Message} (returned : Returned m back)
    (text : m.type = .text) : back = m ↔ ∃ t, Utf8.decode m.payload = .ok t := by
  cases returned with
  | bytes other => exact absurd text other
  | @text payload s lossy =>
    obtain rfl := Utf8.isLossy_iff.mp lossy
    simp only [Message.text, Message.mk.injEq, true_and, Utf8.decode_eq_ok_iff]
    constructor
    · exact fun same => ⟨_, same⟩
    · rintro ⟨t, rfl⟩
      rw [Utf8.decodeLossy_encode]

/-- A message that is no close is carried and comes back as one of its kind, with the same bytes
unless it is a text: then they are the bytes of its lenient reading, the same ones exactly if the
strict reading accepts them, that is if they are the bytes of a text. The second time nothing
changes. An item that is no close is, as a message, carried by the same item. -/
theorem message_round_trip (m : Message) (item : Item) (carried : m.type ≠ .close)
    (data : ∀ body, item ≠ .close body) :
    (∃ back, (Item.ofMessage m).toMessage? = some back ∧ back.type = m.type ∧ Returned m back ∧
      (m.type = .text → (back = m ↔ ∃ t, Utf8.decode m.payload = .ok t)) ∧
      (Item.ofMessage back).toMessage? = some back) ∧
    (∀ t, Utf8.decode m.payload = .ok t ↔ Utf8.encode t = m.payload) ∧
    ∃ n, item.toMessage? = some n ∧ Item.ofMessage n = item := by
  obtain ⟨back, surfaced, returned⟩ := Item.exists_returned m carried
  refine ⟨⟨back, surfaced, returned.type_eq, returned, returned.eq_self_iff, ?_⟩,
    fun t => Utf8.decode_eq_ok_iff, ?_⟩
  · rw [Item.ofMessage_of_toMessage? surfaced, surfaced]
  · cases surfaces : item.toMessage? with
    | none =>
      obtain ⟨body, close⟩ := Item.toMessage?_eq_none_iff.mp surfaces
      exact absurd close (data body)
    | some n => exact ⟨n, rfl, Item.ofMessage_of_toMessage? surfaces⟩

/-- Half of a pair is no character, a character of four bytes stands broken off at the end: three
bytes that can begin nothing with the next one, then as many as could still have begun one. -/
theorem message_round_trip_broken :
    let payload : Octets := [0x61, 0xED, 0xA0, 0x80, 0xF0, 0x9F, 0x98]
    let back : Message := .text "a\uFFFD\uFFFD\uFFFD\uFFFD"
    (⟨.text, payload⟩ : Message).type ≠ .close ∧ (∀ body, Item.ping [0xFF] ≠ .close body) ∧
    (Item.ofMessage ⟨.text, payload⟩).toMessage? = some back ∧ Returned ⟨.text, payload⟩ back ∧
    ¬ (∃ t, Utf8.decode payload = .ok t) ∧ (Item.ofMessage back).toMessage? = some back ∧
    ∃ n, (Item.ping [0xFF]).toMessage? = some n ∧ Item.ofMessage n = .ping [0xFF] := by
  intro payload back
  have text : (⟨.text, payload⟩ : Message).type ≠ .close := by decide
  have ping : ∀ body, Item.ping [0xFF] ≠ .close body := by simp
  obtain ⟨⟨b, surfaced, -, returned, same, again⟩, -, item⟩ :=
    message_round_trip ⟨.text, payload⟩ (.ping [0xFF]) text ping
  have lossy : (Item.ofMessage ⟨.text, payload⟩).toMessage? = some back := by decide +kernel
  obtain rfl : b = back := Option.some.inj (surfaced.symm.trans lossy)
  have differs : back ≠ ⟨.text, payload⟩ := by decide +kernel
  exact ⟨text, ping, lossy, returned, mt (same rfl).mpr differs, again, item⟩

end Duplex.Wire
