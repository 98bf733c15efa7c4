import Duplex.Proofs.Utf8.Reading
import Duplex.Wire.Endpoint

/-!
What a close frame says. Its code is never one of those that are for local use only, its reason is
as much of the given one as there is room for, and the frame fits into a control frame and can be
read by the other end.
-/

namespace Duplex.Wire

/-- A body made from a code and a reason: there is none exactly for a code of local use. -/
inductive CloseBody.Made (code : UInt16) (reason : String) : Option CloseBody → Prop
  | bare (reserved : code = 1005 ∨ code = 1006 ∨ code = 1015) : Made code reason none
  | said (t : String) (unreserved : code ≠ 1005 ∧ code ≠ 1006 ∧ code ≠ 1015)
    (cut : Utf8.IsLongest 123 reason t) : Made code reason (some ⟨code, t⟩)

/-- A body made from the payload of a message: a code of two bytes, then the reason. -/
inductive CloseBody.MadeOf : Octets → Option CloseBody → Prop
  | short {payload : Octets} (few : payload.length < 2) : MadeOf payload none
  | full (high low : UInt8) (reason : Octets) {body : Option CloseBody}
    (made : Made (high.toNat * 256 + low.toNat).toUInt16 (Utf8.decodeLossy reason) body) :
    MadeOf (high :: low :: reason) body

/-- A close frame that the other end understands. -/
structure CloseBody.IsFit (body : Option CloseBody) : Prop where
  room : (Frame.ofItem (.close body)).payload.length ≤ 125
  reason : ∀ b ∈ body, Utf8.decode ((Frame.ofItem (.close body)).payload.drop 2) = .ok b.reason
  readable : Endpoint.closeBody? (Frame.ofItem (.close body)).payload = .ok body

namespace CloseBody

theorem isReserved_iff (code : UInt16) :
    isReserved code ↔ code = 1005 ∨ code = 1006 ∨ code = 1015 := by
  simp only [isReserved, Bool.or_eq_true, decide_eq_true_eq, or_assoc]
  exact Iff.rfl

theorem made_ofStatus (s : CloseStatus) : Made s.code (s.reason.getD "") (ofStatus s) := by
  unfold ofStatus
  split
  · rename_i reserved
    exact .bare ((isReserved_iff _).mp reserved)
  · rename_i unreserved
    rw [isReserved_iff] at unreserved
    exact .said _ (by simpa using unreserved) (Utf8.truncate_isLongest _ _)

theorem madeOf_ofMessage (payload : Octets) :
    ∃ body, Item.ofMessage ⟨.close, payload⟩ = .close body ∧ MadeOf payload body := by
  cases payload with
  | nil => exact ⟨none, rfl, .short (by simp)⟩
  | cons high payload =>
    cases payload with
    | nil => exact ⟨none, rfl, .short (by simp)⟩
    | cons low reason =>
      exact ⟨_, rfl, .full high low reason
        (made_ofStatus ⟨(high.toNat * 256 + low.toNat).toUInt16, some (Utf8.decodeLossy reason)⟩)⟩

theorem code_of_bytes (code : UInt16) :
    ((code.toNat / 256).toUInt8.toNat * 256 + (code.toNat % 256).toUInt8.toNat).toUInt16 =
      code := by
  have bound := code.toNat_lt
  rw [Utf8.toNat_byte, Utf8.toNat_byte,
    show code.toNat / 256 % 256 * 256 + code.toNat % 256 % 256 = code.toNat by omega]
  exact UInt16.ofNat_toNat

theorem isFit_of_short {b : CloseBody} (short : (Utf8.encode b.reason).length ≤ 123) :
    IsFit (some b) := by
  have written : (Frame.ofItem (.close (some b))).payload = b.payload := rfl
  constructor <;> rw [written, payload]
  · simp only [List.length_cons]
    omega
  · simp
  · rw [Endpoint.closeBody?, code_of_bytes, Utf8.decode_encode]

theorem isFit_none : IsFit none := ⟨by decide, by simp, rfl⟩

theorem Made.isFit {code : UInt16} {reason : String} {body : Option CloseBody}
    (made : Made code reason body) : IsFit body := by
  cases made with
  | bare => exact isFit_none
  | said t _ cut => exact isFit_of_short cut.fits

theorem MadeOf.isFit {payload : Octets} {body : Option CloseBody} (made : MadeOf payload body) :
    IsFit body := by
  cases made with
  | short => exact isFit_none
  | full _ _ _ made => exact made.isFit

/-- Whether a close is asked for with a status or by a message, its frame is fit for the wire and
says the code and as much of the reason as there is room for, unless the code is for local use or
the message is too short to hold one. The search for the place to cut always ends, at the last
boundary up to the limit and never below zero, and the text can be cut there. -/
theorem close_frame_fit (s : CloseStatus) (payload : Octets) (text : String) (limit : Nat) :
    Made s.code (s.reason.getD "") (ofStatus s) ∧ IsFit (ofStatus s) ∧
    (∃ body, Item.ofMessage ⟨.close, payload⟩ = .close body ∧ MadeOf payload body ∧ IsFit body) ∧
    ∃ n, Utf8.descend (Utf8.encode text) limit = some n ∧ n ≤ limit ∧
      Utf8.isBoundary (Utf8.encode text) n ∧
      (∀ k ≤ limit, Utf8.isBoundary (Utf8.encode text) k → k ≤ n) ∧
      ∃ t, Utf8.slice? text n = some t ∧ Utf8.IsLongest limit text t := by
  obtain ⟨body, item, made⟩ := madeOf_ofMessage payload
  exact ⟨made_ofStatus s, (made_ofStatus s).isFit, ⟨body, item, made, made.isFit⟩,
    Utf8.slice?_descend text limit⟩

example : (ofStatus ⟨1000, some (String.ofList (List.replicate 62 'é'))⟩).map CloseBody.reason =
    some (String.ofList (List.replicate 61 'é')) := by decide +kernel

end CloseBody
end Duplex.Wire
