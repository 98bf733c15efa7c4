import Duplex.Proofs.Wire.CloseFrame

/-!
A close status has three written forms: the value itself, the body of a close frame, and the payload
of a close message. From the frame the status comes back with as much of its reason as there was
room for, and the message's payload leads to the frame that the status leads to.
-/

namespace Duplex.Wire.CloseBody

/-- What comes back of a reason: nothing if there was none or an empty one, otherwise the longest
beginning that has room in a close frame. -/
inductive Regained : Option String → Option String → Prop
  | absent : Regained none none
  | empty : Regained (some "") none
  | kept {r t : String} (said : r ≠ "") (cut : Utf8.IsLongest 123 r t) : Regained (some r) (some t)

/-- Reasons of which nothing is lost. -/
def KeepsReason (reason : Option String) : Prop :=
  ∀ r ∈ reason, r ≠ "" ∧ (Utf8.encode r).length ≤ 123

theorem ofStatus_unreserved {code : UInt16} (unreserved : code ≠ 1005 ∧ code ≠ 1006 ∧ code ≠ 1015)
    (reason : Option String) :
    ofStatus ⟨code, reason⟩ = some ⟨code, Utf8.truncate reasonLimit (reason.getD "")⟩ := by
  have free : ¬ isReserved code := by
    rw [isReserved_iff]
    simpa using unreserved
  simp [ofStatus, free]

theorem regained_status (code : UInt16) (reason : Option String) :
    Regained reason (status ⟨code, Utf8.truncate reasonLimit (reason.getD "")⟩).reason := by
  rcases reason with _ | r
  · exact .absent
  · by_cases said : r = ""
    · subst said
      exact .empty
    · have cut := Utf8.truncate_isLongest reasonLimit r
      have kept : Utf8.truncate reasonLimit r ≠ "" := cut.ne_empty (by decide) said
      simpa [status, kept] using Regained.kept said cut

theorem Regained.eq_self_iff {reason back : Option String} (regained : Regained reason back) :
    back = reason ↔ KeepsReason reason := by
  cases regained with
  | absent => simp [KeepsReason]
  | empty => simp [KeepsReason]
  | kept said cut =>
    simp only [KeepsReason, Option.mem_some_iff, forall_eq', Option.some.injEq, said, ne_eq,
      not_false_eq_true, true_and]
    exact ⟨fun same => same ▸ cut.fits, cut.eq_self⟩

theorem ofMessage_eq_ofStatus (code : UInt16) (text : String) :
    Item.ofMessage ⟨.close, bigEndian 2 code.toNat ++ Utf8.encode text⟩ =
      .close (ofStatus ⟨code, some text⟩) := by
  have bytes : bigEndian 2 code.toNat =
      [(code.toNat / 256).toUInt8, (code.toNat % 256).toUInt8] := by
    have bound := code.toNat_lt
    have parts : bigEndian 2 code.toNat =
      [(code.toNat / 256 % 256).toUInt8, (code.toNat / 1 % 256).toUInt8] := rfl
    rw [parts, Nat.mod_eq_of_lt (by omega), Nat.div_one]
  rw [bytes]
  simp only [Item.ofMessage, List.cons_append, List.nil_append]
  rw [code_of_bytes, Utf8.decodeLossy_encode]

/-- Of a status whose code is not for local use, the frame gives back the code and what there was
room for of the reason, hence the whole status exactly if its reason is neither empty nor too long;
and a close message that holds the same code and reason makes the same frame. -/
theorem close_status_round_trip (code : UInt16) (reason : Option String) (text : String)
    (unreserved : code ≠ 1005 ∧ code ≠ 1006 ∧ code ≠ 1015) :
    (∃ body, ofStatus ⟨code, reason⟩ = some body ∧ body.status.code = code ∧
      Regained reason body.status.reason ∧
      (body.status = ⟨code, reason⟩ ↔ KeepsReason reason)) ∧
    Item.ofMessage ⟨.close, bigEndian 2 code.toNat ++ Utf8.encode text⟩ =
      .close (ofStatus ⟨code, some text⟩) := by
  have regained := regained_status code reason
  refine ⟨⟨_, ofStatus_unreserved unreserved reason, rfl, regained, ?_⟩,
    ofMessage_eq_ofStatus code text⟩
  rw [← regained.eq_self_iff, CloseStatus.mk.injEq]
  exact and_iff_right rfl

/-- The last of sixty-two characters of two bytes each has no room, and the status comes back
without it. -/
theorem close_status_round_trip_cut :
    let reason := String.ofList (List.replicate 62 'é')
    let kept := String.ofList (List.replicate 61 'é')
    ((4001 : UInt16) ≠ 1005 ∧ (4001 : UInt16) ≠ 1006 ∧ (4001 : UInt16) ≠ 1015) ∧
    ofStatus ⟨4001, some reason⟩ = some ⟨4001, kept⟩ ∧ Regained (some reason) (some kept) ∧
    ¬ KeepsReason (some reason) ∧
    Item.ofMessage ⟨.close, [0x0F, 0xA1] ++ Utf8.encode reason⟩ = .close (some ⟨4001, kept⟩) := by
  intro reason kept
  have free : (4001 : UInt16) ≠ 1005 ∧ (4001 : UInt16) ≠ 1006 ∧ (4001 : UInt16) ≠ 1015 := by decide
  have frame : ofStatus ⟨4001, some reason⟩ = some ⟨4001, kept⟩ := by decide +kernel
  obtain ⟨⟨body, made, -, regained, -⟩, message⟩ :=
    close_status_round_trip 4001 (some reason) reason free
  obtain rfl : body = ⟨4001, kept⟩ := Option.some.inj (made.symm.trans frame)
  have back : (status ⟨4001, kept⟩).reason = some kept := by decide +kernel
  have bytes : bigEndian 2 (4001 : UInt16).toNat = [0x0F, 0xA1] := by decide
  rw [bytes, frame] at message
  have long : ¬ (Utf8.encode reason).length ≤ 123 := by decide +kernel
  exact ⟨free, frame, back ▸ regained, fun keeps => long (keeps reason rfl).2, message⟩

end Duplex.Wire.CloseBody
