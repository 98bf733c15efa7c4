import Duplex.CloseStatus
import Duplex.SessionId
import Duplex.SessionOptions
import Duplex.Proofs.Json.Object

/-!
Close statuses, session identifiers and session options come back from their JSON text as they
were. A text of options may leave out either of the two, or both; what is left out has its default,
and the rest may come in any order and with any blanks. Options that no session can use come back as
well; they are refused only where a session would be made with them.
-/

namespace Duplex

open Json

namespace CloseStatus

/-- An absent reason has no entry, an empty one has an entry with an empty text. -/
def written (s : CloseStatus) : List (String × List Char) :=
  ("code", (toString s.code.toNat).toList) ::
    s.reason.toList.map fun r => ("reason", writeText r)

theorem isObject_toJson (s : CloseStatus) : IsObject s.written s.toJson := by
  have code : "\x7b\"code\":".toList = '\x7b' :: (writeText "code" ++ [':']) := rfl
  have reason : ",\"reason\":".toList = ',' :: (writeText "reason" ++ [':']) := rfl
  apply isObject_writeObject
  obtain ⟨_, _ | r⟩ := s <;> unfold toJson
  · simp [writeObject, writeEntry, written, code]
  · simp [writeObject, writeEntry, written, code, reason]

theorem finds_code (s : CloseStatus) :
    Finds (readField fields {} "code") [[':'], (toString s.code.toNat).toList]
      { code := some s.code.toNat } := by
  have fits : s.code.toNat ≤ 65535 := Nat.le_of_lt_succ s.code.toNat_lt
  exact finds_field rfl rfl ((finds_nat "u16" fits (by decide)).map fun n =>
    ({ code := some n } : Draft))

theorem finds_reason (d : Draft) (free : d.reason.isSome = false) (r : String) :
    Finds (readField fields d "reason") [[':'], writeText r] { d with reason := some (some r) } :=
  finds_field rfl free ((finds_some rfl (by decide) (finds_text "a string" r)).map fun r =>
    { d with reason := some r })

theorem ofJson_toJson (s : CloseStatus) : ofJson s.toJson = .ok s := by
  have object := isObject_toJson s
  obtain ⟨code, reason⟩ := s
  let first : Draft := { code := some code.toNat }
  have made (reason : Option (Option String)) :
      ({ first with reason } : Draft).finish = .ok ⟨code, reason.getD none⟩ := by
    simp [first, Draft.finish]
  cases reason with
  | none => exact readAll_of_isObject object (.cons (finds_code _) (.nil first)) (made none)
  | some r =>
    have reason := finds_reason first rfl r
    exact readAll_of_isObject object (.cons (finds_code _) (.cons reason (.nil _)))
      (made (some (some r)))

end CloseStatus

theorem SessionId.ofJson_toJson (id : SessionId) : SessionId.ofJson id.toJson = .ok id := by
  have spaced : Spaced [] [writeText id.text] id.toJson.toList := by
    simpa [toJson] using spaced_flatten [] [writeText id.text]
  rw [ofJson, readAll_of_finds (finds_text "a string" id.text) (by decide) spaced]
  rfl

namespace SessionOptions

inductive Key
  | capacity | close
  deriving Repr, DecidableEq

def entry (o : SessionOptions) : Key → String × List Char
  | .capacity => ("receive_buffer_capacity", (toString o.receiveBufferCapacity).toList)
  | .close => ("close_on_send_complete", (Text.flag o.closeOnSendComplete).toList)

/-- These options where they are kept, the defaults elsewhere. -/
def keeping (o : SessionOptions) (kept : List Key) : SessionOptions :=
  let defaults : SessionOptions := {}
  { receiveBufferCapacity :=
      if .capacity ∈ kept then o.receiveBufferCapacity else defaults.receiveBufferCapacity
    closeOnSendComplete :=
      if .close ∈ kept then o.closeOnSendComplete else defaults.closeOnSendComplete }

/-- What a text that holds these options gives: the options themselves, and for use by a session
only if they are valid. -/
structure IsReread (o : SessionOptions) (text : String) : Prop where
  read : readJson text = .ok o
  accepted : ofJson text = .ok o ↔ o.validate = .success
  refused : o.validate ≠ .success →
    ∃ what, o.validate = .failure (.config what) ∧ ofJson text = .error (.config what)

def Draft.put (o : SessionOptions) (d : Draft) : Key → Draft
  | .capacity => { d with capacity := some o.receiveBufferCapacity }
  | .close => { d with close := some o.closeOnSendComplete }

def Draft.IsFree (d : Draft) : Key → Prop
  | .capacity => d.capacity.isSome = false
  | .close => d.close.isSome = false

section

variable {o : SessionOptions} {d : Draft} {k : Key} {kept : List Key} {text : String}

theorem isObject_toJson (o : SessionOptions) :
    IsObject ([.capacity, .close].map o.entry) o.toJson := by
  have capacity : "\x7b\"receive_buffer_capacity\":".toList =
      '\x7b' :: (writeText "receive_buffer_capacity" ++ [':']) := rfl
  have close : ",\"close_on_send_complete\":".toList =
      ',' :: (writeText "close_on_send_complete" ++ [':']) := rfl
  apply isObject_writeObject
  unfold toJson
  simp [writeObject, writeEntry, entry, capacity, close]

theorem Draft.IsFree.put {l : Key} (free : d.IsFree l) (other : l ≠ k) : (d.put o k).IsFree l := by
  cases l with
  | capacity =>
    cases k with
    | capacity => exact absurd rfl other
    | close => exact free
  | close =>
    cases k with
    | capacity => exact free
    | close => exact absurd rfl other

theorem finds_entry (word : o.receiveBufferCapacity < Nat.pow 2 64) (free : d.IsFree k) :
    Finds (readField fields d (o.entry k).1) [[':'], (o.entry k).2] (d.put o k) := by
  cases k with
  | capacity =>
    have fits : o.receiveBufferCapacity ≤ wordLimit := Nat.le_sub_one_of_lt word
    exact finds_field rfl free ((finds_nat "usize" fits (Nat.le_refl _)).map fun n =>
      { d with capacity := some n })
  | close =>
    exact finds_field rfl free ((finds_flag o.closeOnSendComplete).map fun b =>
      { d with close := some b })

theorem gathers_entries (word : o.receiveBufferCapacity < Nat.pow 2 64) (distinct : kept.Nodup)
    (free : ∀ k ∈ kept, d.IsFree k) :
    Gathers (readField fields) d (kept.map o.entry) (kept.foldl (Draft.put o) d) := by
  induction kept generalizing d with
  | nil => exact .nil d
  | cons k kept ih =>
    obtain ⟨absent, distinct⟩ := List.nodup_cons.mp distinct
    refine .cons (finds_entry word (free k List.mem_cons_self)) (ih distinct fun l mem => ?_)
    exact (free l (List.mem_cons_of_mem k mem)).put (ne_of_mem_of_not_mem mem absent)

theorem finish_foldl_put (kept : List Key) (d : Draft) :
    (kept.foldl (Draft.put o) d).finish =
      { receiveBufferCapacity :=
          if .capacity ∈ kept then o.receiveBufferCapacity else d.finish.receiveBufferCapacity
        closeOnSendComplete :=
          if .close ∈ kept then o.closeOnSendComplete else d.finish.closeOnSendComplete } := by
  induction kept generalizing d with
  | nil => rfl
  | cons k kept ih =>
    rw [List.foldl_cons, ih]
    cases k <;> simp [Draft.put, Draft.finish]

theorem readJson_of_isObject (word : o.receiveBufferCapacity < Nat.pow 2 64) (distinct : kept.Nodup)
    (object : IsObject (kept.map o.entry) text) : readJson text = .ok (o.keeping kept) := by
  have free (k : Key) : ({} : Draft).IsFree k := by cases k <;> rfl
  have made : (kept.foldl (Draft.put o) {}).finish = o.keeping kept := finish_foldl_put kept {}
  exact readAll_of_isObject object (gathers_entries word distinct fun k _ => free k) (by rw [made])

theorem isReread_of_read (read : readJson text = .ok o) : o.IsReread text := by
  by_cases none : o.receiveBufferCapacity = 0
  · have invalid : o.validate = .failure .capacityTooSmall := if_pos none
    have refused : ofJson text = .error .capacityTooSmall := by simp only [ofJson, read, invalid]
    exact ⟨read, by simp [refused, invalid], fun _ => ⟨_, invalid, refused⟩⟩
  · have valid : o.validate = .success := if_neg none
    exact ⟨read, by simp [ofJson, read, valid], fun invalid => absurd valid invalid⟩

end

end SessionOptions

/-- Every close status, identifier and choice of options is found again in the text it is written
as, and an absent reason is told from an empty one. A text that lists some of the options, in any
order and with any blanks, gives these and the defaults of the others. -/
theorem values_round_trip :
    (∀ s : CloseStatus, CloseStatus.ofJson s.toJson = .ok s) ∧
    (∀ code, CloseStatus.ofJson (CloseStatus.toJson ⟨code, none⟩) ≠
      CloseStatus.ofJson (CloseStatus.toJson ⟨code, some ""⟩)) ∧
    (∀ id : SessionId, SessionId.ofJson id.toJson = .ok id) ∧
    ∀ o : SessionOptions, o.receiveBufferCapacity < Nat.pow 2 64 →
      o.IsReread o.toJson ∧
      IsObject ([.capacity, .close].map o.entry) o.toJson ∧
      ∀ kept : List SessionOptions.Key, kept.Nodup → ∀ text, IsObject (kept.map o.entry) text →
        (o.keeping kept).IsReread text := by
  refine ⟨CloseStatus.ofJson_toJson, fun code same => ?_, SessionId.ofJson_toJson,
    fun o word => ⟨?_, o.isObject_toJson, fun kept distinct text object => ?_⟩⟩
  · rw [CloseStatus.ofJson_toJson, CloseStatus.ofJson_toJson] at same
    cases same
  · exact SessionOptions.isReread_of_read
      (SessionOptions.readJson_of_isObject word (by decide) o.isObject_toJson)
  · exact SessionOptions.isReread_of_read
      (SessionOptions.readJson_of_isObject word distinct object)

/-- The largest capacity comes back from a text with its entries in the other order. A capacity of
zero is refused where it is written, and does no harm where it is left out. -/
theorem values_round_trip_spread :
    let status : CloseStatus := ⟨65535, some "\"\\\u0001\n\u007f😀"⟩
    let id : SessionId := ⟨"a/\"b\"\t𝄞"⟩
    let widest : SessionOptions := ⟨Nat.pow 2 64 - 1, false⟩
    let swapped := "\x7b\"close_on_send_complete\":false," ++
      "\"receive_buffer_capacity\":18446744073709551615\x7d"
    let unusable : SessionOptions := ⟨0, false⟩
    let spread := "\x7b \"close_on_send_complete\"\n:\tfalse\x7d "
    CloseStatus.ofJson status.toJson = .ok status ∧ SessionId.ofJson id.toJson = .ok id ∧
    widest.receiveBufferCapacity < Nat.pow 2 64 ∧ unusable.receiveBufferCapacity < Nat.pow 2 64 ∧
    [SessionOptions.Key.close, .capacity].Nodup ∧ [SessionOptions.Key.close].Nodup ∧
    IsObject ([.close, .capacity].map widest.entry) swapped ∧
    SessionOptions.readJson swapped = .ok widest ∧ SessionOptions.ofJson swapped = .ok widest ∧
    IsObject ([.close].map unusable.entry) spread ∧
    SessionOptions.ofJson spread = .ok ⟨8192, false⟩ ∧
    ∃ what, SessionOptions.ofJson unusable.toJson = .error (.config what) := by
  intro status id widest swapped unusable spread
  have compact : IsObject ([.close, .capacity].map widest.entry) swapped :=
    isObject_writeObject (by decide +kernel)
  have parts : objectParts ([.close].map unusable.entry) =
      [['\x7b'], writeText "close_on_send_complete", [':'], "false".toList, ['\x7d']] := by
    decide +kernel
  have text : spread.toList = [] ++ (['\x7b'] ++ ([' '] ++ (writeText "close_on_send_complete" ++
      (['\n'] ++ ([':'] ++ (['\t'] ++ ("false".toList ++ ([] ++ (['\x7d'] ++ [' ']))))))))) := by
    decide +kernel
  have loose : IsObject ([.close].map unusable.entry) spread := by
    refine ⟨[' '], by decide, ?_⟩
    rw [parts, text]
    exact .cons [] (by decide) <| .cons [' '] (by decide) <| .cons ['\n'] (by decide) <|
      .cons ['\t'] (by decide) <| .cons [] (by decide) .nil
  obtain ⟨statuses, -, ids, options⟩ := values_round_trip
  obtain ⟨-, -, wide⟩ := options widest (by decide)
  obtain ⟨whole, -, short⟩ := options unusable (by decide)
  have same := wide [.close, .capacity] (by decide) swapped compact
  have fewer := short [.close] (by decide) spread loose
  obtain ⟨what, -, refused⟩ := whole.refused (by decide)
  exact ⟨statuses status, ids id, by decide, by decide, by decide, by decide, compact, same.read,
    same.accepted.mpr rfl, loose, fewer.accepted.mpr rfl, what, refused⟩

end Duplex
