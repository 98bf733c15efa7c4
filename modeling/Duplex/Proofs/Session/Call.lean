import Duplex.Proofs.Session.Run

/-!
Which action begins which call to the surroundings, and what the session is like when it does.
-/

namespace Duplex

inductive Begins (s : Session) : Action → Call → Prop
  | suspend (x : Message) (live : s.inbound.isLive) : Begins s (.receive x) .suspend
  | resume (p : Puller) (resident : s.inbound.pending ≠ []) : Begins s (.take p) .resume
  | wake (a : Action) (w : Waker) : Begins s a (.wake w)
  | pull (writer : Writer) (here : s.writer = some writer) (empty : writer.current = none)
    (undrained : writer.drained = false) (attached : writer.attached) :
    Begins s .request (.pull writer.waker)
  | write (writer : Writer) (x : Message) (here : s.writer = some writer)
    (held : writer.current = some x) (undrained : writer.drained = false) :
    Begins s .emit (.write x)
  | close (status : CloseStatus) (finalizing : Bool) (unclosed : s.closed = false) :
    Begins s (.close status finalizing) (.close status)

theorem call?_wakeFrames {s : Session} {notices : List Notice} {w : Option Waker} {c : Call}
    (call : Effect.call? ⟨s, notices, wakeFrames w⟩ = some c) : ∃ v, c = .wake v := by
  cases w with
  | none => simp [Effect.call?, wakeFrames] at call
  | some v => exact ⟨v, by simpa [Effect.call?, wakeFrames, Wait.call] using call.symm⟩

theorem wakes_of_next {s : Session} {a : Action} {w : Waker}
    (next : (a.perform s).next = wakeFrames (some w)) :
    (Happening.acted s a).call? = some (.wake w) := by
  simp [Happening.call?, Effect.call?, next, wakeFrames, Wait.call]

theorem Begins.of_wakeFrames {s t : Session} {a : Action} {notices : List Notice}
    {w : Option Waker} {c : Call} (call : Effect.call? ⟨t, notices, wakeFrames w⟩ = some c) :
    Begins s a c := by
  obtain ⟨v, rfl⟩ := call?_wakeFrames call
  exact .wake a v

theorem begins_of_call {s : Session} {a : Action} {c : Call}
    (call : (Happening.acted s a).call? = some c) : Begins s a c := by
  change (a.perform s).call? = some c at call
  cases a with
  | receive x =>
    cases live : s.inbound.isLive <;>
      simp [Action.perform, live, Effect.call?, Wait.call] at call
    obtain rfl := call
    exact .suspend x live
  | take p =>
    cases queue : s.inbound.pending with
    | nil => simp [Action.perform, Session.take_of_nil p queue, Effect.call?] at call
    | cons m rest =>
      simp [Action.perform, Session.take_of_cons p queue, Effect.call?, Wait.call] at call
      obtain rfl := call
      exact .resume p (by simp [queue])
  | request =>
    simp only [Action.perform, Session.withWriter] at call
    cases here : s.writer with
    | none => simp [here, Effect.call?] at call
    | some writer =>
      cases empty : writer.current <;> cases undrained : writer.drained <;>
        cases attached : writer.attached <;>
        simp [here, empty, undrained, attached, Effect.call?, Wait.call] at call
      obtain rfl := call
      exact .pull writer here empty undrained attached
  | emit =>
    simp only [Action.perform, Session.withWriter] at call
    cases here : s.writer with
    | none => simp [here, Effect.call?] at call
    | some writer =>
      cases held : writer.current <;> cases undrained : writer.drained <;>
        simp [here, held, undrained, Effect.call?, Wait.call] at call
      obtain rfl := call
      exact .write writer _ here held undrained
  | close status finalizing =>
    cases unclosed : s.closed <;> cases finalizing <;>
      simp [Action.perform, Session.close, unclosed, Effect.call?, Wait.call] at call <;>
      obtain rfl := call <;> exact .close status _ unclosed
  | _ =>
    simp only [Action.perform, Session.withWriter, Session.store, Session.failInbound,
      Session.openWriter, Session.finish, Session.settle] at call
    repeat' split at call
    all_goals first
      | exact .of_wakeFrames call
      | simp [Effect.call?] at call

end Duplex
