import Duplex.Scenario.Play

/-!
A send that comes too late. Its source is dropped without having been asked for anything, and its
future fails whenever it is polled; neither the call nor the poll reaches the session's state, the
transport or anybody's source.
-/

namespace Duplex

theorem perform_refused {s : Session} (begun : s.progress ≠ .notStarted) :
    Action.attach.perform s =
      { session := s
        notices := [.logged .sendRepeated]
        next := [.act (.reply (.attached false))] } := if_neg begun

namespace Scenario

/-- What a refused send leaves behind: a source that is never asked, and a future that has failed
already. -/
structure Refused (w : World) (name : String) (eager : Bool) (source : Source) (w' : World) :
    Prop where
  machine : w'.machine = w.machine
  transport : w'.transport = w.transport
  calls : w'.calls = w.calls
  unfinished : w'.unfinished = w.unfinished
  receiver : w'.receiver = w.receiver
  handles : w'.handles = w.handles
  supplied : ∃ waker, w'.supplies = w.supplies ++ [⟨w.nextNumber, waker, name, false, source⟩] ∧
    w'.tasks = w.tasks ++ [{ number := w.nextNumber, waker, name, eager, job := .refused }]
  asked : w'.attached? = w.attached?
  events : ∃ seen, w'.events = seen ++ w.events ∧
    ∀ e ∈ seen, e = .dropped name ∨ e = .logged w.session.setting.id .sendRepeated

section

variable {w : World} {m : Machine} {notices : List Notice} (effort : Nat)

theorem run_update {α : Type} (f : World → World × α) (w : World) :
    StateT.run (Play.update f) w = pure (f w).swap := rfl

theorem proceed_on (advanced : w.machine.advance = some (m, notices))
    (silent : ({ w with machine := m }.noteAll notices).2 = none) :
    StateT.run (Play.proceed (effort + 1)) w =
      StateT.run (Play.proceed effort) ({ w with machine := m }.noteAll notices).1 := by
  rw [Play.proceed]
  simp [StateT.run_bind, advanced, run_update, silent]

theorem proceed_answered {r : Reply} (advanced : w.machine.advance = some (m, notices))
    (answers : ({ w with machine := m }.noteAll notices).2 = some r) :
    StateT.run (Play.proceed (effort + 1)) w =
      pure (r, ({ w with machine := m }.noteAll notices).1) := by
  rw [Play.proceed]
  simp [StateT.run_bind, advanced, run_update, answers]

end

theorem log_eq (w : World) (e : Entry) :
    w.log e = { w with
      events := (if w.logging then [.logged w.session.setting.id e] else []) ++ w.events } := by
  cases w with
  | mk _ _ logging => cases logging <;> rfl

section

variable {w : World} (effort : Nat)

theorem operate_refused (begun : w.session.progress ≠ .notStarted) :
    StateT.run (Play.operate (effort + 3) .send) w =
      pure (.attached false, w.log .sendRepeated) := by
  let offered : World := { w with machine := w.machine.start .send }
  let refused : Machine := ⟨w.session, .act (.reply (.attached false)) :: w.machine.agenda⟩
  have attaches : offered.machine.advance = some (refused, [.logged .sendRepeated]) := by
    have effect : Action.attach.perform w.machine.session = _ := perform_refused begun
    simp [offered, refused, Machine.start, Op.actions, Machine.advance, World.session, effect]
  have logged : ({ offered with machine := refused }.noteAll [.logged .sendRepeated]).1 =
      { w.log .sendRepeated with machine := refused } := by
    change World.log _ _ = _
    rw [log_eq, log_eq]
    rfl
  have answers : refused.advance = some (w.machine, [.returned (.attached false)]) := rfl
  have returned : ({ w.log .sendRepeated with machine := w.machine }.noteAll
      [.returned (.attached false)]).1 = w.log .sendRepeated := by
    rw [log_eq]
    rfl
  rw [Play.operate]
  simp only [StateT.run_bind, StateT.run_modify, pure_bind]
  calc StateT.run (Play.proceed (effort + 2)) offered
      = StateT.run (Play.proceed (effort + 1)) { w.log .sendRepeated with machine := refused } := by
        rw [proceed_on _ attaches rfl, logged]
    _ = pure (.attached false, w.log .sendRepeated) := by
        rw [proceed_answered _ answers rfl, returned]

theorem addTask_fresh {t : Task} (fresh : w.taskNamed? t.name = none) :
    StateT.run (Play.addTask (effort + 2) t) w = pure ((), { w with tasks := w.tasks ++ [t] }) := by
  rw [Play.addTask, Play.dropTask]
  simp [StateT.run_bind, fresh]

theorem Refused.of_seen {name : String} {eager : Bool} {source : Source} (owners : List Owner)
    (waker : Waker) (seen : List Event)
    (few : ∀ e ∈ seen, e = .dropped name ∨ e = .logged w.session.setting.id .sendRepeated) :
    Refused w name eager source
      { w with
        owners
        nextNumber := w.nextNumber + 1
        events := seen ++ w.events
        supplies := w.supplies ++ [⟨w.nextNumber, waker, name, false, source⟩]
        tasks := w.tasks ++
          [{ number := w.nextNumber, waker, name, eager, job := .refused }] } := by
  refine ⟨rfl, rfl, rfl, rfl, rfl, rfl, ⟨waker, rfl, rfl⟩, ?_, ⟨seen, rfl, few⟩⟩
  simp [World.attached?, List.find?_append]

theorem send_refused {name : String} (eager : Bool) (source : Source)
    (begun : w.session.progress ≠ .notStarted) (fresh : w.taskNamed? name = none) :
    ∃ w', StateT.run (Play.send (effort + 4) name eager source) w = pure ((), w') ∧
      Refused w name eager source w' := by
  obtain ⟨owners, waker, called⟩ : ∃ owners waker,
      w.wakerOf (.task name) = ({ w with owners }, waker) := by
    unfold World.wakerOf
    split <;> exact ⟨_, _, rfl⟩
  let logs : List Event := if w.logging then [.logged w.session.setting.id .sendRepeated] else []
  have logged : ∀ e ∈ logs, e = .logged w.session.setting.id .sendRepeated := by
    simp [logs]
  have answered : StateT.run (Play.operate (effort + 3) .send)
      { w with owners, nextNumber := w.nextNumber + 1 } = _ := operate_refused effort begun
  rw [log_eq] at answered
  rw [Play.send]
  simp only [StateT.run_bind, run_update, pure_bind]
  rw [called]
  simp only [Prod.swap_prod_mk, World.fresh]
  rw [answered]
  simp only [pure_bind, StateT.run_modify, Bool.false_eq_true, if_false]
  cases source with
  | echo =>
    rw [addTask_fresh _ fresh]
    exact ⟨_, rfl, .of_seen owners waker logs fun e mem => .inr (logged e mem)⟩
  | items l ends waiting =>
    simp only [StateT.run_bind, Play.emit, StateT.run_modify, pure_bind]
    rw [addTask_fresh _ fresh]
    refine ⟨_, rfl, .of_seen owners waker (.dropped name :: logs) ?_⟩
    exact List.forall_mem_cons.mpr ⟨.inl rfl, fun e mem => .inr (logged e mem)⟩

theorem run_refused {t : Task} {number : Nat} (here : w.task? number = some t)
    (refused : t.job = .refused) :
    StateT.run (Play.run (effort + 1) number) w =
      pure (some (.failure .alreadySending), w) := by
  rw [Play.run]
  simp [StateT.run_bind, here, refused]

theorem task?_updateTask {t : Task} {number : Nat} (here : w.task? number = some t)
    (f : Task → Task) (same : ∀ u, (f u).number = u.number) :
    (w.updateTask number f).task? number = some (f t) := by
  have own : t.number = number := by simpa using List.find?_some here
  have key : (fun u : Task => decide (u.number = number)) ∘
      (fun u => if u.number = number then f u else u) = fun u => decide (u.number = number) := by
    funext u
    by_cases here : u.number = number <;> simp [here, same]
  simp only [World.task?, World.updateTask, List.find?_map]
  rw [key]
  simp [World.task?] at here
  simp [here, own]

theorem poll_refused {t : Task} {number : Nat} (here : w.task? number = some t)
    (refused : t.job = .refused) (free : t.busy = false) (unfinished : t.finished = false) :
    ∃ tasks, StateT.run (Play.poll (effort + 3) number) w =
      pure (.resolved (.failure .alreadySending), { w with tasks }) := by
  have taken := task?_updateTask here (fun t => { t with woken := false, busy := true })
    fun _ => rfl
  have resolved := task?_updateTask taken (fun t => { t with busy := false, finished := true })
    fun _ => rfl
  rw [Play.poll]
  simp only [StateT.run_bind, StateT.run_get, pure_bind, here, free, unfinished, Bool.false_eq_true,
    if_false]
  rw [Play.pollAgain]
  simp only [StateT.run_bind, StateT.run_modify, pure_bind]
  rw [run_refused _ taken refused]
  simp only [pure_bind, StateT.run_get, Option.isSome_some, resolved,
    Bool.not_true, Bool.false_and, Bool.false_eq_true, if_false]
  -- A task that was given up during its poll goes now; a refused one has nothing to give back.
  cases t.givenUp with
  | false => exact ⟨_, rfl⟩
  | true =>
    simp only [StateT.run_bind, if_true]
    rw [Play.release]
    simp only [refused]
    exact ⟨_, rfl⟩

end

end Scenario
end Duplex
