import Duplex.Scenario.Aside

/-!
Plays a scenario's steps. An operation of the session is run until it answers; whatever it asks of
its surroundings on the way is served first, which may begin further operations. Every function here
spends one unit of effort before it calls another.
-/

namespace Duplex.Scenario

namespace Play

def emit (e : Event) : Play Unit := modify fun w => w.emit e

def handleNamed (name : String) : Play Handle := update fun w => w.handle name

def script : Play Script := do
  match (← get).transport with
  | .script s => pure s
  | .line _ => pure {}

def hook (f : Hooks → List (List Step)) (n : Nat) : Play (List Step) := do
  return ((f (← script).hooks)[n]?).getD []

mutual

def operate : Nat → Op → Play Reply
  | 0, _ => pure .unit
  | effort + 1, op => do
    modify fun w => { w with machine := w.machine.start op }
    proceed effort

def proceed : Nat → Play Reply
  | 0 => pure .unit
  | effort + 1 => do
    let w ← get
    match w.machine.advance with
    | some (machine, notices) =>
      match ← update fun w => { w with machine }.noteAll notices with
      | some r => pure r
      | none => proceed effort
    | none =>
      match w.machine.call? with
      | none => pure .unit
      | some c =>
        let a ← serve effort c
        modify fun w => { w with machine := w.machine.answer a }
        proceed effort

def serve : Nat → Call → Play Answer
  | 0, _ => pure .done
  | effort + 1, c => do
    match c with
    | .wake id =>
      wake effort id
      pure .done
    | .pull _ => pull effort
    | c =>
      match (← get).transport with
      | .script _ => act effort c
      | .line _ =>
        if Link.lowersReadiness c then
          let _ ← operate effort (.setReady false)
        match (← get).transport with
        | .script _ => pure .done
        | .line l =>
          let (link, a) := l.link.carryOut c
          modify fun w => w.place link
          pure a

def act : Nat → Call → Play Answer
  | 0, _ => pure .done
  | effort + 1, c => do
    let n := (← get).calls
    match c with
    | .suspend =>
      emit .suspended
      modify fun w => { w with calls := { n with suspend := n.suspend + 1 } }
      takeSteps effort (← hook Hooks.suspend n.suspend)
      pure .done
    | .resume =>
      emit .resumed
      modify fun w => { w with calls := { n with resume := n.resume + 1 } }
      takeSteps effort (← hook Hooks.resume n.resume)
      pure .done
    | .write m =>
      emit (.wrote m)
      modify fun w => { w with calls := { n with write := n.write + 1 } }
      let script ← script
      let behaviour := (script.writes[n.write]?).getD script.otherWrites
      match behaviour with
      | .later =>
        let _ ← operate effort (.setReady false)
        modify fun w => { w with unfinished := w.unfinished + 1 }
      | .cycle =>
        let _ ← operate effort (.setReady false)
        let _ ← operate effort (.setReady true)
      | .lower =>
        let _ ← operate effort (.setReady false)
      | .accept | .reject | .fail _ => pure ()
      takeSteps effort (← hook Hooks.write n.write)
      match behaviour with
      | .reject => pure (.written false)
      | .fail e => pure (.failed e)
      | _ => pure (.written true)
    | .close s =>
      emit (.closed s)
      modify fun w => { w with calls := { n with close := n.close + 1 } }
      takeSteps effort (← hook Hooks.close n.close)
      match (← script).closeFault with
      | some e => pure (.failed e)
      | none => pure .done
    | .wake _ | .pull _ => pure .done

def takeSteps : Nat → List Step → Play Unit
  | 0, _ => pure ()
  | _ + 1, [] => pure ()
  | effort + 1, s :: rest => do
    let r ← take effort s
    emit (.did s.name r)
    takeSteps effort rest

def pull : Nat → Play Answer
  | 0 => pure .pending
  | effort + 1 => do
    match (← get).attached? with
    | none => pure .pending
    | some u =>
      match u.source with
      | .echo =>
        match ← operate effort (.pull (.waiting u.waker)) with
        | .pulled (.item m) => pure (.item m)
        | .pulled .ended => pure .ended
        | .pulled (.failed _) => pull effort
        | _ => pure .pending
      | .items [] true _ =>
        emit (.pulled u.task .ended)
        pure .ended
      | .items [] false _ =>
        modify fun w => w.setSource u.number (.items [] false true)
        emit (.pulled u.task .pending)
        pure .pending
      | .items (.pause :: rest) ends waiting =>
        modify fun w => w.setSource u.number (.items rest ends waiting)
        wake effort u.waker
        emit (.pulled u.task .paused)
        pure .pending
      | .items (.item m steps :: rest) ends waiting =>
        modify fun w => w.setSource u.number (.items rest ends waiting)
        takeSteps effort steps
        emit (.pulled u.task .item)
        pure (.item m)

def wake : Nat → Waker → Play Unit
  | 0, _ => pure ()
  | effort + 1, id => do
    let w ← get
    match w.owners[id]? with
    | some (.handle name) =>
      modify fun w => w.updateHandle name fun h => { h with woken := true }
      if let some h := w.handle? name then
        if h.consuming then consume effort name
    | some (.task name) =>
      if let some t := w.taskNamed? name then
        if !t.finished then
          modify fun w => w.updateTask t.number fun t => { t with woken := true }
          if t.eager && !t.busy then
            let p ← poll effort t.number
            if w.showsPoll p then emit (.polled name p)
    | none => pure ()

def poll : Nat → Nat → Play Polled
  | 0, _ => pure .absent
  | effort + 1, number => do
    match (← get).task? number with
    | none => pure .absent
    | some t =>
      if t.busy then pure .busy
      else if t.finished then pure .done
      else pollAgain effort number 64

def pollAgain : Nat → Nat → Nat → Play Polled
  | 0, _, _ => pure .pending
  | effort + 1, number, times => do
    modify fun w => w.updateTask number fun t => { t with woken := false, busy := true }
    let o ← run effort number
    modify fun w => w.updateTask number fun t => { t with busy := false, finished := o.isSome }
    match (← get).task? number with
    | none => pure .pending
    | some t =>
      if !t.finished && !t.givenUp && t.eager && t.woken && times ≠ 0 then
        pollAgain effort number (times - 1)
      else
        if t.givenUp then release effort t
        match o with
        | some o => pure (.resolved o)
        | none => pure .pending

def run : Nat → Nat → Play (Option Outcome)
  | 0, _ => pure none
  | effort + 1, number => do
    match (← get).task? number with
    | none => pure none
    | some t =>
      match t.job with
      | .send =>
        match ← operate effort (.poll t.waker) with
        | .polled o => pure o
        | _ => pure none
      | .refused => pure (some (.failure .alreadySending))
      | .handler begun steps result waiting =>
        if !begun then
          modify fun w => w.updateTask number fun t =>
            { t with job := .handler true steps result waiting }
          let _ ← operate effort .beginHandler
          takeSteps effort steps
        match (← get).task? number with
        | some { job := .handler _ _ (some o) _, .. } =>
          let _ ← operate effort (.endHandler o)
          pure (some o)
        | some { job := .handler _ _ none _, .. } =>
          modify fun w => w.updateTask number fun t =>
            { t with job := .handler true steps none true }
          pure none
        | _ => pure none

def pollHandle : Nat → String → Play Pull
  | 0, _ => pure .nothing
  | effort + 1, name => do
    let h ← handleNamed name
    modify fun w => w.updateHandle name fun h => { h with woken := false }
    match ← operate effort (.pull (.waiting h.waker)) with
    | .pulled p => pure p
    | _ => pure .nothing

def drain : Nat → String → Play (List Pull)
  | 0, _ => pure []
  | effort + 1, name => do
    match ← pollHandle effort name with
    | .nothing => pure [.nothing]
    | .ended => pure [.ended]
    | p => return p :: (← drain effort name)

def consume : Nat → String → Play Unit
  | 0, _ => pure ()
  | effort + 1, name => do
    let h ← handleNamed name
    if !h.busy then
      modify fun w => w.updateHandle name fun h => { h with busy := true }
      consumeAll effort name
      modify fun w => w.updateHandle name fun h => { h with busy := false }

def consumeAll : Nat → String → Play Unit
  | 0, _ => pure ()
  | effort + 1, name => do
    match ← pollHandle effort name with
    | .nothing => pure ()
    | .ended =>
      modify fun w => w.updateHandle name fun h => { h with consuming := false }
      emit (.consumed name .ended)
    | p =>
      emit (.consumed name p)
      consumeAll effort name

def addTask : Nat → Task → Play Unit
  | 0, _ => pure ()
  | effort + 1, t => do
    let _ ← dropTask effort t.name
    modify fun w => { w with tasks := w.tasks ++ [t] }

def dropTask : Nat → String → Play Bool
  | 0, _ => pure false
  | effort + 1, name => do
    match (← get).taskNamed? name with
    | none => pure false
    | some t =>
      if t.busy then modify fun w => w.updateTask t.number fun t => { t with givenUp := true }
      else release effort t
      pure true

def release : Nat → Task → Play Unit
  | 0, _ => pure ()
  | effort + 1, t => do
    match t.job with
    | .send =>
      if !t.finished then
        let _ ← operate effort .abandon
    | .refused | .handler _ _ _ _ => pure ()
    modify fun w => { w with tasks := w.tasks.filter fun t' => t'.number ≠ t.number }

def send : Nat → String → Bool → Source → Play Unit
  | 0, _, _, _ => pure ()
  | effort + 1, name, eager, source => do
    let waker ← update (World.wakerOf · (.task name))
    let number ← update World.fresh
    let attached := match ← operate effort .send with
      | .attached b => b
      | _ => false
    modify fun w =>
      { w with supplies := w.supplies ++ [{ number, waker, task := name, attached, source }] }
    if attached then addTask effort { number, waker, name, eager, job := .send }
    else
      match source with
      | .echo => pure ()
      | .items _ _ _ => emit (.dropped name)
      addTask effort { number, waker, name, eager, job := .refused }

def stock : Nat → String → (List (Feed Step) → Bool → List (Feed Step) × Bool) → Play Unit
  | 0, _, _ => pure ()
  | effort + 1, name, f => do
    match (← get).supplyNamed? name with
    | some { number, waker, source := .items l ends waiting, .. } =>
      let (l, ends) := f l ends
      modify fun w => w.setSource number (.items l ends false)
      if waiting then wake effort waker
    | _ => pure ()

def resolve : Nat → String → Outcome → Play Unit
  | 0, _, _ => pure ()
  | effort + 1, name, o => do
    match (← get).taskNamed? name with
    | some { number, waker, job := .handler begun steps _ waiting, .. } =>
      modify fun w => w.updateTask number fun t =>
        { t with job := .handler begun steps (some o) false }
      if waiting then wake effort waker
    | _ => pure ()

def take : Nat → Step → Play Result
  | 0, _ => pure .nothing
  | effort + 1, s => do
    match s with
    | .completeWrite =>
      let w ← get
      if w.unfinished = 0 then pure (.flag false)
      else
        set { w with unfinished := w.unfinished - 1 }
        let _ ← operate effort (.setReady true)
        pure (.flag true)
    | .tryNext name =>
      let _ ← handleNamed name
      match ← operate effort (.pull .once) with
      | .pulled p => pure (.tried p)
      | _ => pure (.tried .nothing)
    | .pollNext name => return .pulled (← pollHandle effort name)
    | .drain name => return .drained (← drain effort name)
    | .consume name =>
      let _ ← handleNamed name
      modify fun w => w.updateHandle name fun h => { h with consuming := true }
      consume effort name
      pure .nothing
    | .sendEcho name eager =>
      send effort name eager .echo
      pure .nothing
    | .sendItems name eager items ends =>
      send effort name eager (.items items ends false)
      pure .nothing
    | .push name item =>
      stock effort name fun l ends => (l ++ [item], ends)
      pure .nothing
    | .finish name =>
      stock effort name fun l _ => (l, true)
      pure .nothing
    | .poll name =>
      match (← get).taskNamed? name with
      | some t => return .polled (← poll effort t.number)
      | none => pure (.polled .absent)
    | .dropTask name => return .flag (← dropTask effort name)
    | .handler name eager steps result =>
      let waker ← update (World.wakerOf · (.task name))
      let number ← update World.fresh
      addTask effort { number, waker, name, eager, job := .handler false steps result false }
      pure .nothing
    | .resolve name o =>
      resolve effort name o
      pure .nothing
    | .close => closeSession effort .normal
    | .closeWith status => closeSession effort status
    | s =>
      match s.op? with
      | some op =>
        let _ ← operate effort op
        pure .nothing
      | none => update fun w => w.glance s

def closeSession : Nat → CloseStatus → Play Result
  | 0, _ => pure .nothing
  | effort + 1, s => do
    match ← operate effort (.close s) with
    | .closed o => pure (.outcome o)
    | _ => pure .nothing

end

end Play
end Duplex.Scenario
