import Duplex.Wire.Endpoint

/-!
What an end of a connection puts on the wire: the frames that it buffers, in their order, one after
the other and cut only by what the pipe has room for. A close is begun by sending one or by taking
in the peer's; until then what an end sends of its own accord is pongs.
-/

namespace Duplex.Wire

/-- A frame as an end in this role sends it. -/
def Role.dress : Role → Frame → Frame
  | .server, f => f
  | .client, f => f.withMask [0, 0, 0, 0]

/-- The frames of the first list in their order and each once, laced with others that may come up by
themselves. -/
inductive Laced (own : Frame → Prop) : List Frame → List Frame → Prop
  | nil : Laced own [] []
  | given {fs gs : List Frame} (laced : Laced own fs gs) (f : Frame) :
    Laced own (fs ++ [f]) (gs ++ [f])
  | own {fs gs : List Frame} (laced : Laced own fs gs) (f : Frame) (mine : own f) :
    Laced own fs (gs ++ [f])

namespace Laced

variable {own : Frame → Prop} {fs gs hs ks : List Frame}

theorem single (own : Frame → Prop) (f : Frame) : Laced own [f] [f] := .given .nil f

theorem append (first : Laced own fs gs) (second : Laced own hs ks) :
    Laced own (fs ++ hs) (gs ++ ks) := by
  induction second with
  | nil => simpa using first
  | given _ f ih =>
    rw [← List.append_assoc, ← List.append_assoc]
    exact ih.given f
  | own _ f mine ih =>
    rw [← List.append_assoc]
    exact ih.own f mine

theorem of_own (mine : ∀ f ∈ gs, own f) : Laced own [] gs := by
  induction gs with
  | nil => exact .nil
  | cons f gs ih =>
    obtain ⟨here, later⟩ := List.forall_mem_cons.mp mine
    exact (Laced.nil.own f here).append (ih later)

theorem mono {other : Frame → Prop} (laced : Laced own fs gs) (weaker : ∀ f, own f → other f) :
    Laced other fs gs := by
  induction laced with
  | nil => exact .nil
  | given _ f ih => exact ih.given f
  | own _ f mine ih => exact ih.own f (weaker f mine)

theorem sublist (laced : Laced own fs gs) : fs.Sublist gs := by
  induction laced with
  | nil => exact .slnil
  | given _ f ih => exact ih.append (.refl [f])
  | own _ f _ ih => exact ih.trans (List.sublist_append_left _ _)

theorem forall_mem {P : Frame → Prop} (laced : Laced own fs gs) (given : ∀ f ∈ fs, P f)
    (mine : ∀ f, own f → P f) : ∀ f ∈ gs, P f := by
  induction laced with
  | nil => simp
  | given _ f ih =>
    obtain ⟨before, last⟩ := List.forall_mem_append.mp given
    exact List.forall_mem_append.mpr ⟨ih before, last⟩
  | own _ f here ih =>
    exact List.forall_mem_append.mpr ⟨ih given, List.forall_mem_singleton.mpr (mine f here)⟩

end Laced

namespace Endpoint

def encode (e : Endpoint) (frames : List Frame) : Octets :=
  frames.flatMap fun f => (e.role.dress f).bytes

theorem opcode_close (body : Option CloseBody) :
    (Frame.ofItem (.close body)).header.opcode = Opcode.close := by
  cases body <;> rfl

def QueuesPongs (e : Endpoint) : Prop := ∀ f ∈ e.queued, f.header.opcode = Opcode.pong

def Endures (e e' : Endpoint) : Prop := e'.stage = e.stage ∨ e'.stage = .terminated

/-- These frames have been buffered, and some bytes been put on the wire. -/
structure Emits (e : Endpoint) (out : Pipe) (frames : List Frame) (e' : Endpoint) (out' : Pipe) :
    Prop where
  role : e'.role = e.role
  wire : ∃ b, out' = { out with content := out.content ++ b } ∧
    b ++ e'.output = e.output ++ e.encode frames

section

variable {e e₁ e₂ : Endpoint} {out out₁ out₂ : Pipe} {fs gs : List Frame}

theorem Endures.refl (e : Endpoint) : Endures e e := .inl rfl

theorem Endures.before {stage : Stage} (kept : Endures e e₁) (here : e₁.stage = stage)
    (going : stage ≠ .terminated) : e.stage = stage := by
  rcases kept with same | ended
  · exact same ▸ here
  · exact absurd (here.symm.trans ended) going

theorem Endures.trans (first : Endures e e₁) (second : Endures e₁ e₂) : Endures e e₂ := by
  rcases second with same | ended
  · rwa [Endures, same]
  · exact .inr ended

theorem Endures.begun (kept : Endures e e₁) (begun : e.stage ≠ .active) : e₁.stage ≠ .active :=
  fun active => begun (kept.before active (by simp))

theorem encode_append (e : Endpoint) (fs gs : List Frame) :
    e.encode (fs ++ gs) = e.encode fs ++ e.encode gs := List.flatMap_append

theorem encode_role (same : e₁.role = e.role) (fs : List Frame) : e₁.encode fs = e.encode fs := by
  rw [encode, encode, same]

theorem Emits.of_same (role : e₁.role = e.role) (output : e₁.output = e.output) :
    Emits e out [] e₁ out := ⟨role, [], by simp, by simp [output, encode]⟩

theorem Emits.trans (first : Emits e out fs e₁ out₁) (second : Emits e₁ out₁ gs e₂ out₂) :
    Emits e out (fs ++ gs) e₂ out₂ := by
  obtain ⟨role, b, rfl, moved⟩ := first
  obtain ⟨role', b', rfl, moved'⟩ := second
  refine ⟨role'.trans role, b ++ b', by simp, ?_⟩
  rw [List.append_assoc, moved', ← List.append_assoc, moved, encode_append, encode_role role,
    List.append_assoc]

theorem buffer_emits (e : Endpoint) (f : Frame) (out : Pipe) :
    Emits e out [f] (e.buffer f) out := by
  refine ⟨rfl, [], by simp, ?_⟩
  cases role : e.role <;> simp [buffer, encode, role, Role.dress]

theorem bufferQueued_emits (e : Endpoint) (out : Pipe) :
    Emits e out e.queued.toList e.bufferQueued out := by
  cases queued : e.queued with
  | none =>
    rw [bufferQueued, queued]
    exact .of_same rfl rfl
  | some f =>
    rw [bufferQueued, queued]
    have emptied : Emits e out [] { e with queued := none } out := .of_same rfl rfl
    exact emptied.trans (buffer_emits _ f out)

theorem bufferQueued_queued (e : Endpoint) : e.bufferQueued.queued = none := by
  unfold bufferQueued
  cases queued : e.queued with
  | none => exact queued
  | some f => rfl

theorem bufferQueued_stage (e : Endpoint) : e.bufferQueued.stage = e.stage := by
  unfold bufferQueued
  cases e.queued <;> rfl

theorem writeOut_emits {r : Flush} (written : e.writeOut out = (e₁, out₁, r)) :
    Emits e out [] e₁ out₁ ∧ e₁.stage = e.stage ∧ e₁.queued = e.queued := by
  unfold writeOut at written
  split at written
  · cases written
    exact ⟨.of_same rfl rfl, rfl, rfl⟩
  split at written
  · cases written
    exact ⟨.of_same rfl rfl, rfl, rfl⟩
  · cases written
    exact ⟨⟨rfl, e.output.take out.room, rfl, by simp [encode]⟩, rfl, rfl⟩

theorem flush_emits {r : Flush} (flushed : e.flush out = (e₁, out₁, r)) :
    Emits e out e.queued.toList e₁ out₁ ∧ Endures e e₁ ∧ e₁.queued = none := by
  rcases written : e.bufferQueued.writeOut out with ⟨e', out', r'⟩
  obtain ⟨writes, stage, queued⟩ := writeOut_emits written
  have emits := (bufferQueued_emits e out).trans writes
  rw [bufferQueued_stage] at stage
  rw [bufferQueued_queued] at queued
  rw [List.append_nil] at emits
  simp only [flush, written] at flushed
  cases r' with
  | done =>
    dsimp only at flushed
    split at flushed
    · cases flushed
      exact ⟨⟨emits.role, emits.wire⟩, .inr rfl, queued⟩
    · cases flushed
      exact ⟨⟨emits.role, emits.wire⟩, .inl stage, queued⟩
  | blocked | finished | failed =>
    cases flushed
    exact ⟨emits, .inl stage, queued⟩

def IsDue (e : Endpoint) (f : Frame) : Prop :=
  f ∈ e.queued ∨ e.stage = .active ∧ f.header.opcode = Opcode.pong

/-- Bytes are moved and frames that are due are buffered; no close is begun. -/
structure Carries (e : Endpoint) (out : Pipe) (e' : Endpoint) (out' : Pipe) : Prop where
  emits : ∃ frames, Emits e out frames e' out' ∧ ∀ f ∈ frames, e.IsDue f
  stage : Endures e e'
  queued : ∀ f ∈ e'.queued, e.IsDue f

theorem Carries.of_same (role : e₁.role = e.role) (output : e₁.output = e.output)
    (stage : Endures e e₁) (queued : e₁.queued = e.queued) : Carries e out e₁ out :=
  ⟨⟨[], .of_same role output, by simp⟩, stage, fun _ mem => .inl (queued ▸ mem)⟩

theorem Carries.refl (e : Endpoint) (out : Pipe) : Carries e out e out :=
  .of_same rfl rfl (.refl e) rfl

theorem Carries.isDue {f : Frame} (carries : Carries e out e₁ out₁) (due : e₁.IsDue f) :
    e.IsDue f := by
  rcases due with queued | ⟨active, pong⟩
  · exact carries.queued f queued
  · exact .inr ⟨carries.stage.before active (by simp), pong⟩

theorem Carries.trans (first : Carries e out e₁ out₁) (second : Carries e₁ out₁ e₂ out₂) :
    Carries e out e₂ out₂ := by
  obtain ⟨fs, emits, due⟩ := first.emits
  obtain ⟨gs, emits', due'⟩ := second.emits
  refine ⟨⟨fs ++ gs, emits.trans emits', ?_⟩, first.stage.trans second.stage,
    fun f mem => first.isDue (second.queued f mem)⟩
  exact List.forall_mem_append.mpr ⟨due, fun f mem => first.isDue (due' f mem)⟩

theorem flush_carries {r : Flush} (flushed : e.flush out = (e₁, out₁, r)) :
    Carries e out e₁ out₁ := by
  obtain ⟨emits, stage, queued⟩ := flush_emits flushed
  exact ⟨⟨_, emits, fun f mem => .inl (by simpa using mem)⟩, stage,
    fun f mem => by simp [queued] at mem⟩

def SameButInput (e e₁ : Endpoint) : Prop :=
  ∃ input header, e₁ = { e with input, header }

theorem SameButInput.refl (e : Endpoint) : SameButInput e e := ⟨_, _, rfl⟩

theorem SameButInput.trans (first : SameButInput e e₁) (second : SameButInput e₁ e₂) :
    SameButInput e e₂ := by
  obtain ⟨_, _, rfl⟩ := first
  obtain ⟨_, _, rfl⟩ := second
  exact ⟨_, _, rfl⟩

theorem parse_same {p : Parsed} (parsed : e.parse = (e₁, p)) : SameButInput e e₁ := by
  simp only [parse] at parsed
  split at parsed
  · cases parsed
    exact .refl e
  · rename_i e₂ headed
    have before : SameButInput e e₂ := by
      repeat' split at headed
      all_goals first
        | cases headed
          exact ⟨_, _, rfl⟩
        | simp at headed
    refine before.trans ?_
    split at parsed
    · cases parsed
      exact .refl _
    · split at parsed
      · cases parsed
        exact .refl _
      · cases parsed
        exact ⟨_, _, rfl⟩

theorem nextFrame_same {inp inp₁ : Pipe} {p : Parsed} {last : Bool}
    (next : e.nextFrame inp = (e₁, inp₁, p, last)) : SameButInput e e₁ := by
  rcases first : e.parse with ⟨e', p'⟩
  have before := parse_same first
  simp only [nextFrame, first] at next
  cases p' with
  | incomplete =>
    have filled (input : Backlog) : SameButInput e' { e' with input } := ⟨_, _, rfl⟩
    refine (before.trans (filled (e'.input.push (inp.read none).1))).trans ?_
    rcases second : Endpoint.parse { e' with input := e'.input.push (inp.read none).1 }
      with ⟨e'', p''⟩
    have after := parse_same second
    simp only [second] at next
    cases p'' <;> cases next <;> exact after
  | frame | failed =>
    cases next
    exact before

theorem SameButInput.carries (same : SameButInput e e₁) : Carries e out e₁ out := by
  obtain ⟨input, header, rfl⟩ := same
  exact .of_same rfl rfl (.inl rfl) rfl

theorem queue_stage (e : Endpoint) (f : Frame) : (e.queue f).stage = e.stage := by
  unfold queue
  repeat' split
  all_goals rfl

theorem queue_carries {f : Frame} (active : e.stage = .active)
    (pong : f.header.opcode = Opcode.pong) : Carries e out (e.queue f) out := by
  have queued : Carries e out { e with queued := some f } out := by
    refine ⟨⟨[], .of_same rfl rfl, by simp⟩, .inl rfl, fun g mem => ?_⟩
    obtain rfl : f = g := by simpa using mem
    exact .inr ⟨active, pong⟩
  unfold queue
  repeat' split
  · exact queued
  · exact queued
  · exact .refl e out

/-- What a reading comes to: no close is begun, or the peer's close is taken in. -/
inductive Reads (e : Endpoint) (out : Pipe) : Endpoint → Pipe → Option Item → Prop
  | open_ {e₁ : Endpoint} {out₁ : Pipe} (item : Option Item) (carries : Carries e out e₁ out₁)
    (other : ∀ body, item ≠ some (.close body)) : Reads e out e₁ out₁ item
  | answers {e₁ : Endpoint} {out₁ : Pipe} (body : Option CloseBody)
    (carries : Carries e out e₁ out₁) (active : e₁.stage = .active) :
    Reads e out ({ e₁ with stage := .closedByPeer }.queue (.ofItem (.close body))) out₁
      (some (.close body))
  | acknowledges {e₁ : Endpoint} {out₁ : Pipe} (body : Option CloseBody)
    (carries : Carries e out e₁ out₁) (ours : e₁.stage = .closedByUs) :
    Reads e out { e₁ with stage := .closeAcknowledged } out₁ (some (.close body))

theorem Reads.after {item : Option Item} (first : Carries e out e₁ out₁)
    (second : Reads e₁ out₁ e₂ out₂ item) : Reads e out e₂ out₂ item := by
  cases second with
  | open_ _ carries other => exact .open_ _ (first.trans carries) other
  | answers body carries active => exact .answers body (first.trans carries) active
  | acknowledges body carries ours => exact .acknowledges body (first.trans carries) ours

theorem onClose_reads {body : Option CloseBody} {item : Option Item}
    (closes : e.onClose body = (e₁, item)) : Reads e out e₁ out item := by
  unfold onClose at closes
  split at closes
  · cases closes
    exact .answers _ (.refl e out) ‹_›
  · cases closes
    exact .acknowledges body (.refl e out) ‹_›
  · cases closes
    exact .open_ _ (.refl e out) (by simp)

theorem onControl_reads {f : Frame} {item : Option Item}
    (understood : e.onControl f = .ok (e₁, item)) : Reads e out e₁ out item := by
  simp only [onControl] at understood
  split at understood
  · simp at understood
  split at understood
  · simp at understood
  split at understood
  · cases body : closeBody? f.payload with
    | error => simp [body, Except.map] at understood
    | ok body' =>
      simp only [body, Except.map, Except.ok.injEq] at understood
      exact onClose_reads understood
  split at understood
  · cases understood
    refine .open_ _ ?_ (by simp)
    split
    · exact queue_carries ‹_› rfl
    · exact .refl e out
  · cases understood
    exact .open_ _ (.refl e out) (by simp)

theorem complete_data {f : Fragments} {item : Item} (completed : f.complete = .ok item) :
    ∀ body, item ≠ .close body := by
  rintro body rfl
  unfold Fragments.complete at completed
  repeat' split at completed
  all_goals simp at completed

theorem onData_reads {f : Frame} {item : Option Item}
    (understood : e.onData f = .ok (e₁, item)) : Reads e out e₁ out item := by
  have fragmented (g : Option Fragments) : Carries e out { e with fragments := g } out :=
    .of_same rfl rfl (.inl rfl) rfl
  simp only [onData, bind, Except.bind] at understood
  repeat' split at understood
  all_goals simp only [Except.ok.injEq, Prod.mk.injEq, reduceCtorEq] at understood
  all_goals obtain ⟨rfl, rfl⟩ := understood
  · exact .open_ _ (fragmented _) (by simpa using complete_data ‹_›)
  · exact .open_ _ (fragmented _) (by simp)
  · exact .open_ _ (.refl e out) (by simp)
  · exact .open_ _ (.refl e out) (by simp)
  · exact .open_ _ (fragmented _) (by simp)

theorem onFrame_reads {f : Frame} {item : Option Item}
    (understood : e.onFrame f = .ok (e₁, item)) : Reads e out e₁ out item := by
  unfold onFrame at understood
  repeat' split at understood
  all_goals first
    | exact onControl_reads understood
    | exact onData_reads understood
    | simp at understood

theorem onEnd_carries {r : Read} (ended : e.onEnd = (e₁, r)) :
    Carries e out e₁ out ∧ ∀ item, r ≠ .item item := by
  unfold onEnd at ended
  split at ended
  all_goals
    cases ended
    exact ⟨.of_same rfl rfl (.inr rfl) rfl, by simp⟩

def Read.item? : Read → Option Item
  | .item i => some i
  | _ => none

theorem Carries.reads {r : Read} (carries : Carries e out e₁ out₁)
    (other : ∀ item, r ≠ .item item) : Reads e out e₁ out₁ r.item? := by
  cases r with
  | item i => exact absurd rfl (other i)
  | _ => exact .open_ _ carries (by simp [Read.item?])

theorem ended_carries (e : Endpoint) (out : Pipe) (ended : Bool) :
    Carries e out { e with ended } out := .of_same rfl rfl (.inl rfl) rfl

theorem readFrames_reads {inp inp₁ : Pipe} {r : Read} {fuel : Nat}
    (read : e.readFrames inp out fuel = (e₁, inp₁, out₁, r)) : Reads e out e₁ out₁ r.item? := by
  induction fuel generalizing e inp out with
  | zero =>
    cases read
    exact (Carries.refl ..).reads (by simp)
  | succ fuel ih =>
    simp only [readFrames] at read
    split at read
    · have ended : Carries e out { e with stage := .terminated } out :=
        .of_same rfl rfl (.inr rfl) rfl
      cases read
      exact ended.reads (by simp)
    generalize first : (if (e.queued.isSome || e.unflushed) = true then e.flush out
      else (e, out, Flush.done)) = w at read
    obtain ⟨e', out', f⟩ := w
    have moved : Carries e out e' out' := by
      split at first
      · exact flush_carries first
      · cases first
        exact .refl e out
    have marked : Carries e out
        (if f = .blocked then { e' with unflushed := true } else e') out' := by
      split
      · exact moved.trans (.of_same rfl rfl (.inl rfl) rfl)
      · exact moved
    dsimp only at read
    split at read
    · cases read
      exact moved.reads (by simp)
    · cases read
      exact moved.reads (by simp)
    split at read
    all_goals
      rename_i next
      have parsed := marked.trans (nextFrame_same next).carries
    · cases read
      exact parsed.reads (by simp)
    · cases read
      obtain ⟨ends, other⟩ := onEnd_carries rfl
      exact (parsed.trans ends).reads other
    · cases read
      exact parsed.reads (by simp)
    · split at read
      all_goals rename_i understood
      · cases read
        exact parsed.reads (by simp)
      · cases read
        exact .after parsed (onFrame_reads understood)
      · cases onFrame_reads understood with
        | open_ _ carries => exact .after (parsed.trans carries) (ih read)

theorem read_reads {inp inp₁ : Pipe} {r : Read} (read : e.read inp out = (e₁, inp₁, out₁, r)) :
    Reads e out e₁ out₁ r.item? := by
  unfold Endpoint.read at read
  split at read
  · cases read
    exact (ended_carries e out true).reads (by simp)
  split at read
  all_goals try
    rename_i frames
    cases read
    cases readFrames_reads frames with
    | open_ _ carries => exact (carries.trans (ended_carries _ _ true)).reads (by simp)
  exact readFrames_reads read

theorem queue_emits (e : Endpoint) (f : Frame) (out : Pipe) : Emits e out [] (e.queue f) out := by
  unfold queue
  repeat' split
  all_goals exact .of_same rfl rfl

theorem Reads.emits {item : Option Item} (reads : Reads e out e₁ out₁ item) :
    ∃ frames, Emits e out frames e₁ out₁ ∧ ∀ f ∈ frames, e.IsDue f := by
  have staged (e : Endpoint) (stage : Stage) : Emits e out₁ [] { e with stage } out₁ :=
    .of_same rfl rfl
  cases reads with
  | open_ _ carries => exact carries.emits
  | @answers e' _ body carries =>
    obtain ⟨frames, emits, due⟩ := carries.emits
    have queues := (staged e' .closedByPeer).trans (queue_emits _ (.ofItem (.close body)) out₁)
    exact ⟨frames, by simpa using emits.trans queues, due⟩
  | acknowledges _ carries =>
    obtain ⟨frames, emits, due⟩ := carries.emits
    exact ⟨frames, by simpa using emits.trans (staged _ .closeAcknowledged), due⟩

theorem queue_cases {f g : Frame} (queued : g ∈ (e.queue f).queued) : g = f ∨ g ∈ e.queued := by
  unfold queue at queued
  split at queued
  · exact .inl (Option.some.inj queued).symm
  · split at queued
    · exact .inl (Option.some.inj queued).symm
    · exact .inr queued

theorem Reads.queued {item : Option Item} (reads : Reads e out e₁ out₁ item) :
    ∀ f ∈ e₁.queued, e.IsDue f ∨ ∃ body, f = .ofItem (.close body) := by
  intro f mem
  cases reads with
  | open_ _ carries | acknowledges _ carries => exact .inl (carries.queued f mem)
  | answers body carries =>
    rcases queue_cases mem with rfl | before
    · exact .inr ⟨body, rfl⟩
    · exact .inl (carries.queued f before)

theorem Reads.carries {item : Option Item} (reads : Reads e out e₁ out₁ item)
    (active : e₁.stage = .active) : e.stage = .active ∧ Carries e out e₁ out₁ := by
  cases reads with
  | open_ _ carries =>
    exact ⟨carries.stage.before active (by simp), carries⟩
  | answers => simp [queue_stage] at active
  | acknowledges => simp at active

theorem Reads.ours {item : Option Item} (reads : Reads e out e₁ out₁ item)
    (ours : e₁.stage = .closedByUs) : e.stage = .closedByUs := by
  cases reads with
  | open_ _ carries => exact carries.stage.before ours (by simp)
  | answers => simp [queue_stage] at ours
  | acknowledges => simp at ours

theorem Reads.close_stage {body : Option CloseBody}
    (reads : Reads e out e₁ out₁ (some (.close body))) :
    e.stage = .active ∨ e.stage = .closedByUs := by
  cases reads with
  | open_ _ _ other => exact absurd rfl (other body)
  | answers _ carries active => exact .inl (carries.stage.before active (by simp))
  | acknowledges _ carries ours => exact .inr (carries.stage.before ours (by simp))

theorem queue_queued {f : Frame} (pongs : e.QueuesPongs) :
    (e.queue f).queued = some f := by
  cases queued : e.queued with
  | none => simp [queue, queued]
  | some g =>
    have pong := pongs g (by simp [queued])
    simp [queue, queued, pong]

theorem Reads.answer {body : Option CloseBody} (reads : Reads e out e₁ out₁ (some (.close body)))
    (active : e.stage = .active) (pongs : e.QueuesPongs) :
    e₁.stage = .closedByPeer ∧ e₁.queued = some (.ofItem (.close body)) := by
  cases reads with
  | open_ _ _ other => exact absurd rfl (other body)
  | answers _ carries =>
    refine ⟨queue_stage _ _, queue_queued fun g mem => ?_⟩
    rcases carries.queued g mem with queued | ⟨-, pong⟩
    · exact pongs g queued
    · exact pong
  | acknowledges _ carries ours =>
    simp [carries.stage.before ours (by simp)] at active

theorem Reads.idle {item : Option Item} (reads : Reads e out e₁ out₁ item)
    (begun : e.stage ≠ .active) (idle : e.queued = none) :
    e₁.stage ≠ .active ∧ e₁.queued = none ∧ Emits e out [] e₁ out₁ := by
  have undue : ∀ f, ¬ e.IsDue f := by simp [IsDue, begun, idle]
  have empty {e' : Endpoint} (carries : Carries e out e' out₁) : e'.queued = none := by
    cases queued : e'.queued with
    | none => rfl
    | some f => exact absurd (carries.queued f (by simp [queued])) (undue f)
  obtain ⟨frames, emits, due⟩ := reads.emits
  have none_due : frames = [] := List.eq_nil_iff_forall_not_mem.mpr fun f mem => undue f (due f mem)
  subst none_due
  refine ⟨fun active => begun (reads.carries active).1, ?_, emits⟩
  cases reads with
  | open_ _ carries => exact empty carries
  | acknowledges _ carries =>
    have before := empty carries
    exact before
  | answers _ carries active => exact absurd (carries.stage.before active (by simp)) begun

theorem send_refused (begun : e.stage ≠ .active) (item : Item) (out : Pipe) :
    ∃ f, e.send item out = (e, out, some f) := by
  unfold send
  split
  · exact ⟨_, rfl⟩
  · contradiction
  · exact ⟨_, rfl⟩

theorem writeOut_result {r : Flush} (written : e.writeOut out = (e₁, out₁, r)) :
    (r = .done → e₁.output = []) ∧ (∀ f, r = .failed f → out.closed) ∧ r ≠ .finished := by
  unfold writeOut at written
  split at written
  · rename_i empty
    cases written
    simpa using empty
  split at written
  · rename_i closed
    cases written
    simpa using closed
  · cases written
    split
    · rename_i rest
      simpa using rest
    · simp

theorem flush_result {r : Flush} (flushed : e.flush out = (e₁, out₁, r)) :
    (r = .done ∨ r = .finished → e₁.output = []) ∧ (∀ f, r = .failed f → out.closed) := by
  rcases written : e.bufferQueued.writeOut out with ⟨e', out', r'⟩
  obtain ⟨empty, closed, unfinished⟩ := writeOut_result written
  simp only [flush, written] at flushed
  cases r' with
  | done =>
    have nothing : e'.output = [] := empty rfl
    dsimp only at flushed
    split at flushed
    all_goals
      cases flushed
      simpa using nothing
  | finished => exact absurd rfl unfinished
  | blocked =>
    cases flushed
    simp
  | failed =>
    cases flushed
    simpa using closed

structure Sends (e : Endpoint) (item : Item) (out : Pipe) (e' : Endpoint) (out' : Pipe) : Prop where
  stage : e'.stage = .active ∨ e'.stage = .terminated
  queued : e'.queued = none
  emits : ∃ frames, Emits e out frames e' out' ∧
    (e.QueuesPongs → Laced e.IsDue [.ofItem item] frames)

theorem sends_bufferQueued {item : Item} {frames : List Frame} (emits : Emits e out frames e₁ out₁)
    (laced : e.QueuesPongs → Laced e.IsDue [.ofItem item] (frames ++ e₁.queued.toList))
    (active : e₁.stage = .active) : Sends e item out e₁.bufferQueued out₁ :=
  ⟨.inl ((bufferQueued_stage e₁).trans active), bufferQueued_queued e₁, _,
    emits.trans (bufferQueued_emits e₁ out₁), laced⟩

theorem Sends.flush {item : Item} {r : Flush} (sends : Sends e item out e₁ out₁)
    (flushed : e₁.flush out₁ = (e₂, out₂, r)) : Sends e item out e₂ out₂ := by
  obtain ⟨frames, emits, laced⟩ := sends.emits
  obtain ⟨moves, stage, queued⟩ := flush_emits flushed
  rw [sends.queued] at moves
  refine ⟨?_, queued, frames, by simpa using emits.trans moves, laced⟩
  rcases stage with same | ended
  · rw [same]
    exact sends.stage
  · exact .inr ended

theorem laced_queued (e : Endpoint) : Laced e.IsDue [] e.queued.toList :=
  .of_own fun f mem => .inl (by simpa using mem)

theorem send_sends {item : Item} {r : Option WebSocketFault} (active : e.stage = .active)
    (other : ∀ body, item ≠ .close body)
    (sent : e.send item out = (e₁, out₁, r)) : Sends e item out e₁ out₁ := by
  have data : Sends e item out (e.buffer (.ofItem item)).bufferQueued out :=
    sends_bufferQueued (buffer_emits ..)
      (fun _ => (Laced.single _ _).append (laced_queued e)) active
  simp only [send, active] at sent
  cases item with
  | close body => exact absurd rfl (other body)
  | pong b =>
    have still := (queue_stage e (.ofItem (.pong b))).trans active
    cases sent
    refine sends_bufferQueued (queue_emits ..) (fun pongs => ?_) still
    rw [queue_queued pongs]
    exact .single _ _
  | text | binary | ping =>
    dsimp only at sent
    split at sent
    · split at sent
      all_goals
        rename_i flushed
        cases sent
        exact data.flush flushed
    · cases sent
      exact data

theorem send_close {body : Option CloseBody} {r : Option WebSocketFault}
    (active : e.stage = .active) (sent : e.send (.close body) out = (e₁, out₁, r)) :
    e₁.stage ≠ .active ∧ e₁.queued = none ∧ (r ≠ none → out.closed) ∧
      ∃ frames, Emits e out frames e₁ out₁ ∧ Laced e.IsDue [.ofItem (.close body)] frames := by
  have begun : Emits e out [] { e with stage := .closedByUs } out := .of_same rfl rfl
  have buffered := (begun.trans (buffer_emits _ (.ofItem (.close body)) out)).trans
    (bufferQueued_emits _ out)
  simp only [send, active] at sent
  rcases flushed : Endpoint.flush (bufferQueued (buffer { e with stage := .closedByUs }
    (.ofItem (.close body)))) out with ⟨e₂, out₂, f⟩
  obtain ⟨moves, stage, queued⟩ := flush_emits flushed
  rw [bufferQueued_queued] at moves
  have emits := buffered.trans moves
  have laced : Laced e.IsDue [.ofItem (.close body)] ([.ofItem (.close body)] ++ e.queued.toList) :=
    (Laced.single _ _).append (laced_queued e)
  obtain ⟨-, closed⟩ := flush_result flushed
  have parted : e₂.stage ≠ .active := by
    refine stage.begun ?_
    rw [bufferQueued_stage]
    simp [buffer]
  simp only [if_true, flushed] at sent
  cases f with
  | failed f =>
    cases sent
    exact ⟨parted, queued, fun _ => closed f rfl, _, emits, by simpa [buffer] using laced⟩
  | done | blocked | finished =>
    cases sent
    exact ⟨parted, queued, by simp, _, emits, by simpa [buffer] using laced⟩

theorem send_laced {item : Item} (pongs : e.stage = .active → e.QueuesPongs)
    (sent : e.send item out = (e₁, out₁, none)) :
    e₁.queued = none ∧ ∃ frames, Emits e out frames e₁ out₁ ∧
      Laced e.IsDue [.ofItem item] frames := by
  by_cases active : e.stage = .active
  · by_cases close : ∃ body, item = .close body
    · obtain ⟨body, rfl⟩ := close
      obtain ⟨-, idle, -, emits⟩ := send_close active sent
      exact ⟨idle, emits⟩
    · obtain ⟨-, idle, frames, emits, laced⟩ := send_sends active (by simpa using close) sent
      exact ⟨idle, frames, emits, laced (pongs active)⟩
  · obtain ⟨f, refused⟩ := send_refused active item out
    rw [refused] at sent
    cases sent

theorem send_emits {item : Item} {r : Option WebSocketFault}
    (sent : e.send item out = (e₁, out₁, r)) : ∃ frames, Emits e out frames e₁ out₁ := by
  by_cases active : e.stage = .active
  · by_cases close : ∃ body, item = .close body
    · obtain ⟨body, rfl⟩ := close
      obtain ⟨-, -, -, frames, emits, -⟩ := send_close active sent
      exact ⟨frames, emits⟩
    · obtain ⟨frames, emits, -⟩ := (send_sends active (by simpa using close) sent).emits
      exact ⟨frames, emits⟩
  · obtain ⟨f, refused⟩ := send_refused active item out
    rw [refused] at sent
    cases sent
    exact ⟨[], .of_same rfl rfl⟩

end

end Endpoint
end Duplex.Wire
