import Duplex.Fault
import Duplex.Wire.Backlog
import Duplex.Wire.Frame
import Duplex.Wire.Pipe

/-!
One end of a WebSocket connection. It checks and joins what it reads, answers pings and closes with
frames that wait for the next opportunity to write, and keeps what the pipe has no room for.
-/

namespace Duplex.Wire

inductive Role
  | server | client
  deriving Repr, DecidableEq

inductive Stage
  | active
  | closedByUs
  | closedByPeer
  | closeAcknowledged
  | terminated
  deriving Repr, DecidableEq

def Stage.canRead : Stage → Bool
  | .active | .closedByUs => true
  | _ => false

inductive Fragments
  | text (scan : Utf8.Scan)
  | binary (data : Octets)
  deriving Repr, DecidableEq

structure Endpoint where
  role : Role
  stage : Stage := .active
  input : Backlog := {}
  header : Option Header := none
  fragments : Option Fragments := none
  output : Octets := []
  queued : Option Frame := none
  unflushed : Bool := false
  ended : Bool := false
  deriving Repr, DecidableEq

def frameLimit : Nat := 16 * 1024 * 1024

def controlLimit : Nat := 125

namespace Fragments

def brokenText : WebSocketFault := .utf8 (Utf8.replacement.toString)

def extend (f : Fragments) (b : Octets) : Except WebSocketFault Fragments :=
  match f with
  | .binary data => .ok (.binary (data ++ b))
  | .text scan =>
    let scan := b.foldl Utf8.Scan.push scan
    if scan.pieces.any fun p => match p with
      | .broken _ => true
      | .scalar _ => false
    then .error brokenText
    else .ok (.text scan)

def unfinished (p : Utf8.Begun) : WebSocketFault :=
  let seen := p.seen.reverse.map fun b => toString b.toNat
  let buffer := seen ++ List.replicate (4 - seen.length) "0"
  .utf8 ("incomplete string: " ++ Text.record "Incomplete"
    [("buffer", "[" ++ ", ".intercalate buffer ++ "]"), ("buffer_len", toString seen.length)])

def complete (f : Fragments) : Except WebSocketFault Item :=
  match f with
  | .binary data => .ok (.binary data)
  | .text scan =>
    match scan.begun with
    | some p => .error (unfinished p)
    | none => .ok (.text (String.ofList (scan.pieces.reverse.map Utf8.Piece.char)))

end Fragments

namespace Endpoint

/-- Queues a frame to be written at the next opportunity. A queued close is never replaced. -/
def queue (e : Endpoint) (f : Frame) : Endpoint :=
  match e.queued with
  | none => { e with queued := some f }
  | some g => if g.header.opcode = Opcode.pong then { e with queued := some f } else e

def buffer (e : Endpoint) (f : Frame) : Endpoint :=
  let f := match e.role with
    | .server => f
    | .client => f.withMask [0, 0, 0, 0]
  { e with output := e.output ++ f.bytes }

inductive Flush
  | done
  | blocked
  | finished
  | failed (e : WebSocketFault)
  deriving Repr, DecidableEq

def writeOut (e : Endpoint) (out : Pipe) : Endpoint × Pipe × Flush :=
  if e.output.isEmpty then (e, out, .done)
  else if out.closed then (e, out, .failed (.io ⟨.brokenPipe, none⟩))
  else
    let (out, rest) := out.write e.output
    ({ e with output := rest }, out, if rest.isEmpty then .done else .blocked)

def bufferQueued (e : Endpoint) : Endpoint :=
  match e.queued with
  | none => e
  | some f => { e with queued := none }.buffer f

/-- Writes what is queued and what is buffered. A server whose peer has closed is done with the
connection after that. -/
def flush (e : Endpoint) (out : Pipe) : Endpoint × Pipe × Flush :=
  let e := e.bufferQueued
  let (e, out, result) := e.writeOut out
  match result with
  | .done =>
    if e.role = .server && !e.stage.canRead then
      ({ e with stage := .terminated }, out, .finished)
    else ({ e with unflushed := false }, out, .done)
  | r => (e, out, r)

def send (e : Endpoint) (item : Item) (out : Pipe) : Endpoint × Pipe × Option WebSocketFault :=
  match e.stage with
  | .terminated => (e, out, some .alreadyClosed)
  | .active =>
    let early := e.queued.isSome || e.unflushed
    let e := match item with
      | .pong _ => (e.queue (.ofItem item)).bufferQueued
      | .close _ => ({ e with stage := .closedByUs }.buffer (.ofItem item)).bufferQueued
      | _ => (e.buffer (.ofItem item)).bufferQueued
    let flushed := match item with
      | .pong _ => false
      | .close _ => true
      | _ => early
    if flushed then
      match e.flush out with
      | (e, out, .failed f) => (e, out, some f)
      | (e, out, _) => (e, out, none)
    else (e, out, none)
  | _ => (e, out, some (.protocol .sendAfterClosing))

inductive Read
  | item (i : Item)
  | failed (e : WebSocketFault)
  | ended
  | blocked
  deriving Repr, DecidableEq

abbrev Understood := Except WebSocketFault (Endpoint × Option Item)

def closeBody? (b : Octets) : Except WebSocketFault (Option CloseBody) :=
  match b with
  | [] => .ok none
  | [_] => .error (.protocol .invalidCloseSequence)
  | high :: low :: reason =>
    match Utf8.decode reason with
    | .ok s => .ok (some ⟨(high.toNat * 256 + low.toNat).toUInt16, s⟩)
    | .error d => .error (.utf8 d.message)

def violation : CloseBody := ⟨CloseStatus.protocolError.code, "Protocol violation"⟩

/-- A close frame: the first one is answered with the same body, unless its code is not allowed. -/
def onClose (e : Endpoint) (body : Option CloseBody) : Endpoint × Option Item :=
  match e.stage with
  | .active =>
    let body := body.map fun b => if CloseBody.isAllowed b.code then b else violation
    ({ e with stage := .closedByPeer }.queue (.ofItem (.close body)), some (.close body))
  | .closedByUs => ({ e with stage := .closeAcknowledged }, some (.close body))
  | _ => (e, none)

def onControl (e : Endpoint) (f : Frame) : Understood :=
  if !f.header.final then .error (.protocol .fragmentedControl)
  else if controlLimit < f.payload.length then .error (.protocol .controlTooBig)
  else if f.header.opcode = Opcode.close then (closeBody? f.payload).map e.onClose
  else if f.header.opcode = Opcode.ping then
    let e := if e.stage = .active then e.queue (.ofItem (.pong f.payload)) else e
    .ok (e, some (.ping f.payload))
  else .ok (e, some (.pong f.payload))

def kindName (opcode : Nat) : String := if opcode = Opcode.text then "TEXT" else "BINARY"

def onData (e : Endpoint) (f : Frame) : Understood :=
  if f.header.opcode = Opcode.continuation then
    match e.fragments with
    | none => .error (.protocol .nothingToContinue)
    | some fragments => do
      let fragments ← fragments.extend f.payload
      if f.header.final then
        let item ← fragments.complete
        .ok ({ e with fragments := none }, some item)
      else .ok ({ e with fragments := some fragments }, none)
  else if e.fragments.isSome then .error (.protocol (.expectedFragment (kindName f.header.opcode)))
  else if f.header.final then
    if f.header.opcode = Opcode.text then
      match Utf8.decode f.payload with
      | .ok s => .ok (e, some (.text s))
      | .error d => .error (.utf8 d.message)
    else .ok (e, some (.binary f.payload))
  else do
    let empty := if f.header.opcode = Opcode.text then Fragments.text {} else .binary []
    let fragments ← empty.extend f.payload
    .ok ({ e with fragments := some fragments }, none)

def onFrame (e : Endpoint) (f : Frame) : Understood :=
  if e.role = .server && f.header.mask.isNone then .error (.protocol .unmaskedFromClient)
  else if f.header.reserved ≠ 0 then .error (.protocol .reservedBits)
  else if e.role = .client && f.header.mask.isSome then .error (.protocol .maskedFromServer)
  else if Opcode.isControl f.header.opcode then e.onControl f
  else e.onData f

inductive Parsed
  | frame (f : Frame)
  | incomplete
  | failed (e : WebSocketFault)

/-- Takes the next frame off the bytes that were read. A header is judged before its payload has
come. -/
def parse (e : Endpoint) : Endpoint × Parsed :=
  let headed : Except WebSocketFault Endpoint :=
    match e.header with
    | some _ => .ok e
    | none =>
      let e := { e with input := e.input.arranged }
      match Header.read? e.input.early with
      | none => .ok e
      | some (h, size) =>
        if !Opcode.isKnown h.opcode then .error (.protocol (.invalidOpcode h.opcode))
        else if frameLimit < h.length then .error (.tooLong h.length frameLimit)
        else .ok { e with header := some h, input := e.input.drop size }
  match headed with
  | .error f => (e, .failed f)
  | .ok e =>
    match e.header with
    | none => (e, .incomplete)
    | some h =>
      if e.input.size < h.length then (e, .incomplete)
      else
        let payload := e.input.arranged.early.take h.length
        let payload := match h.mask, e.role with
          | some key, .server => mask key payload
          | _, _ => payload
        ({ e with header := none, input := e.input.drop h.length }, .frame ⟨h, payload⟩)

def onEnd (e : Endpoint) : Endpoint × Read :=
  match e.stage with
  | .closedByPeer | .closeAcknowledged => ({ e with stage := .terminated }, .ended)
  | _ => ({ e with stage := .terminated }, .failed (.protocol .resetWithoutClosing))

def nextFrame (e : Endpoint) (inp : Pipe) : Endpoint × Pipe × Parsed × Bool :=
  match e.parse with
  | (e, .incomplete) =>
    let (b, inp) := inp.read none
    match { e with input := e.input.push b }.parse with
    | (e, .incomplete) => (e, inp, .incomplete, inp.closed)
    | (e, p) => (e, inp, p, false)
  | (e, p) => (e, inp, p, false)

def readFrames (e : Endpoint) (inp out : Pipe) : Nat → Endpoint × Pipe × Pipe × Read
  | 0 => (e, inp, out, .blocked)
  | fuel + 1 =>
    let due := e.queued.isSome || e.unflushed
    if !due && e.role = .server && !e.stage.canRead then
      ({ e with stage := .terminated }, inp, out, .ended)
    else
      let (e, out, flushed) := if due then e.flush out else (e, out, Flush.done)
      match flushed with
      | .failed f => (e, inp, out, .failed f)
      | .finished => (e, inp, out, .ended)
      | flushed =>
        let e := if flushed = .blocked then { e with unflushed := true } else e
        match e.nextFrame inp with
        | (e, inp, .failed f, _) => (e, inp, out, .failed f)
        | (e, inp, .incomplete, true) =>
          let (e, r) := e.onEnd
          (e, inp, out, r)
        | (e, inp, .incomplete, false) => (e, inp, out, .blocked)
        | (e, inp, .frame f, _) =>
          match e.onFrame f with
          | .error f => (e, inp, out, .failed f)
          | .ok (e, some item) => (e, inp, out, .item item)
          | .ok (e, none) => readFrames e inp out fuel

/-- The next item, a failure, or the end, each of the last two once and only the end thereafter. -/
def read (e : Endpoint) (inp out : Pipe) : Endpoint × Pipe × Pipe × Read :=
  if e.ended || e.stage = .terminated then ({ e with ended := true }, inp, out, .ended)
  else
    match e.readFrames inp out (e.input.size + inp.content.length + 2) with
    | (e, inp, out, .failed f) => ({ e with ended := true }, inp, out, .failed f)
    | (e, inp, out, .ended) => ({ e with ended := true }, inp, out, .ended)
    | r => r

end Endpoint
end Duplex.Wire
