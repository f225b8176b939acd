import AsyncTungstenite.Engine

/-!
# `WebSocketStream`: the duplex stream and sink state machine

The connection object of `lib.rs`. It owns the engine, whose transport shim holds the two
waker slots, and three flags: `ready` (the sink may queue a message without flushing
first), `ended` (the inbound sequence has terminated) and `closing` (the close frame is
queued and `poll_close` is flushing it out).

Each method is modelled as the code computes it. A method that calls the engine takes
the engine's answer to that call as an argument and returns a `Called` record: its
result, the stream after it, and the events of the call in order. Where the code uses
`ready!` or `?` the model matches on the inner result and returns early in the same way.

`closing` and the `Sink` impl exist under the `futures-03-sink` feature, the byte-sender
methods `poll_write` and the message-slot `poll_close` under its negation. No method of
one group touches what only the other reads, so the model keeps both: a run of either
configuration is a run here.

## Main definitions

* `WebSocketStream.pollNext` — `poll_next`, the inbound sequence
* `WebSocketStream.pollReady`, `startSend`, `pollFlush`, `pollClose` — the sink
* `WebSocketStream.sendHelper` — `send_helper`, one poll of a `Send` future
* `WebSocketStream.pollWrite` — the byte-sender `poll_write`
-/

set_option autoImplicit false

namespace AsyncTungstenite

/-- Modelled from the spec: `compat::AllowStd` is not in the source. Of the shim the model
keeps the two waker slots, one for each direction, that `set_waker` overwrites. -/
structure AllowStd where
  readWaker : Option Waker
  writeWaker : Option Waker
  deriving DecidableEq, Repr

/-- Modelled from the spec: `AllowStd::set_waker` binds the waker to the slot of its
direction and leaves the other slot alone. -/
def AllowStd.setWaker (shim : AllowStd) (kind : ContextWaker) (waker : Waker) : AllowStd :=
  match kind with
  | .read => { shim with readWaker := some waker }
  | .write => { shim with writeWaker := some waker }

/-- The state of a `WebSocketStream<S>`. `inner` stands for the engine, of which the
adaptation layer writes only the shim's waker slots. -/
structure WebSocketStream where
  inner : AllowStd
  closing : Bool
  ended : Bool
  ready : Bool
  deriving DecidableEq, Repr

/-- What a method call gives back: its result, the stream after it, and the waker
bindings and engine calls it made, in order. -/
structure Called (α : Type) where
  result : α
  stream : WebSocketStream
  events : List Event

namespace Called

variable {α β : Type}

/-- Run `next` on the result and stream `c` leaves; the events of both calls are kept. -/
def andThen (c : Called α) (next : α → WebSocketStream → Called β) : Called β :=
  let d := next c.result c.stream
  ⟨d.result, d.stream, c.events ++ d.events⟩

/-- Change the result and keep the rest. -/
def map (f : α → β) (c : Called α) : Called β := ⟨f c.result, c.stream, c.events⟩

@[simp] theorem andThen_result (c : Called α) (next : α → WebSocketStream → Called β) :
    (c.andThen next).result = (next c.result c.stream).result := rfl

@[simp] theorem andThen_stream (c : Called α) (next : α → WebSocketStream → Called β) :
    (c.andThen next).stream = (next c.result c.stream).stream := rfl

@[simp] theorem andThen_events (c : Called α) (next : α → WebSocketStream → Called β) :
    (c.andThen next).events = c.events ++ (next c.result c.stream).events := rfl

@[simp] theorem map_result (f : α → β) (c : Called α) : (c.map f).result = f c.result := rfl

@[simp] theorem map_stream (f : α → β) (c : Called α) : (c.map f).stream = c.stream := rfl

@[simp] theorem map_events (f : α → β) (c : Called α) : (c.map f).events = c.events := rfl

end Called

/-- The engine's answers to the calls one poll of `send_helper` may make, in the order it
makes them: the flush of `poll_ready`, the write of `start_send`, the flush of
`poll_flush`. -/
structure SendAnswers where
  readyFlush : Except WsError Unit
  write : Except WsError Unit
  flush : Except WsError Unit
  deriving DecidableEq, Repr

namespace WebSocketStream

/-- `WebSocketStream::new`: every constructor (handshake or raw socket) ends here. -/
def new (inner : AllowStd) : WebSocketStream :=
  { inner, closing := false, ended := false, ready := true }

/-- `self.inner.get_mut().set_waker(kind, ctx.waker())`. -/
def setWaker (s : WebSocketStream) (kind : ContextWaker) (cx : Context) : WebSocketStream :=
  { s with inner := s.inner.setWaker kind cx.waker }

/-- `with_context`: bind the context's waker for the given direction before the engine
call; with no context nothing is bound. -/
def withContext (s : WebSocketStream) :
    Option (ContextWaker × Context) → WebSocketStream × List Event
  | some (kind, cx) => (s.setWaker kind cx, [.setWaker kind cx.waker])
  | none => (s, [])

/-- `FusedStream::is_terminated`. -/
def isTerminated (s : WebSocketStream) : Bool := s.ended

/-- `poll_next`, given the engine's answer to `read`. A fused stream answers `None` without
calling the engine; a closed connection ends the sequence, any other error is its last
item. -/
def pollNext (s : WebSocketStream) (cx : Context) (read : Except WsError Message) :
    Called (Poll (Option (Except WsError Message))) :=
  if s.ended then ⟨.ready none, s, []⟩
  else
    let (s, bound) := s.withContext (some (.read, cx))
    let events := bound ++ [.read read]
    match cvt read with
    | .pending => ⟨.pending, s, events⟩
    | .ready (.ok v) => ⟨.ready (some (.ok v)), s, events⟩
    | .ready (.error e) =>
      ⟨.ready (if e.isClosed then none else some (.error e)), { s with ended := true }, events⟩

/-- `poll_ready`, given the engine's answer to `flush`. Every ready outcome of the flush
sets `ready`, through the `Poll::map`. -/
def pollReady (s : WebSocketStream) (cx : Context) (flush : Except WsError Unit) :
    Called (Poll (Except WsError Unit)) :=
  if s.ready then ⟨.ready (.ok ()), s, []⟩
  else
    let (s, bound) := s.withContext (some (.write, cx))
    let events := bound ++ [.flush flush]
    match cvt flush with
    | .pending => ⟨.pending, s, events⟩
    | .ready r => ⟨.ready r, { s with ready := true }, events⟩

/-- `start_send`, given the engine's answer to `write`: no waker is bound, and a
would-block write counts as queued. -/
def startSend (s : WebSocketStream) (item : Message) (write : Except WsError Unit) :
    Called (Except WsError Unit) :=
  let (s, bound) := s.withContext none
  let events := bound ++ [.write item write]
  match write with
  | .ok () => ⟨.ok (), { s with ready := true }, events⟩
  | .error (.io .wouldBlock) => ⟨.ok (), { s with ready := false }, events⟩
  | .error e => ⟨.error e, { s with ready := true }, events⟩

/-- `poll_flush`, given the engine's answer to `flush`: a connection that has just been
closed counts as flushed. -/
def pollFlush (s : WebSocketStream) (cx : Context) (flush : Except WsError Unit) :
    Called (Poll (Except WsError Unit)) :=
  let (s, bound) := s.withContext (some (.write, cx))
  let events := bound ++ [.flush flush]
  match cvt flush with
  | .pending => ⟨.pending, s, events⟩
  | .ready r =>
    ⟨.ready (match r with
      | .error .connectionClosed => .ok ()
      | other => other), { s with ready := true }, events⟩

/-- `Sink::poll_close`, given the engine's answer to the call it makes: `close(None)` the
first time, `flush` once the close frame is queued. -/
def pollClose (s : WebSocketStream) (cx : Context) (res : Except WsError Unit) :
    Called (Poll (Except WsError Unit)) :=
  let s := { s with ready := true }
  let (s', bound) := s.withContext (some (.write, cx))
  let events := bound ++ [if s.closing then .flush res else .close none res]
  match res with
  | .ok () => ⟨.ready (.ok ()), s', events⟩
  | .error .connectionClosed => ⟨.ready (.ok ()), s', events⟩
  | .error (.io .wouldBlock) => ⟨.pending, { s' with closing := true }, events⟩
  | .error err => ⟨.ready (.error err), s', events⟩

/-- `send_helper`: one poll of a send. While the message slot is full, wait for
readiness, take the message and queue it; then flush. The slot is returned with the
result. -/
def sendHelper (ws : WebSocketStream) (msg : Option Message) (cx : Context)
    (answers : SendAnswers) : Called (Poll (Except WsError Unit) × Option Message) :=
  match msg with
  | some m =>
    (ws.pollReady cx answers.readyFlush).andThen fun
      | .pending, ws => ⟨(.pending, some m), ws, []⟩
      | .ready (.error e), ws => ⟨(.ready (.error e), some m), ws, []⟩
      | .ready (.ok ()), ws => (ws.startSend m answers.write).andThen fun
        | .error e, ws => ⟨(.ready (.error e), none), ws, []⟩
        | .ok (), ws => (ws.pollFlush cx answers.flush).map (·, none)
  | none => (ws.pollFlush cx answers.flush).map (·, none)

/-- The byte-sender `poll_write` of the stream: wait for readiness, then queue the buffer
as one binary message, without flushing. -/
def pollWrite (s : WebSocketStream) (cx : Context) (buf : List UInt8)
    (readyFlush write : Except WsError Unit) : Called (Poll (Except WsError Nat)) :=
  (s.pollReady cx readyFlush).andThen fun
    | .pending, s => ⟨.pending, s, []⟩
    | .ready (.error e), s => ⟨.ready (.error e), s, []⟩
    | .ready (.ok ()), s => (s.startSend (.binary buf) write).andThen fun
      | .error e, s => ⟨.ready (.error e), s, []⟩
      | .ok (), s => ⟨.ready (.ok buf.length), s, []⟩


/-! ## What each method does

One lemma for each way a method can go, by the engine's answer and the flags it reads,
and frame lemmas for the flags a method never writes. Later files cite these and do not
unfold the methods. -/

variable {s : WebSocketStream} {cx : Context}

@[simp] theorem setWaker_ended (kind : ContextWaker) : (s.setWaker kind cx).ended = s.ended :=
  rfl

@[simp] theorem setWaker_ready (kind : ContextWaker) : (s.setWaker kind cx).ready = s.ready :=
  rfl

@[simp] theorem setWaker_closing (kind : ContextWaker) :
    (s.setWaker kind cx).closing = s.closing := rfl

section PollNext

variable {read : Except WsError Message}

theorem pollNext_of_ended (fused : s.ended = true) :
    s.pollNext cx read = ⟨.ready none, s, []⟩ := by
  simp [pollNext, fused]

theorem pollNext_ok (live : s.ended = false) (m : Message) :
    s.pollNext cx (.ok m) = ⟨.ready (some (.ok m)), s.setWaker .read cx,
      [.setWaker .read cx.waker, .read (.ok m)]⟩ := by
  simp [pollNext, live, withContext]

theorem pollNext_wouldBlock (live : s.ended = false) :
    s.pollNext cx (.error (.io .wouldBlock)) = ⟨.pending, s.setWaker .read cx,
      [.setWaker .read cx.waker, .read (.error (.io .wouldBlock))]⟩ := by
  simp [pollNext, live, withContext]

theorem pollNext_error (live : s.ended = false) {e : WsError}
    (blocking : e ≠ .io .wouldBlock) :
    s.pollNext cx (.error e) = ⟨.ready (if e.isClosed then none else some (.error e)),
      { s.setWaker .read cx with ended := true },
      [.setWaker .read cx.waker, .read (.error e)]⟩ := by
  simp [pollNext, live, withContext, cvt_error blocking]

@[simp] theorem pollNext_events : (s.pollNext cx read).events =
    if s.ended then [] else [.setWaker .read cx.waker, .read read] := by
  unfold pollNext; split
  · rfl
  · simp only [withContext]; split <;> rfl

@[simp] theorem pollNext_ready : (s.pollNext cx read).stream.ready = s.ready := by
  unfold pollNext; split
  · rfl
  · simp only [withContext]; split <;> rfl

@[simp] theorem pollNext_closing : (s.pollNext cx read).stream.closing = s.closing := by
  unfold pollNext; split
  · rfl
  · simp only [withContext]; split <;> rfl

end PollNext

section PollReady

variable {flush : Except WsError Unit}

theorem pollReady_of_ready (ready : s.ready = true) :
    s.pollReady cx flush = ⟨.ready (.ok ()), s, []⟩ := by
  simp [pollReady, ready]

theorem pollReady_wouldBlock (blocked : s.ready = false) :
    s.pollReady cx (.error (.io .wouldBlock)) = ⟨.pending, s.setWaker .write cx,
      [.setWaker .write cx.waker, .flush (.error (.io .wouldBlock))]⟩ := by
  simp [pollReady, blocked, withContext]

theorem pollReady_flushed (blocked : s.ready = false)
    (flushed : flush ≠ .error (.io .wouldBlock)) :
    s.pollReady cx flush = ⟨.ready flush, { s.setWaker .write cx with ready := true },
      [.setWaker .write cx.waker, .flush flush]⟩ := by
  rcases answer_cases flush with ⟨⟨⟩, rfl⟩ | rfl | ⟨e, rfl, blocking⟩
  · simp [pollReady, blocked, withContext]
  · exact absurd rfl flushed
  · simp [pollReady, blocked, withContext, cvt_error blocking]

@[simp] theorem pollReady_events : (s.pollReady cx flush).events =
    if s.ready then [] else [.setWaker .write cx.waker, .flush flush] := by
  unfold pollReady; split
  · rfl
  · simp only [withContext]; split <;> rfl

@[simp] theorem pollReady_ended : (s.pollReady cx flush).stream.ended = s.ended := by
  unfold pollReady; split
  · rfl
  · simp only [withContext]; split <;> rfl

@[simp] theorem pollReady_closing : (s.pollReady cx flush).stream.closing = s.closing := by
  unfold pollReady; split
  · rfl
  · simp only [withContext]; split <;> rfl

end PollReady

section StartSend

variable {item : Message}

theorem startSend_ok : s.startSend item (.ok ()) =
    ⟨.ok (), { s with ready := true }, [.write item (.ok ())]⟩ := rfl

theorem startSend_wouldBlock : s.startSend item (.error (.io .wouldBlock)) =
    ⟨.ok (), { s with ready := false }, [.write item (.error (.io .wouldBlock))]⟩ := rfl

theorem startSend_error {e : WsError} (blocking : e ≠ .io .wouldBlock) :
    s.startSend item (.error e) =
      ⟨.error e, { s with ready := true }, [.write item (.error e)]⟩ := by
  cases e with
  | io kind => cases kind <;> simp_all [startSend, withContext]
  | _ => rfl

@[simp] theorem startSend_events (write : Except WsError Unit) :
    (s.startSend item write).events = [.write item write] := by
  simp only [startSend, withContext]; split <;> rfl

@[simp] theorem startSend_ended (write : Except WsError Unit) :
    (s.startSend item write).stream.ended = s.ended := by
  simp only [startSend, withContext]; split <;> rfl

@[simp] theorem startSend_closing (write : Except WsError Unit) :
    (s.startSend item write).stream.closing = s.closing := by
  simp only [startSend, withContext]; split <;> rfl

end StartSend

section PollFlush

variable {flush : Except WsError Unit}

theorem pollFlush_wouldBlock : s.pollFlush cx (.error (.io .wouldBlock)) =
    ⟨.pending, s.setWaker .write cx,
      [.setWaker .write cx.waker, .flush (.error (.io .wouldBlock))]⟩ :=
  rfl

theorem pollFlush_flushed (flushed : flush ≠ .error (.io .wouldBlock)) :
    s.pollFlush cx flush =
      ⟨.ready (if flush = .error .connectionClosed then .ok () else flush),
        { s.setWaker .write cx with ready := true },
        [.setWaker .write cx.waker, .flush flush]⟩ := by
  rcases answer_cases flush with ⟨⟨⟩, rfl⟩ | rfl | ⟨e, rfl, blocking⟩
  · rfl
  · exact absurd rfl flushed
  · by_cases closed : e = .connectionClosed
    · subst closed; rfl
    · simp [pollFlush, withContext, cvt_error blocking, closed]

@[simp] theorem pollFlush_events :
    (s.pollFlush cx flush).events = [.setWaker .write cx.waker, .flush flush] := by
  simp only [pollFlush, withContext]; split <;> rfl

@[simp] theorem pollFlush_ended : (s.pollFlush cx flush).stream.ended = s.ended := by
  simp only [pollFlush, withContext]; split <;> rfl

@[simp] theorem pollFlush_closing : (s.pollFlush cx flush).stream.closing = s.closing := by
  simp only [pollFlush, withContext]; split <;> rfl

end PollFlush

section PollClose

variable {res : Except WsError Unit}

@[simp] theorem pollClose_events : (s.pollClose cx res).events =
    [.setWaker .write cx.waker, if s.closing then .flush res else .close none res] := by
  simp only [pollClose, withContext]; split <;> rfl

theorem pollClose_stream : (s.pollClose cx res).stream =
    { s.setWaker .write cx with
      ready := true
      closing := s.closing || decide (res = .error (.io .wouldBlock)) } := by
  simp only [pollClose, withContext]
  split <;> simp_all [setWaker]

theorem pollClose_result : (s.pollClose cx res).result =
    if res = .error (.io .wouldBlock) then .pending
    else if res = .ok () ∨ res = .error .connectionClosed then .ready (.ok ())
    else .ready res := by
  simp only [pollClose, withContext]
  split <;> simp_all

@[simp] theorem pollClose_ended : (s.pollClose cx res).stream.ended = s.ended := by
  simp [pollClose_stream]

end PollClose

section Composite

variable {msg : Option Message} {answers : SendAnswers}

/-- The four ways a poll of `send_helper` goes: the slot is empty and it flushes; it is not
yet ready (`Pending`, or the readiness flush failed) and keeps the message; the write
fails; or the message is queued and the poll flushes. -/
theorem sendHelper_cases (s : WebSocketStream) (cx : Context) (msg : Option Message)
    (answers : SendAnswers) :
    (msg = none ∧ s.sendHelper msg cx answers = (s.pollFlush cx answers.flush).map (·, none)) ∨
    (∃ m, msg = some m ∧ (s.pollReady cx answers.readyFlush).result ≠ .ready (.ok ()) ∧
      s.sendHelper msg cx answers = (s.pollReady cx answers.readyFlush).map (·, some m)) ∨
    (∃ m e, msg = some m ∧ (s.pollReady cx answers.readyFlush).result = .ready (.ok ()) ∧
      answers.write = .error e ∧ e ≠ .io .wouldBlock ∧
      s.sendHelper msg cx answers = (s.pollReady cx answers.readyFlush).andThen fun _ t =>
        (t.startSend m answers.write).map fun _ => (.ready (.error e), none)) ∨
    (∃ m, msg = some m ∧ (s.pollReady cx answers.readyFlush).result = .ready (.ok ()) ∧
      (answers.write = .ok () ∨ answers.write = .error (.io .wouldBlock)) ∧
      s.sendHelper msg cx answers = (s.pollReady cx answers.readyFlush).andThen fun _ t =>
        (t.startSend m answers.write).andThen fun _ u =>
          (u.pollFlush cx answers.flush).map (·, none)) := by
  rcases msg with _ | m
  · exact .inl ⟨rfl, rfl⟩
  · right
    generalize hr : s.pollReady cx answers.readyFlush = r
    obtain ⟨res, t, evs⟩ := r
    rcases res with (e | ⟨⟩) | _
    · exact .inl ⟨m, rfl, by simp, by simp [sendHelper, hr, Called.andThen, Called.map]⟩
    · right
      rcases answer_cases answers.write with ⟨⟨⟩, hw⟩ | hw | ⟨e, hw, blocking⟩
      · exact .inr ⟨m, rfl, rfl, .inl hw,
          by simp [sendHelper, hr, Called.andThen, hw, startSend_ok]⟩
      · exact .inr ⟨m, rfl, rfl, .inr hw,
          by simp [sendHelper, hr, Called.andThen, hw, startSend_wouldBlock]⟩
      · exact .inl ⟨m, e, rfl, rfl, hw, blocking,
          by simp [sendHelper, hr, Called.andThen, Called.map, hw, startSend_error blocking]⟩
    · exact .inl ⟨m, rfl, by simp, by simp [sendHelper, hr, Called.andThen, Called.map]⟩

/-- The four ways a byte-sender `poll_write` goes: not yet ready, the readiness flush
failed, the write failed, or the buffer is queued as one binary message. -/
theorem pollWrite_cases (s : WebSocketStream) (cx : Context) (buf : List UInt8)
    (readyFlush write : Except WsError Unit) :
    ((s.pollReady cx readyFlush).result = .pending ∧
      s.pollWrite cx buf readyFlush write = (s.pollReady cx readyFlush).map fun _ => .pending) ∨
    (∃ e, (s.pollReady cx readyFlush).result = .ready (.error e) ∧
      s.pollWrite cx buf readyFlush write =
        (s.pollReady cx readyFlush).map fun _ => .ready (.error e)) ∨
    (∃ e, (s.pollReady cx readyFlush).result = .ready (.ok ()) ∧
      write = .error e ∧ e ≠ .io .wouldBlock ∧
      s.pollWrite cx buf readyFlush write = (s.pollReady cx readyFlush).andThen fun _ t =>
        (t.startSend (.binary buf) write).map fun _ => .ready (.error e)) ∨
    ((s.pollReady cx readyFlush).result = .ready (.ok ()) ∧
      (write = .ok () ∨ write = .error (.io .wouldBlock)) ∧
      s.pollWrite cx buf readyFlush write = (s.pollReady cx readyFlush).andThen fun _ t =>
        (t.startSend (.binary buf) write).map fun _ => .ready (.ok buf.length)) := by
  generalize hr : s.pollReady cx readyFlush = r
  obtain ⟨res, t, evs⟩ := r
  rcases res with (e | ⟨⟩) | _
  · exact .inr (.inl ⟨e, rfl, by simp [pollWrite, hr, Called.andThen, Called.map]⟩)
  · right; right
    rcases answer_cases write with ⟨⟨⟩, rfl⟩ | rfl | ⟨e, rfl, blocking⟩
    · exact .inr ⟨rfl, .inl rfl,
        by simp [pollWrite, hr, Called.andThen, Called.map, startSend_ok]⟩
    · exact .inr ⟨rfl, .inr rfl,
        by simp [pollWrite, hr, Called.andThen, Called.map, startSend_wouldBlock]⟩
    · exact .inl ⟨e, rfl, rfl, blocking,
        by simp [pollWrite, hr, Called.andThen, Called.map, startSend_error blocking]⟩
  · exact .inl ⟨rfl, by simp [pollWrite, hr, Called.andThen, Called.map]⟩

@[simp] theorem sendHelper_ended : (s.sendHelper msg cx answers).stream.ended = s.ended := by
  rcases sendHelper_cases s cx msg answers with
    ⟨-, eq⟩ | ⟨_, -, -, eq⟩ | ⟨_, _, -, -, -, -, eq⟩ | ⟨_, -, -, -, eq⟩ <;>
    simp [eq]

@[simp] theorem sendHelper_closing :
    (s.sendHelper msg cx answers).stream.closing = s.closing := by
  rcases sendHelper_cases s cx msg answers with
    ⟨-, eq⟩ | ⟨_, -, -, eq⟩ | ⟨_, _, -, -, -, -, eq⟩ | ⟨_, -, -, -, eq⟩ <;>
    simp [eq]

@[simp] theorem pollWrite_ended (buf : List UInt8) (readyFlush write : Except WsError Unit) :
    (s.pollWrite cx buf readyFlush write).stream.ended = s.ended := by
  rcases pollWrite_cases s cx buf readyFlush write with
    ⟨-, eq⟩ | ⟨_, -, eq⟩ | ⟨_, -, -, -, eq⟩ | ⟨-, -, eq⟩ <;> simp [eq]

@[simp] theorem pollWrite_closing (buf : List UInt8) (readyFlush write : Except WsError Unit) :
    (s.pollWrite cx buf readyFlush write).stream.closing = s.closing := by
  rcases pollWrite_cases s cx buf readyFlush write with
    ⟨-, eq⟩ | ⟨_, -, eq⟩ | ⟨_, -, -, -, eq⟩ | ⟨-, -, eq⟩ <;> simp [eq]

end Composite

end WebSocketStream

end AsyncTungstenite
