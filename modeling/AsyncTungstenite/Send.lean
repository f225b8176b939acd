import AsyncTungstenite.Run
import Mathlib.Data.List.Basic

/-!
# Sends: each message is written once

`send` and `close` return a `Send` future that holds its message in a slot; each poll runs
`send_helper`, which takes the message out of the slot only when it hands it to the
engine's `write`. So whatever the other operations on the connection do between its
polls, a send passes its message to `write` at most once; it resolves `Ready(Ok)` only
after the write was accepted (or queued behind a would-block) and a later flush succeeded
or found the connection just closed; and a send that fails in `poll_ready` never wrote.

Many sends can be in flight on one connection: `Send<&mut WebSocketStream>` futures,
concurrent `WebSocketSender::send` futures that share the split cell, and the byte sender's
`poll_close` with its own message slot. Each poll runs `send_helper` under the lock, so the
system is modelled as a connection, the message slots of the sends, and steps that poll one
send or make any other call. A send's polls, read out of any interleaving, are a run of
that send alone over whatever states the connection was in (`history_eq_opPolls`), and
what a send does is proved for such runs.
-/

set_option autoImplicit false

namespace AsyncTungstenite

/-- The message an event handed to the engine's `write`, with the engine's answer. -/
def Event.written : Event → Option (Message × Except WsError Unit)
  | .write m r => some (m, r)
  | _ => none

/-- The writes among some events. -/
def writes (events : List Event) : List (Message × Except WsError Unit) :=
  events.filterMap Event.written

@[simp] theorem writes_nil : writes [] = [] := rfl

@[simp] theorem writes_append (a b : List Event) : writes (a ++ b) = writes a ++ writes b :=
  List.filterMap_append _ _ _

@[simp] theorem writes_cons (e : Event) (es : List Event) :
    writes (e :: es) = (e.written).toList ++ writes es := by
  cases e <;> simp [writes, Event.written]

/-- `Send`: the future returned by `send` and `close`; it holds the message until it is
queued. -/
structure Send where
  msg : Option Message
  deriving DecidableEq, Repr

namespace Send

/-- `WebSocketStream::send` and `WebSocketSender::send`: a future holding the message. -/
def send (msg : Message) : Send := ⟨some msg⟩

/-- `close(msg)` is `send(Message::Close(msg))`. -/
def close (frame : Option CloseFrame) : Send := send (.close frame)

/-- `Future::poll` of `Send`: one `send_helper` over the future's slot. -/
def poll (f : Send) (ws : WebSocketStream) (cx : Context) (answers : SendAnswers) :
    Called (Poll (Except WsError Unit)) × Send :=
  let d := ws.sendHelper f.msg cx answers
  (d.map (·.1), ⟨d.result.2⟩)

end Send

namespace WebSocketStream

variable {ws : WebSocketStream} {cx : Context} {answers : SendAnswers}

theorem pollReady_writes (flush : Except WsError Unit) :
    writes (ws.pollReady cx flush).events = [] := by
  simp only [pollReady_events]; split <;> rfl

/-- A poll with an empty slot writes nothing and leaves the slot empty. -/
theorem sendHelper_of_none (ws : WebSocketStream) (cx : Context) (answers : SendAnswers) :
    writes (ws.sendHelper none cx answers).events = [] ∧
      (ws.sendHelper none cx answers).result.2 = none := by
  simp [sendHelper, writes, Event.written]

/-- `poll_flush` succeeds exactly when the flush succeeded or found the connection just
closed. -/
theorem pollFlush_ready_ok {flush : Except WsError Unit} :
    (ws.pollFlush cx flush).result = .ready (.ok ()) ↔
      flush = .ok () ∨ flush = .error .connectionClosed := by
  by_cases blocked : flush = .error (.io .wouldBlock)
  · subst blocked; simp [pollFlush_wouldBlock]
  · rw [pollFlush_flushed blocked]
    by_cases closed : flush = .error .connectionClosed <;> simp [closed]

/-- A poll with an empty slot succeeds only through a flush that succeeded or found the
connection just closed, and that flush is all it does after binding the waker. -/
theorem sendHelper_none_ok (ok : (ws.sendHelper none cx answers).result.1 = .ready (.ok ())) :
    (ws.sendHelper none cx answers).events = [.setWaker .write cx.waker, .flush answers.flush] ∧
      (answers.flush = .ok () ∨ answers.flush = .error .connectionClosed) :=
  ⟨by simp [sendHelper], pollFlush_ready_ok.mp (by simpa [sendHelper] using ok)⟩

/-- A poll with the message in its slot either keeps it, writing nothing and not
succeeding; or hands it to `write` once and empties the slot. In the second case the write
was accepted or queued unless the poll failed, and a poll that succeeds ends with a flush
that succeeded or found the connection just closed. -/
theorem sendHelper_of_some (ws : WebSocketStream) (cx : Context) (answers : SendAnswers)
    (m : Message) :
    ((ws.sendHelper (some m) cx answers).result.2 = some m ∧
      writes (ws.sendHelper (some m) cx answers).events = [] ∧
      (ws.sendHelper (some m) cx answers).result.1 ≠ .ready (.ok ())) ∨
    ((ws.sendHelper (some m) cx answers).result.2 = none ∧
      ∃ R E, (ws.sendHelper (some m) cx answers).events = R ++ .write m answers.write :: E ∧
        writes R = [] ∧ writes E = [] ∧
        ((∀ e, (ws.sendHelper (some m) cx answers).result.1 ≠ .ready (.error e)) →
          answers.write = .ok () ∨ answers.write = .error (.io .wouldBlock)) ∧
        ((ws.sendHelper (some m) cx answers).result.1 = .ready (.ok ()) →
          E = [.setWaker .write cx.waker, .flush answers.flush] ∧
          (answers.flush = .ok () ∨ answers.flush = .error .connectionClosed))) := by
  rcases sendHelper_cases ws cx (some m) answers with
    ⟨absurd, -⟩ | ⟨m', same, notReady, eq⟩ | ⟨m', e, same, -, write, blocking, eq⟩ |
      ⟨m', same, -, accepted, eq⟩
  · cases absurd
  · cases same
    refine .inl ⟨by simp [eq],
      by simpa only [eq, Called.map_events] using pollReady_writes _, ?_⟩
    simpa [eq] using notReady
  · cases same
    refine .inr ⟨by simp [eq], (ws.pollReady cx answers.readyFlush).events, [],
      by simp only [eq, Called.andThen_events, Called.map_events, startSend_events],
      pollReady_writes _, rfl, fun never => absurd (by simp [eq]) (never e),
      fun ok => by simp [eq] at ok⟩
  · cases same
    refine .inr ⟨by simp [eq], (ws.pollReady cx answers.readyFlush).events,
      [.setWaker .write cx.waker, .flush answers.flush],
      by simp only [eq, Called.andThen_events, Called.map_events, startSend_events,
        pollFlush_events, List.append_assoc, List.singleton_append],
      pollReady_writes _, rfl, fun _ => accepted, fun ok => ⟨rfl, ?_⟩⟩
    exact pollFlush_ready_ok.mp (by simpa [eq] using ok)

/-- A byte-sender `poll_write` returns `Ready(Ok(n))` only with `n` the buffer's length,
after handing the buffer to `write` as one binary message that was accepted or queued. -/
theorem pollWrite_ok_written {buf : List UInt8} {readyFlush write : Except WsError Unit}
    {n : Nat} (ok : (ws.pollWrite cx buf readyFlush write).result = .ready (.ok n)) :
    n = buf.length ∧
      writes (ws.pollWrite cx buf readyFlush write).events = [(.binary buf, write)] ∧
      (write = .ok () ∨ write = .error (.io .wouldBlock)) := by
  rcases pollWrite_cases ws cx buf readyFlush write with
    ⟨-, eq⟩ | ⟨_, -, eq⟩ | ⟨_, -, -, -, eq⟩ | ⟨-, accepted, eq⟩ <;> simp [eq] at ok
  refine ⟨ok.symm, ?_, accepted⟩
  simp only [eq, Called.andThen_events, Called.map_events, startSend_events, writes_append,
    pollReady_writes, List.nil_append]
  rfl

end WebSocketStream

/-! ## The polls of one send -/

/-- A poll of send operation `op`: what it returned, what its slot holds after it, and its
events. -/
structure SendPoll where
  op : Nat
  result : Poll (Except WsError Unit)
  slot : Option Message
  events : List Event
  deriving DecidableEq, Repr

/-- The polls of send operation `op` from slot `msg`, made at the given connection states,
with the given contexts and engine answers, in turn. Between two polls the connection may
have gone through anything; the slot is the send's own. -/
def opPolls (op : Nat) : Option Message → List (WebSocketStream × Context × SendAnswers) →
    List SendPoll
  | _, [] => []
  | msg, (ws, cx, answers) :: rest =>
    ⟨op, (ws.sendHelper msg cx answers).result.1, (ws.sendHelper msg cx answers).result.2,
      (ws.sendHelper msg cx answers).events⟩ ::
      opPolls op (ws.sendHelper msg cx answers).result.2 rest

/-- The events of some polls, in order. -/
def pollEvents (polls : List SendPoll) : List Event := polls.flatMap (·.events)

@[simp] theorem pollEvents_nil : pollEvents [] = [] := rfl

@[simp] theorem pollEvents_cons (p : SendPoll) (ps : List SendPoll) :
    pollEvents (p :: ps) = p.events ++ pollEvents ps := rfl

@[simp] theorem pollEvents_append (ps qs : List SendPoll) :
    pollEvents (ps ++ qs) = pollEvents ps ++ pollEvents qs := by
  simp [pollEvents]

/-- Once the slot is empty, polls write nothing and the slot stays empty. -/
theorem opPolls_none (op : Nat) (polls : List (WebSocketStream × Context × SendAnswers)) :
    writes (pollEvents (opPolls op none polls)) = [] ∧
      ∀ p ∈ opPolls op none polls, p.slot = none := by
  induction polls with
  | nil => simp [opPolls]
  | cons x rest ih =>
    obtain ⟨ws, cx, answers⟩ := x
    obtain ⟨noWrite, empty⟩ := WebSocketStream.sendHelper_of_none ws cx answers
    simpa [opPolls, noWrite, empty] using ih

/-- A send writes its message at most once over all its polls, and nothing else. -/
theorem opPolls_writes (op : Nat) (msg : Option Message)
    (polls : List (WebSocketStream × Context × SendAnswers)) :
    writes (pollEvents (opPolls op msg polls)) = [] ∨
      ∃ m r, msg = some m ∧ writes (pollEvents (opPolls op msg polls)) = [(m, r)] := by
  induction polls generalizing msg with
  | nil => simp [opPolls]
  | cons x rest ih =>
    obtain ⟨ws, cx, answers⟩ := x
    rcases msg with _ | m
    · exact .inl (opPolls_none op _).1
    · rcases WebSocketStream.sendHelper_of_some ws cx answers m with
        ⟨kept, noWrite, -⟩ | ⟨taken, R, E, events, noR, noE, -, -⟩
      · rcases ih (some m) with none | ⟨m', r, same, one⟩
        · exact .inl (by simp [opPolls, kept, noWrite, none])
        · exact .inr ⟨m', r, same, by simp [opPolls, kept, noWrite, one]⟩
      · exact .inr ⟨m, answers.write, rfl, by
          simp [opPolls, taken, events, noR, noE, (opPolls_none op rest).1, Event.written]⟩

/-- What a send has done by its first successful poll, from slot `msg`. With the message in
the slot: it wrote the message once, the write accepted or queued, and the last event is a
flush that succeeded or found the connection just closed. With an empty slot: the same
without the write. -/
def Succeeded : Option Message → List Event → Prop
  | none, events => writes events = [] ∧
      ∃ E f, events = E ++ [.flush f] ∧ (f = .ok () ∨ f = .error .connectionClosed)
  | some m, events => ∃ E1 r E2 f, events = E1 ++ .write m r :: E2 ++ [.flush f] ∧
      writes E1 = [] ∧ writes E2 = [] ∧ (r = .ok () ∨ r = .error (.io .wouldBlock)) ∧
      (f = .ok () ∨ f = .error .connectionClosed)

/-- The polls of a send up to its first `Ready` result, when that result is `Ready(Ok)`,
did what `Succeeded` says. -/
theorem opPolls_first_ok (op : Nat) (msg : Option Message)
    (polls : List (WebSocketStream × Context × SendAnswers)) (pre : List SendPoll) (p : SendPoll)
    (post : List SendPoll) (split : opPolls op msg polls = pre ++ p :: post)
    (pending : ∀ q ∈ pre, q.result = .pending) (ok : p.result = .ready (.ok ())) :
    Succeeded msg (pollEvents (pre ++ [p])) := by
  induction polls generalizing msg pre with
  | nil => simp [opPolls] at split
  | cons x rest ih =>
    obtain ⟨ws, cx, answers⟩ := x
    rcases pre with _ | ⟨q, pre⟩
    · simp only [opPolls, List.nil_append, List.cons.injEq] at split
      obtain ⟨rfl, -⟩ := split
      rcases msg with _ | m
      · obtain ⟨events, flushed⟩ := WebSocketStream.sendHelper_none_ok ok
        exact ⟨by simp [events, Event.written], [.setWaker .write cx.waker], _, by simp [events],
          flushed⟩
      · rcases WebSocketStream.sendHelper_of_some ws cx answers m with
          ⟨-, -, notOk⟩ | ⟨-, R, E, events, noR, -, accepted, succeeded⟩
        · exact absurd ok notOk
        · obtain ⟨rfl, flushed⟩ := succeeded ok
          have queued := accepted fun _ failed => nomatch failed.symm.trans ok
          exact ⟨R, _, [.setWaker .write cx.waker], _, by simp [events], noR, rfl, queued,
            flushed⟩
    · simp only [opPolls, List.cons_append, List.cons.injEq] at split
      obtain ⟨rfl, rest_split⟩ := split
      have later := ih _ pre rest_split (fun q' member => pending q' (by simp [member]))
      have first := pending _ (List.mem_cons_self _ _)
      rcases msg with _ | m
      · obtain ⟨noWrite, empty⟩ :=
          WebSocketStream.sendHelper_of_none ws cx answers
        simp only [empty] at later
        obtain ⟨noLater, E, f, events, flushed⟩ := later
        exact ⟨by simp only [List.cons_append, pollEvents_cons, writes_append, noLater,
            List.append_nil]; exact noWrite,
          (ws.sendHelper none cx answers).events ++ E, f, by simp [events], flushed⟩
      · rcases WebSocketStream.sendHelper_of_some ws cx answers m with
          ⟨kept, noWrite, -⟩ | ⟨taken, R, E, events, noR, noE, accepted, -⟩
        · simp only [kept] at later
          obtain ⟨E1, r, E2, f, split, noE1, noE2, written, flushed⟩ := later
          exact ⟨(ws.sendHelper (some m) cx answers).events ++ E1, r, E2, f, by simp [split],
            by simp [noWrite, noE1], noE2, written, flushed⟩
        · simp only [taken] at later
          obtain ⟨noLater, E', f, split, flushed⟩ := later
          have noE' : writes E' = [] := by simpa [split, Event.written] using noLater
          have queued := accepted fun _ failed => nomatch failed.symm.trans first
          exact ⟨R, _, E ++ E', f, by simp [events, split], noR, by simp [noE, noE'], queued,
            flushed⟩

/-- A send whose first `Ready` result is an error while its slot still holds the message
(the error came from `poll_ready`) never wrote. -/
theorem opPolls_first_error_kept (op : Nat) (msg : Option Message)
    (polls : List (WebSocketStream × Context × SendAnswers)) (pre : List SendPoll) (p : SendPoll)
    (post : List SendPoll) (m : Message) (split : opPolls op msg polls = pre ++ p :: post)
    (pending : ∀ q ∈ pre, q.result = .pending) (kept : p.slot = some m) :
    writes (pollEvents (pre ++ [p])) = [] := by
  induction polls generalizing msg pre with
  | nil => simp [opPolls] at split
  | cons x rest ih =>
    obtain ⟨ws, cx, answers⟩ := x
    rcases pre with _ | ⟨q, pre⟩
    · simp only [opPolls, List.nil_append, List.cons.injEq] at split
      obtain ⟨rfl, -⟩ := split
      rcases msg with _ | m'
      · simpa using (WebSocketStream.sendHelper_of_none ws cx answers).1
      · rcases WebSocketStream.sendHelper_of_some ws cx answers m' with
          ⟨-, noWrite, -⟩ | ⟨taken, -⟩
        · simpa using noWrite
        · simp [taken] at kept
    · simp only [opPolls, List.cons_append, List.cons.injEq] at split
      obtain ⟨rfl, rest_split⟩ := split
      have later := ih _ pre rest_split (fun q' member => pending q' (by simp [member]))
      have firstQuiet : writes (ws.sendHelper msg cx answers).events = [] := by
        rcases msg with _ | m'
        · exact (WebSocketStream.sendHelper_of_none ws cx answers).1
        · rcases WebSocketStream.sendHelper_of_some ws cx answers m' with
            ⟨-, noWrite, -⟩ | ⟨taken, -⟩
          · exact noWrite
          · rw [taken] at rest_split
            have emptied := (opPolls_none op rest).2 p (by simp [rest_split])
            simp [kept] at emptied
      simpa [firstQuiet] using later

/-! ## Many sends on one connection -/

/-- A connection with the sends in flight on it, by operation number: the message slot of
each `Send` future (of `WebSocketStream::send`, of the split sender's `send`, or a byte
sender's `poll_close` slot). A send made later in a run is one not polled until then. -/
structure Sends where
  ws : WebSocketStream
  slots : List Send

/-- A step of the system: poll send `op`, or make any other call on the connection. -/
inductive SendStep
  | poll (op : Nat) (cx : Context) (answers : SendAnswers)
  | call (c : Call)

namespace Sends

/-- One step, with the poll it records. A poll runs `send_helper` over the send's own slot
as one step (a `Send<&Shared>` holds the cell's lock for the whole of it). -/
def step (sys : Sends) : SendStep → Sends × Option SendPoll
  | .poll op cx answers =>
    match sys.slots[op]? with
    | some f =>
      let d := f.poll sys.ws cx answers
      (⟨d.1.stream, sys.slots.set op d.2⟩, some ⟨op, d.1.result, d.2.msg, d.1.events⟩)
    | none => (sys, none)
  | .call c => (⟨(sys.ws.call c).stream, sys.slots⟩, none)

/-- The polls a run records, in order. -/
def history (sys : Sends) : List SendStep → List SendPoll
  | [] => []
  | st :: sts => (sys.step st).2.toList ++ (sys.step st).1.history sts

/-- The polls of one send, read out of any interleaving, are a run of that send alone over
the connection states its polls found. -/
theorem history_eq_opPolls (steps : List SendStep) (i : Nat) :
    ∀ (sys : Sends) (f : Send), sys.slots[i]? = some f →
      ∃ polls, (sys.history steps).filter (·.op == i) = opPolls i f.msg polls := by
  induction steps with
  | nil => exact fun _ _ _ => ⟨[], rfl⟩
  | cons st sts ih =>
    intro sys f slot
    cases st with
    | call c => simpa [history, step] using ih ⟨(sys.ws.call c).stream, sys.slots⟩ f slot
    | poll op cx answers =>
      by_cases same : op = i
      · subst same
        obtain ⟨polls, eq⟩ := ih (sys.step (.poll op cx answers)).1 (f.poll sys.ws cx answers).2
          (by simpa [step, slot] using List.getElem?_set_self (List.getElem?_eq_some_iff.1 slot).1)
        exact ⟨(sys.ws, cx, answers) :: polls,
          by simpa [history, step, slot, opPolls, Send.poll] using eq⟩
      · cases other : sys.slots[op]? with
        | none => simpa [history, step, other] using ih sys f slot
        | some g =>
          simpa [history, step, other, same] using
            ih _ f (by simpa [List.getElem?_set_ne same] using slot)

end Sends

/-- What a send of `m` does over its polls: it writes `m` at most once and nothing else; at
its first `Ready`, a success has written `m` once (accepted or queued) and then flushed;
and a failure with the message still in its slot (a failure of `poll_ready`) never wrote. -/
structure SendContract (m : Message) (polls : List SendPoll) : Prop where
  writtenAtMostOnce : writes (pollEvents polls) = [] ∨ ∃ r, writes (pollEvents polls) = [(m, r)]
  firstOk : ∀ pre p post, polls = pre ++ p :: post → (∀ q ∈ pre, q.result = .pending) →
    p.result = .ready (.ok ()) → Succeeded (some m) (pollEvents (pre ++ [p]))
  firstErrorKept : ∀ pre p post e, polls = pre ++ p :: post →
    (∀ q ∈ pre, q.result = .pending) →
    p.result = .ready (.error e) → p.slot = some m → writes (pollEvents (pre ++ [p])) = []

/-- Every run of a send alone keeps the contract. -/
theorem opPolls_contract (op : Nat) (m : Message)
    (polls : List (WebSocketStream × Context × SendAnswers)) :
    SendContract m (opPolls op (some m) polls) where
  writtenAtMostOnce := by
    rcases opPolls_writes op (some m) polls with none | ⟨_, r, ⟨⟩, one⟩
    exacts [.inl none, .inr ⟨r, one⟩]
  firstOk pre p post split pending ok := opPolls_first_ok op _ polls pre p post split pending ok
  firstErrorKept pre p post _ split pending _ kept :=
    opPolls_first_error_kept op _ polls pre p post m split pending kept

/-- For any sends in flight on one connection, under any interleaving of their polls with
each other and with any other calls, and any engine answers: the polls of a send of `m`
write `m` at most once and nothing else; at the first `Ready`, a success follows one
accepted or queued write of `m` and a flush that succeeded or found the connection just
closed, and a failure of `poll_ready` follows no write; and a byte-sender `poll_write`
returns `Ready(Ok(n))` only with `n` the buffer's length after one write of the buffer as
a binary message, accepted or queued. -/
theorem send_written_at_most_once (sys : Sends) (steps : List SendStep) (i : Nat) (m : Message)
    (holds : sys.slots[i]? = some (.send m)) :
    SendContract m ((sys.history steps).filter (·.op == i)) ∧
    ∀ (ws : WebSocketStream) cx buf readyFlush write (n : Nat),
      (ws.pollWrite cx buf readyFlush write).result = .ready (.ok n) →
      n = buf.length ∧
        writes (ws.pollWrite cx buf readyFlush write).events = [(.binary buf, write)] ∧
        (write = .ok () ∨ write = .error (.io .wouldBlock)) := by
  refine ⟨?_, fun _ _ _ _ _ _ ok => WebSocketStream.pollWrite_ok_written ok⟩
  obtain ⟨polls, eq⟩ := Sends.history_eq_opPolls steps i sys _ holds
  rw [eq]
  exact opPolls_contract i m polls

/-- Two sends on a fresh connection, the close polled first and its write queued behind a
would-block: the contract of the close over that run. -/
theorem send_written_at_most_once_two_sends :
    (⟨.new ⟨none, none⟩, [.send (.text "a"), .close none]⟩ : Sends).slots[1]? =
      some (.send (.close none)) ∧
    (SendContract (.close none)
      (((⟨.new ⟨none, none⟩, [.send (.text "a"), .close none]⟩ : Sends).history
        [.poll 1 ⟨⟨1⟩⟩ ⟨.ok (), .error (.io .wouldBlock), .ok ()⟩,
          .poll 0 ⟨⟨0⟩⟩ ⟨.ok (), .ok (), .ok ()⟩]).filter (·.op == 1)) ∧
    ∀ (ws : WebSocketStream) cx buf readyFlush write (n : Nat),
      (ws.pollWrite cx buf readyFlush write).result = .ready (.ok n) →
      n = buf.length ∧
        writes (ws.pollWrite cx buf readyFlush write).events = [(.binary buf, write)] ∧
        (write = .ok () ∨ write = .error (.io .wouldBlock))) :=
  ⟨rfl, send_written_at_most_once _ _ 1 (.close none) rfl⟩

end AsyncTungstenite
