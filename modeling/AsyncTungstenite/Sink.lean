import AsyncTungstenite.Run
import Mathlib.Data.List.Basic

/-!
# The sink: readiness, the close driver and closed connections

`ready` is written by `start_send` (false exactly when the write would block), by every
flush of `poll_ready` or `poll_flush` that does not block (true, whatever the flush
returned), and by `poll_close` (true, first thing). Reading the events of a run, `ready`
is the value the last of these left, or its initial value.

`closing` is set by a `poll_close` whose engine call would block and is never cleared,
so the close frame is asked for once and afterwards the driver only flushes.

A closed connection ends the inbound sequence whether the engine calls it
`ConnectionClosed` or `AlreadyClosed`, while the flush paths take only
`ConnectionClosed` for success.
-/

set_option autoImplicit false

namespace AsyncTungstenite

/-- The value an engine call leaves in `ready`, for the calls that write it: a write leaves
whether it did not block, a flush that did not block leaves `true`. -/
def Event.readyEffect : Event → Option Bool
  | .write _ r => some (decide (r ≠ .error (.io .wouldBlock)))
  | .flush r => if r = .error (.io .wouldBlock) then none else some true
  | _ => none

/-- The values the ready-affecting events of one call leave, in order. `poll_close` sets
`ready` before its engine call, whatever that returns. -/
def Call.readyEffects (c : Call) (events : List Event) : List Bool :=
  match c with
  | .pollClose .. => [true]
  | _ => events.filterMap Event.readyEffect

namespace WebSocketStream

/-- The values left by the ready-affecting events of a run, in order. -/
def readyTrail (s : WebSocketStream) : List Call → List Bool
  | [] => []
  | c :: cs => c.readyEffects (s.call c).events ++ readyTrail (s.call c).stream cs

/-- A call record leaves `ready` as its last ready-affecting event left it, or at `init`
when there is none. -/
def ReadyTracked {α : Type} (init : Bool) (d : Called α) : Prop :=
  d.stream.ready = ((d.events.filterMap Event.readyEffect).getLast?).getD init

private theorem getD_or {β : Type} (o p : Option β) (b : β) :
    (o.or p).getD b = o.getD (p.getD b) := by
  cases o <;> rfl

section Tracked

variable {α β : Type} {s : WebSocketStream} {cx : Context}

theorem readyTracked_andThen {init : Bool} {c : Called α}
    {next : α → WebSocketStream → Called β}
    (first : ReadyTracked init c) (second : ReadyTracked c.stream.ready (next c.result c.stream)) :
    ReadyTracked init (c.andThen next) := by
  simp only [ReadyTracked, Called.andThen_stream, Called.andThen_events, List.filterMap_append,
    List.getLast?_append, getD_or] at *
  rw [second, first]

theorem readyTracked_map {init : Bool} {c : Called α} (f : α → β)
    (tracked : ReadyTracked init c) :
    ReadyTracked init (c.map f) := tracked

theorem readyTracked_stay (r : α) (t : WebSocketStream) : ReadyTracked t.ready ⟨r, t, []⟩ :=
  rfl

theorem pollNext_readyTracked (read : Except WsError Message) :
    ReadyTracked s.ready (s.pollNext cx read) := by
  cases fused : s.ended
  · rcases answer_cases read with ⟨m, rfl⟩ | rfl | ⟨e, rfl, blocking⟩
    · simp [ReadyTracked, pollNext_ok fused, Event.readyEffect]
    · simp [ReadyTracked, pollNext_wouldBlock fused, Event.readyEffect]
    · simp [ReadyTracked, pollNext_error fused blocking, Event.readyEffect]
  · simp [ReadyTracked, pollNext_of_ended fused]

theorem pollReady_readyTracked (flush : Except WsError Unit) :
    ReadyTracked s.ready (s.pollReady cx flush) := by
  cases ready : s.ready
  · by_cases blocked : flush = .error (.io .wouldBlock)
    · subst blocked; simp [ReadyTracked, pollReady_wouldBlock ready, Event.readyEffect, ready]
    · simp [ReadyTracked, pollReady_flushed ready blocked, Event.readyEffect, blocked]
  · simp [ReadyTracked, pollReady_of_ready ready, ready]

theorem startSend_readyTracked (item : Message) (write : Except WsError Unit) :
    ReadyTracked s.ready (s.startSend item write) := by
  rcases answer_cases write with ⟨⟨⟩, rfl⟩ | rfl | ⟨e, rfl, blocking⟩
  · simp [ReadyTracked, startSend_ok, Event.readyEffect]
  · simp [ReadyTracked, startSend_wouldBlock, Event.readyEffect]
  · simp [ReadyTracked, startSend_error blocking, Event.readyEffect, blocking]

theorem pollFlush_readyTracked (flush : Except WsError Unit) :
    ReadyTracked s.ready (s.pollFlush cx flush) := by
  by_cases blocked : flush = .error (.io .wouldBlock)
  · subst blocked; simp [ReadyTracked, pollFlush_wouldBlock, Event.readyEffect]
  · simp [ReadyTracked, pollFlush_flushed blocked, Event.readyEffect, blocked]

theorem sendHelper_readyTracked (msg : Option Message) (answers : SendAnswers) :
    ReadyTracked s.ready (s.sendHelper msg cx answers) := by
  unfold sendHelper
  split
  · refine readyTracked_andThen (pollReady_readyTracked _) ?_
    dsimp only
    split
    · exact readyTracked_stay _ _
    · exact readyTracked_stay _ _
    · refine readyTracked_andThen (startSend_readyTracked _ _) ?_
      dsimp only
      split
      · exact readyTracked_stay _ _
      · exact readyTracked_map _ (pollFlush_readyTracked _)
  · exact readyTracked_map _ (pollFlush_readyTracked _)

theorem pollWrite_readyTracked (buf : List UInt8) (readyFlush write : Except WsError Unit) :
    ReadyTracked s.ready (s.pollWrite cx buf readyFlush write) := by
  unfold pollWrite
  refine readyTracked_andThen (pollReady_readyTracked _) ?_
  dsimp only
  split
  · exact readyTracked_stay _ _
  · exact readyTracked_stay _ _
  · refine readyTracked_andThen (startSend_readyTracked _ _) ?_
    dsimp only
    split <;> exact readyTracked_stay _ _

end Tracked

variable {s : WebSocketStream}

/-- The step lemma: after a call, `ready` is what the call's last ready-affecting event
left, or what it was. -/
theorem call_ready (c : Call) :
    (s.call c).stream.ready = ((c.readyEffects (s.call c).events).getLast?).getD s.ready := by
  cases c with
  | pollNext cx read => exact pollNext_readyTracked read
  | isTerminated => rfl
  | pollReady cx flush => exact pollReady_readyTracked flush
  | startSend item write => exact startSend_readyTracked item write
  | pollFlush cx flush => exact pollFlush_readyTracked flush
  | pollClose cx res => simp [call, Call.readyEffects, pollClose_stream]
  | sendHelper msg cx answers => exact sendHelper_readyTracked msg answers
  | pollWrite cx buf readyFlush write => exact pollWrite_readyTracked buf readyFlush write

/-- The run lemma: after a run, `ready` is what the run's last ready-affecting event left,
or what it was. -/
theorem after_ready (cs : List Call) :
    (s.after cs).ready = ((s.readyTrail cs).getLast?).getD s.ready := by
  induction cs generalizing s with
  | nil => rfl
  | cons c cs ih =>
    simp only [after_cons, readyTrail, ih, List.getLast?_append, getD_or, call_ready]

/-- The readiness flag over every run of a connection: `ready` is false exactly when the
run's last ready-affecting event is a write that would block, where the ready-affecting
events are every `start_send`, every flush of `poll_ready` or `poll_flush` that did not
block (whatever it returned) and every `poll_close`; `poll_ready` flushes exactly when
`ready` is false; and a `poll_ready` whose flush fails returns the error and sets `ready`,
so the next `poll_ready` reports readiness with no I/O. -/
theorem ready_flag (inner : AllowStd) (calls : List Call) :
    (((new inner).after calls).ready = false ↔
      ((new inner).readyTrail calls).getLast? = some false) ∧
    (∀ (t : WebSocketStream) (cx : Context) (flush : Except WsError Unit),
      (t.pollReady cx flush).events =
        if t.ready then [] else [.setWaker .write cx.waker, .flush flush]) ∧
    ∀ (t : WebSocketStream) (cx : Context) (e : WsError), t.ready = false →
      e ≠ .io .wouldBlock →
      (t.pollReady cx (.error e)).result = .ready (.error e) ∧
      (t.pollReady cx (.error e)).stream.ready = true ∧
      ((t.pollReady cx (.error e)).stream.pollReady cx (.ok ())).events = [] := by
  refine ⟨?_, fun t cx flush => pollReady_events, fun t cx e blocked blocking => ?_⟩
  · rw [after_ready]
    cases ((new inner).readyTrail calls).getLast? <;> simp [new]
  · have flushed : (.error e : Except WsError Unit) ≠ .error (.io .wouldBlock) := by
      simpa using blocking
    simp [pollReady_flushed blocked flushed]

/-- After a write that would block, a `poll_ready` whose flush fails with a protocol error
returns it and sets `ready`; the next `poll_ready` answers `Ready(Ok)` with no engine
call. -/
theorem pollReady_error_sets_ready :
    let s := ((new ⟨none, none⟩).startSend (.text "1") (.error (.io .wouldBlock))).stream
    let failed := s.pollReady ⟨⟨0⟩⟩ (.error .protocol)
    s.ready = false ∧ failed.result = .ready (.error .protocol) ∧ failed.stream.ready = true ∧
      (failed.stream.pollReady ⟨⟨0⟩⟩ (.ok ())).result = .ready (.ok ()) ∧
      (failed.stream.pollReady ⟨⟨0⟩⟩ (.ok ())).events = [] := by
  decide

/-- A call never clears `closing`, and once it is set no call asks the engine to close. -/
theorem call_closing (c : Call) (closing : s.closing = true) :
    (s.call c).stream.closing = true ∧ ∀ f r, Event.close f r ∉ (s.call c).events := by
  cases c with
  | pollClose cx res => simp [call, pollClose_stream, closing]
  | sendHelper msg cx answers =>
    rcases sendHelper_cases s cx msg answers with
      ⟨-, eq⟩ | ⟨_, -, -, eq⟩ | ⟨_, _, -, -, -, -, eq⟩ | ⟨_, -, -, -, eq⟩ <;>
      simp [call, eq, closing]
  | pollWrite cx buf readyFlush write =>
    rcases pollWrite_cases s cx buf readyFlush write with
      ⟨-, eq⟩ | ⟨_, -, eq⟩ | ⟨_, -, -, -, eq⟩ | ⟨-, -, eq⟩ <;>
      simp [call, eq, closing]
  | _ => simp [call, closing]

/-- The close driver: over every run `closing` is never cleared and, once set, no close
frame is asked for again; each `poll_close` calls `close(None)` while `closing` is false
and only `flush` once it is true, after binding the write waker; it is `Pending` exactly
when that call would block (and then sets `closing`), `Ready(Ok)` exactly when the call
succeeded or reported `ConnectionClosed`, and otherwise `Ready(Err e)` with the engine's
own error. -/
theorem close_driver :
    (∀ (s : WebSocketStream) (calls : List Call), s.closing = true →
      (s.after calls).closing = true ∧
        ∀ d ∈ s.run calls, ∀ f r, Event.close f r ∉ d.events) ∧
    ∀ (s : WebSocketStream) (cx : Context) (res : Except WsError Unit),
      (s.pollClose cx res).events =
        [.setWaker .write cx.waker, if s.closing then .flush res else .close none res] ∧
      ((s.pollClose cx res).result = .pending ↔ res = .error (.io .wouldBlock)) ∧
      (res = .error (.io .wouldBlock) → (s.pollClose cx res).stream.closing = true) ∧
      ((s.pollClose cx res).result = .ready (.ok ()) ↔
        res = .ok () ∨ res = .error .connectionClosed) ∧
      ∀ e, res = .error e → e ≠ .io .wouldBlock → e ≠ .connectionClosed →
        (s.pollClose cx res).result = .ready (.error e) := by
  refine ⟨fun s calls closing => ?_, fun s cx res => ?_⟩
  · induction calls generalizing s with
    | nil => simp [closing]
    | cons c cs ih =>
      obtain ⟨stays, noClose⟩ := call_closing c closing
      obtain ⟨after, rest⟩ := ih _ stays
      exact ⟨after, by simpa [noClose] using rest⟩
  · refine ⟨pollClose_events, ?_, fun blocked => by simp [pollClose_stream, blocked], ?_,
      fun e answer blocking closed => by simp [pollClose_result, answer, blocking, closed]⟩
    all_goals rw [pollClose_result]; split_ifs <;> simp_all

/-- A poll of `send_helper` whose slot is empty afterwards and whose last event is the
flush of `poll_flush` returns what `poll_flush` returned, on the stream it had reached. -/
theorem sendHelper_final_flush {cx : Context} {msg : Option Message} {answers : SendAnswers}
    (taken : (s.sendHelper msg cx answers).result.2 = none)
    (last : (s.sendHelper msg cx answers).events.getLast? = some (.flush answers.flush)) :
    ∃ t : WebSocketStream,
      (s.sendHelper msg cx answers).result.1 = (t.pollFlush cx answers.flush).result := by
  rcases sendHelper_cases s cx msg answers with
    ⟨-, eq⟩ | ⟨_, -, -, eq⟩ | ⟨_, _, -, -, -, -, eq⟩ | ⟨m, -, -, -, eq⟩
  · exact ⟨s, by simp [eq]⟩
  · simp [eq] at taken
  · simp [eq] at last
  · exact ⟨((s.pollReady cx answers.readyFlush).stream.startSend m answers.write).stream,
      by simp [eq]⟩

/-- How the connection treats the engine's two closed-connection errors: `poll_next` ends
the sequence with `None` on either, in every state; `poll_flush`, `poll_close` (in either
phase) and the final flush of `send_helper` succeed on `ConnectionClosed` and return
`AlreadyClosed` as an error. -/
theorem closed_connection_outcomes (s : WebSocketStream) (cx : Context) :
    (∀ e : WsError, e.isClosed → (s.pollNext cx (.error e)).result = .ready none) ∧
    (s.pollFlush cx (.error .connectionClosed)).result = .ready (.ok ()) ∧
    (s.pollFlush cx (.error .alreadyClosed)).result = .ready (.error .alreadyClosed) ∧
    (s.pollClose cx (.error .connectionClosed)).result = .ready (.ok ()) ∧
    (s.pollClose cx (.error .alreadyClosed)).result = .ready (.error .alreadyClosed) ∧
    ∀ (msg : Option Message) (answers : SendAnswers),
      (s.sendHelper msg cx answers).result.2 = none →
      (s.sendHelper msg cx answers).events.getLast? = some (.flush answers.flush) →
      (answers.flush = .error .connectionClosed →
        (s.sendHelper msg cx answers).result.1 = .ready (.ok ())) ∧
      (answers.flush = .error .alreadyClosed →
        (s.sendHelper msg cx answers).result.1 = .ready (.error .alreadyClosed)) := by
  refine ⟨fun e closed => ?_, by simp [pollFlush_flushed], by simp [pollFlush_flushed],
    by simp [pollClose_result], by simp [pollClose_result], fun msg answers taken last => ?_⟩
  · cases fused : s.ended
    · have blocking : e ≠ .io .wouldBlock := by rintro rfl; simp at closed
      simp [pollNext_error fused blocking, closed]
    · simp [pollNext_of_ended fused]
  · obtain ⟨t, eq⟩ := sendHelper_final_flush taken last
    exact ⟨fun closed => by simp [eq, closed, pollFlush_flushed],
      fun closed => by simp [eq, closed, pollFlush_flushed]⟩

/-- `AlreadyClosed` from the engine is an error for `poll_flush` and for `poll_close`. -/
theorem alreadyClosed_flush_is_error :
    ((new ⟨none, none⟩).pollFlush ⟨⟨0⟩⟩ (.error .alreadyClosed)).result =
        .ready (.error .alreadyClosed) ∧
    ((new ⟨none, none⟩).pollClose ⟨⟨0⟩⟩ (.error .alreadyClosed)).result =
        .ready (.error .alreadyClosed) := by
  decide

end WebSocketStream

end AsyncTungstenite
