import AsyncTungstenite.Lifetime
import AsyncTungstenite.Inbound
import AsyncTungstenite.Independence
import AsyncTungstenite.Sink

/-!
# What a program sees on each of its connections

A program makes its connections with `WebSocketStream::new` and then uses each one directly,
through the halves of a split, and directly again after `reunite`, in any order and with any
answers of the engine. Each connection's calls, read out of the run, are a direct run of the
stream from `new` (`Tracked.connLog_init`), so the laws of stream runs hold of each
connection of the program, whichever handles its calls went through:

* the inbound sequence is fused, and `is_terminated`, of the stream or of the receiver,
  tells whether it has ended (`connection_inbound_fused`);
* `poll_close`, of the stream or of the sender, asks the engine for a close frame until one
  of them returns `Pending`, and only flushes from then on (`connection_close_driver`);
* the calls of the receiver and those of the sender return what they would return with the
  other side's calls removed (`connection_sides_independent`).

## Main definitions

* `connectionLog` — the calls made on one connection of a program run
* `startedClosing` — a `poll_close` that returned `Pending`, which sets `closing`
-/

set_option autoImplicit false

namespace AsyncTungstenite

/-- The calls made on connection `n`, with their replies and events, in a run of a program
that made connections `0, …, m - 1` with `WebSocketStream::new` from the transports
`inner`. -/
def connectionLog (inner : Nat → AllowStd) (m : Nat) (steps : List StoreStep) (n : Nat) :
    List (Call × Reply × List Event) :=
  Tracked.connLog n ((Tracked.init (fun n => .new (inner n)) m).trace steps)

/-- The `poll_next` results of a log, each with its events. -/
def logNextPolls (log : List (Call × Reply × List Event)) :
    List (Poll (Option (Except WsError Message)) × List Event) :=
  log.filterMap fun e => match e.2.1 with
    | .next r => some (r, e.2.2)
    | _ => none

/-- A `poll_close` that returned `Pending`: its engine call would block, and it set
`closing`. -/
def startedClosing : Call × Reply × List Event → Bool
  | (.pollClose _ _, .poll .pending, _) => true
  | _ => false

namespace WebSocketStream

variable {s : WebSocketStream}

/-- An entry of a direct run's log is the call made on the stream the entries before it
left. -/
theorem log_eq_append_cons {cs : List Call} {pre post : List (Call × Reply × List Event)}
    {e : Call × Reply × List Event} (split : s.log cs = pre ++ e :: post) :
    pre = s.log (pre.map Prod.fst) ∧
      e = (e.1, ((s.after (pre.map Prod.fst)).call e.1).result,
        ((s.after (pre.map Prod.fst)).call e.1).events) := by
  induction pre generalizing s cs with
  | nil =>
    cases cs with
    | nil => cases split
    | cons c cs =>
      obtain ⟨rfl, -⟩ := List.cons.inj split
      exact ⟨rfl, rfl⟩
  | cons x pre ih =>
    cases cs with
    | nil => cases split
    | cons c cs =>
      obtain ⟨rfl, rest⟩ := List.cons.inj split
      obtain ⟨before, at_e⟩ := ih rest
      exact ⟨by rw [List.map_cons, log, ← before], at_e⟩

theorem log_replies (cs : List Call) : (s.log cs).map (·.2.1) = s.replies cs := by
  induction cs generalizing s with
  | nil => rfl
  | cons c cs ih => simp [log, ih]

theorem logNextPolls_log (cs : List Call) : logNextPolls (s.log cs) = nextPolls (s.run cs) := by
  induction cs generalizing s with
  | nil => rfl
  | cons c cs ih =>
    have rest := ih (s := (s.call c).stream)
    simp only [logNextPolls, nextPolls] at rest
    cases h : (s.call c).result <;> simp [log, run, logNextPolls, nextPolls, h, rest]

/-- The step lemma: a call leaves the stream closing iff it was closing or the call is a
`poll_close` that returned `Pending`. -/
theorem call_closing_eq (c : Call) :
    (s.call c).stream.closing =
      (s.closing || startedClosing (c, (s.call c).result, (s.call c).events)) := by
  cases c with
  | pollClose cx res =>
    simp only [call, Called.map_result, Called.map_stream, pollClose_stream, pollClose_result]
    split_ifs <;> simp_all [startedClosing]
  | _ => simp [call, startedClosing]

theorem after_closing (cs : List Call) :
    (s.after cs).closing = (s.closing || (s.log cs).any startedClosing) := by
  induction cs generalizing s with
  | nil => simp [log]
  | cons c cs ih => simp [log, ih, call_closing_eq, Bool.or_assoc]

/-- The replies of the entries of a log whose calls pass a test are the replies of those
calls in the run. -/
theorem log_filter_replies (p : Call → Bool) (cs : List Call) :
    ((s.log cs).filter (p ·.1)).map (·.2.1) =
      ((cs.zip (s.replies cs)).filter (p ·.1)).map (·.2) := by
  induction cs generalizing s with
  | nil => rfl
  | cons c cs ih => cases h : p c <;> simp [log, h, ih]

end WebSocketStream

/-- Every connection's log is a direct run from `new`. -/
theorem connectionLog_eq (inner : Nat → AllowStd) (m : Nat) (steps : List StoreStep) (n : Nat) :
    ∃ calls, connectionLog inner m steps n = (WebSocketStream.new (inner n)).log calls :=
  ⟨_, Tracked.connLog_init _ m steps n⟩

/-- On every connection of every program run, direct calls and calls through the halves of
its splits alike: its `poll_next` results are `Pending`s and messages, then at most one
terminal result (`None`, or an error other than a closed connection), then `None` with no
waker bound and no engine call; and each `is_terminated` returns whether some earlier call
on the connection returned a terminal result. -/
theorem connection_inbound_fused (inner : Nat → AllowStd) (m : Nat) (steps : List StoreStep)
    (n : Nat) :
    (∃ goesOn rest, logNextPolls (connectionLog inner m steps n) = goesOn ++ rest ∧
      (∀ p ∈ goesOn, isLive p.1) ∧
      (rest = [] ∨ ∃ t fused, rest = t :: fused ∧ isTerminal t.1 ∧
        ∀ p ∈ fused, p = (.ready none, []))) ∧
    ∀ pre e post, connectionLog inner m steps n = pre ++ e :: post → e.1 = .isTerminated →
      e.2.1 = .terminated ((pre.map (·.2.1)).any Reply.terminal) := by
  obtain ⟨calls, log⟩ := connectionLog_eq inner m steps n
  refine ⟨by rw [log, WebSocketStream.logNextPolls_log]; exact
    WebSocketStream.nextPolls_shape rfl calls, fun pre e post split terminated => ?_⟩
  rw [log] at split
  obtain ⟨before, at_e⟩ := WebSocketStream.log_eq_append_cons split
  have replies : pre.map (·.2.1) = (WebSocketStream.new (inner n)).replies (pre.map Prod.fst) := by
    nth_rewrite 1 [before]
    exact WebSocketStream.log_replies _
  rw [at_e, terminated, replies]
  simp [WebSocketStream.call, WebSocketStream.isTerminated, WebSocketStream.after_ended,
    WebSocketStream.new]

/-- The close driver on every connection of every program run, through the stream or its
sender alike: `closing` is never cleared; once a `poll_close` of the connection has returned
`Pending`, no call asks the engine for a close frame again; each `poll_close` binds the
write waker and then calls `close(None)` if no earlier `poll_close` returned `Pending`, and
only `flush` otherwise; it is `Pending` exactly when that call would block, `Ready(Ok)`
exactly when it succeeded or reported `ConnectionClosed`, and otherwise `Ready(Err e)` with
the engine's own error. -/
theorem connection_close_driver (inner : Nat → AllowStd) (m : Nat) (steps : List StoreStep) :
    (∀ (s : WebSocketStream) (calls : List Call), s.closing = true →
      (s.after calls).closing = true) ∧
    ∀ n pre e post, connectionLog inner m steps n = pre ++ e :: post →
      (pre.any startedClosing → ∀ f r, Event.close f r ∉ e.2.2) ∧
      ∀ cx res, e.1 = .pollClose cx res →
        e.2.2 = [.setWaker .write cx.waker,
          if pre.any startedClosing then .flush res else .close none res] ∧
        (e.2.1 = .poll .pending ↔ res = .error (.io .wouldBlock)) ∧
        (e.2.1 = .poll (.ready (.ok ())) ↔ res = .ok () ∨ res = .error .connectionClosed) ∧
        ∀ err, res = .error err → err ≠ .io .wouldBlock → err ≠ .connectionClosed →
          e.2.1 = .poll (.ready (.error err)) := by
  refine ⟨fun s calls closing => (WebSocketStream.close_driver.1 s calls closing).1,
    fun n pre e post split => ?_⟩
  obtain ⟨calls, log⟩ := connectionLog_eq inner m steps n
  rw [log] at split
  obtain ⟨before, at_e⟩ := WebSocketStream.log_eq_append_cons split
  set t := (WebSocketStream.new (inner n)).after (pre.map Prod.fst)
  have closing : t.closing = pre.any startedClosing := by
    rw [WebSocketStream.after_closing, ← before]
    rfl
  refine ⟨fun started f r => ?_, fun cx res is_close => ?_⟩
  · rw [at_e]
    exact (WebSocketStream.call_closing e.1 (closing.trans started)).2 f r
  · obtain ⟨events, pending, -, ok, error⟩ := WebSocketStream.close_driver.2 t cx res
    rw [at_e, is_close]
    simp only [WebSocketStream.call, Called.map_result, Called.map_events, Reply.poll.injEq]
    exact ⟨by rw [events, closing], pending, ok,
      fun err answer blocking closed => by rw [error err answer blocking closed]⟩

/-- With the engine's answers fixed, an inbound and an outbound call commute on every state;
in every run of a stream each side returns what it returns with the other side's calls
removed, and each side of the final stream (`ended` and the read waker; `ready`, `closing`
and the write waker) is the one the calls of that side alone leave. So on every connection
of every program run, such as a receiver and a sender of one split driven by different
tasks, the inbound calls (`poll_next`, `is_terminated`) return what they return on the
connection with the outbound calls removed, and the other way round. -/
theorem connection_sides_independent (inner : Nat → AllowStd) (m : Nat)
    (steps : List StoreStep) :
    (∀ (s : WebSocketStream) (ci co : Call), ci.inbound = true → co.inbound = false →
      s.replies [ci, co] = (s.replies [co, ci]).reverse ∧ s.after [ci, co] = s.after [co, ci]) ∧
    (∀ (s : WebSocketStream) (calls : List Call),
      ((calls.zip (s.replies calls)).filter (·.1.inbound)).map (·.2) =
        s.replies (calls.filter (·.inbound)) ∧
      ((calls.zip (s.replies calls)).filter (!·.1.inbound)).map (·.2) =
        s.replies (calls.filter (!·.inbound)) ∧
      (s.after calls).inbound = (s.after (calls.filter (·.inbound))).inbound ∧
      (s.after calls).outbound = (s.after (calls.filter (!·.inbound))).outbound) ∧
    ∀ n, ((connectionLog inner m steps n).filter (·.1.inbound)).map (·.2.1) =
        (WebSocketStream.new (inner n)).replies
          (((connectionLog inner m steps n).map Prod.fst).filter (·.inbound)) ∧
      ((connectionLog inner m steps n).filter (!·.1.inbound)).map (·.2.1) =
        (WebSocketStream.new (inner n)).replies
          (((connectionLog inner m steps n).map Prod.fst).filter (!·.inbound)) := by
  refine ⟨WebSocketStream.inbound_outbound_independent.1,
    WebSocketStream.inbound_outbound_independent.2, fun n => ?_⟩
  obtain ⟨calls, log⟩ := connectionLog_eq inner m steps n
  obtain ⟨inbound, outbound, -⟩ :=
    WebSocketStream.inbound_outbound_independent.2 (WebSocketStream.new (inner n)) calls
  rw [log, WebSocketStream.log_calls]
  exact ⟨(WebSocketStream.log_filter_replies _ calls).trans inbound,
    (WebSocketStream.log_filter_replies (fun c => !c.inbound) calls).trans outbound⟩

end AsyncTungstenite
