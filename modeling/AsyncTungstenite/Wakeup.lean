import AsyncTungstenite.Split

/-!
# No poll suspends without a waker

A poll may return `Pending` only after the engine said it would block, and the engine is
only ever called inside `with_context`, which binds the poll's waker for the direction of
the call first. So when any entry point returns `Pending`, the last two events of that very
call are the binding of its own waker and an engine call of the matching direction that
would block: no task suspends without being registered to be woken. The halves of a split
call the same methods under the lock (`Half.call_eq`), so the same holds of their polls.
`start_send` binds nothing and cannot suspend.
-/

set_option autoImplicit false

namespace AsyncTungstenite

/-- An engine call that would block, with the direction whose waker must be bound for it:
`read` for a read, `write` for a flush or a close. -/
def Event.blockedOn : Event → Option ContextWaker
  | .read (.error (.io .wouldBlock)) => some .read
  | .flush (.error (.io .wouldBlock)) => some .write
  | .close _ (.error (.io .wouldBlock)) => some .write
  | _ => none

/-- The context a call is polled with, for the calls that take one. -/
def Call.context? : Call → Option Context
  | .pollNext cx _ | .pollReady cx _ | .pollFlush cx _ | .pollClose cx _
  | .sendHelper _ cx _ | .pollWrite cx _ _ _ => some cx
  | .isTerminated | .startSend _ _ => none

/-- The call returned `Pending`. -/
def Reply.isPending : Reply → Bool
  | .next r => r.isPending
  | .poll r | .helper r _ => r.isPending
  | .wrote r => r.isPending
  | .terminated _ | .sent _ => false

namespace WebSocketStream

variable {s : WebSocketStream} {cx : Context}

/-- The events end with the binding of the waker of `cx` and an engine call of that
direction that would block. -/
def EndsBlocked (cx : Context) (events : List Event) : Prop :=
  ∃ pre e kind, events = pre ++ [.setWaker kind cx.waker, e] ∧ e.blockedOn = some kind

theorem endsBlocked_append {events : List Event} (front : List Event)
    (ends : EndsBlocked cx events) : EndsBlocked cx (front ++ events) := by
  obtain ⟨pre, e, kind, rfl, blocked⟩ := ends
  exact ⟨front ++ pre, e, kind, by simp, blocked⟩

theorem pollNext_pending {read : Except WsError Message}
    (pending : (s.pollNext cx read).result = .pending) :
    EndsBlocked cx (s.pollNext cx read).events := by
  cases fused : s.ended
  · rcases answer_cases read with ⟨m, rfl⟩ | rfl | ⟨e, rfl, blocking⟩
    · simp [pollNext_ok fused] at pending
    · exact ⟨[], .read (.error (.io .wouldBlock)), .read, by simp [fused], rfl⟩
    · cases e.isClosed <;> simp [pollNext_error fused blocking] at pending
  · simp [pollNext_of_ended fused] at pending

theorem pollReady_pending {flush : Except WsError Unit}
    (pending : (s.pollReady cx flush).result = .pending) :
    EndsBlocked cx (s.pollReady cx flush).events := by
  cases ready : s.ready
  · by_cases blocked : flush = .error (.io .wouldBlock)
    · exact ⟨[], .flush flush, .write, by simp [ready], by simp [blocked, Event.blockedOn]⟩
    · simp [pollReady_flushed ready blocked] at pending
  · simp [pollReady_of_ready ready] at pending

theorem pollFlush_pending {flush : Except WsError Unit}
    (pending : (s.pollFlush cx flush).result = .pending) :
    EndsBlocked cx (s.pollFlush cx flush).events := by
  by_cases blocked : flush = .error (.io .wouldBlock)
  · exact ⟨[], .flush flush, .write, by simp, by simp [blocked, Event.blockedOn]⟩
  · simp [pollFlush_flushed blocked] at pending

theorem pollClose_pending {res : Except WsError Unit}
    (pending : (s.pollClose cx res).result = .pending) :
    EndsBlocked cx (s.pollClose cx res).events := by
  by_cases blocked : res = .error (.io .wouldBlock)
  · subst blocked
    exact ⟨[], if s.closing then .flush (.error (.io .wouldBlock))
      else .close none (.error (.io .wouldBlock)), .write, pollClose_events, by split <;> rfl⟩
  · rw [pollClose_result, if_neg blocked] at pending
    split at pending <;> simp at pending

/-- The step lemma: a call that returns `Pending` takes a context, and its events end
with the binding of that context's waker followed by an engine call of that direction
that would block. -/
theorem pending_ends_blocked (c : Call) (pending : (s.call c).result.isPending) :
    ∃ cx, c.context? = some cx ∧ EndsBlocked cx (s.call c).events := by
  cases c with
  | pollNext cx read =>
    exact ⟨cx, rfl, pollNext_pending (by simpa [call, Reply.isPending] using pending)⟩
  | isTerminated => simp [call, Reply.isPending] at pending
  | pollReady cx flush =>
    exact ⟨cx, rfl, pollReady_pending (by simpa [call, Reply.isPending] using pending)⟩
  | startSend item write => simp [call, Reply.isPending] at pending
  | pollFlush cx flush =>
    exact ⟨cx, rfl, pollFlush_pending (by simpa [call, Reply.isPending] using pending)⟩
  | pollClose cx res =>
    exact ⟨cx, rfl, pollClose_pending (by simpa [call, Reply.isPending] using pending)⟩
  | sendHelper msg cx answers =>
    refine ⟨cx, rfl, ?_⟩
    rcases sendHelper_cases s cx msg answers with
      ⟨-, eq⟩ | ⟨_, -, -, eq⟩ | ⟨_, _, -, -, -, -, eq⟩ | ⟨_, -, -, -, eq⟩ <;>
      simp only [call, eq, Called.map_result, Called.map_events, Called.andThen_result,
        Called.andThen_events, Reply.isPending, Poll.isPending_iff] at pending ⊢
    · exact pollFlush_pending pending
    · exact pollReady_pending pending
    · simp at pending
    · rw [← List.append_assoc]
      exact endsBlocked_append _ (pollFlush_pending pending)
  | pollWrite cx buf readyFlush write =>
    refine ⟨cx, rfl, ?_⟩
    rcases pollWrite_cases s cx buf readyFlush write with
      ⟨blocked, eq⟩ | ⟨_, -, eq⟩ | ⟨_, -, -, -, eq⟩ | ⟨-, -, eq⟩ <;>
      simp [call, eq, Reply.isPending] at pending
    simpa [call, eq] using pollReady_pending blocked

/-- For every state, every entry point of the stream and of the split halves, and every
answer of the engine: a call that returns `Pending` was polled with a context, and its last
two events are the binding of that context's waker and an engine call of the same direction
(`read` for a read, `write` for a flush or a close) that would block; `start_send` binds no
waker and makes only its write. -/
theorem pending_only_after_waker (s : WebSocketStream) (c : Call) :
    ((s.call c).result.isPending →
      ∃ cx pre e kind, c.context? = some cx ∧
        (s.call c).events = pre ++ [.setWaker kind cx.waker, e] ∧ e.blockedOn = some kind) ∧
    (∀ (half : Half) (d : Called Reply), half.call s c = some d → d.result.isPending →
      ∃ cx pre e kind, c.context? = some cx ∧
        d.events = pre ++ [.setWaker kind cx.waker, e] ∧ e.blockedOn = some kind) ∧
    ∀ item write, (s.startSend item write).events = [.write item write] := by
  have direct : (s.call c).result.isPending → ∃ cx pre e kind, c.context? = some cx ∧
      (s.call c).events = pre ++ [.setWaker kind cx.waker, e] ∧ e.blockedOn = some kind :=
    fun pending => by
      obtain ⟨cx, context, pre, e, kind, events, blocked⟩ := pending_ends_blocked c pending
      exact ⟨cx, pre, e, kind, context, events, blocked⟩
  refine ⟨direct, fun half d delegated => ?_, fun item write => startSend_events write⟩
  rw [Half.call_eq] at delegated
  split at delegated
  · rw [← Option.some.inj delegated]
    exact direct
  · cases delegated

end WebSocketStream

end AsyncTungstenite
