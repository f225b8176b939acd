import AsyncTungstenite.Run
import Mathlib.Data.List.Basic

/-!
# The inbound sequence is fused

`poll_next` checks `ended` before it calls the engine, and sets it on the one path that
ends the sequence: an error from the engine's `read`. So whatever else a run does, the
`poll_next` results of a connection are messages and `Pending`s, then at most one
terminal result, then `None` forever, with no engine call; and `is_terminated` tells
whether the terminal result has been returned.

The proof tracks one equation per call (`call_ended`): after a call, `ended` holds iff it
held before or the call returned a terminal result.
-/

set_option autoImplicit false

namespace AsyncTungstenite

/-- A `poll_next` result that ends the sequence: `None`, or an error other than a closed
connection. -/
def isTerminal : Poll (Option (Except WsError Message)) → Bool
  | .ready none => true
  | .ready (some (.error e)) => !e.isClosed
  | _ => false

/-- A `poll_next` result of a sequence that goes on: `Pending` or a message. -/
def isLive : Poll (Option (Except WsError Message)) → Bool
  | .pending | .ready (some (.ok _)) => true
  | _ => false

/-- The reply is a `poll_next` result that ends the sequence. -/
def Reply.terminal : Reply → Bool
  | .next r => isTerminal r
  | _ => false

/-- The `poll_next` calls of a run, each with its result and events. -/
def nextPolls (ds : List (Called Reply)) :
    List (Poll (Option (Except WsError Message)) × List Event) :=
  ds.filterMap fun d => match d.result with
    | .next r => some (r, d.events)
    | _ => none

namespace WebSocketStream

variable {s : WebSocketStream}

/-- The step lemma: a call leaves the stream ended iff it was ended or the call returned
a terminal result. -/
theorem call_ended (c : Call) :
    (s.call c).stream.ended = (s.ended || (s.call c).result.terminal) := by
  cases c with
  | pollNext cx read =>
    cases fused : s.ended
    · rcases answer_cases read with ⟨m, rfl⟩ | rfl | ⟨e, rfl, blocking⟩
      · simp [call, pollNext_ok fused, fused, Reply.terminal, isTerminal]
      · simp [call, pollNext_wouldBlock fused, fused, Reply.terminal, isTerminal]
      · cases closed : e.isClosed <;>
          simp [call, pollNext_error fused blocking, Reply.terminal, isTerminal, closed]
    · simp [call, pollNext_of_ended fused, fused, Reply.terminal, isTerminal]
  | _ => simp [call, Reply.terminal]

/-- Once ended, every `poll_next` answers `None` without binding a waker or calling the
engine, and the stream stays ended. -/
theorem nextPolls_of_ended (fused : s.ended = true) (cs : List Call) :
    ∀ p ∈ nextPolls (s.run cs), p = (.ready none, []) := by
  induction cs generalizing s with
  | nil => simp [nextPolls]
  | cons c cs ih =>
    have stays : (s.call c).stream.ended = true := by rw [call_ended, fused]; rfl
    cases c
    case pollNext cx read => simpa [nextPolls, call, pollNext_of_ended fused] using ih stays
    all_goals exact ih stays

/-- `ended` after a run records whether any reply of the run was terminal. -/
theorem after_ended (cs : List Call) :
    (s.after cs).ended = (s.ended || (s.replies cs).any Reply.terminal) := by
  induction cs generalizing s with
  | nil => simp [replies]
  | cons c cs ih => simp [ih, replies, call_ended, Bool.or_assoc]

/-- Every `poll_next` result is live or terminal: a closed-connection error is never an
item of the sequence. -/
theorem call_next_classified (c : Call) {r : Poll (Option (Except WsError Message))}
    (reply : (s.call c).result = .next r) : isLive r || isTerminal r := by
  cases c <;> simp only [call, Called.map_result, Reply.next.injEq, reduceCtorEq] at reply
  case pollNext cx read =>
    subst reply
    cases fused : s.ended
    · rcases answer_cases read with ⟨m, rfl⟩ | rfl | ⟨e, rfl, blocking⟩
      · simp [pollNext_ok fused, isLive]
      · simp [pollNext_wouldBlock fused, isLive]
      · cases closed : e.isClosed <;> simp [pollNext_error fused blocking, isTerminal, closed]
    · simp [pollNext_of_ended fused, isTerminal]

/-- From a live stream, the `poll_next` results are live ones, then possibly one
terminal result followed by fused `None`s. -/
theorem nextPolls_shape (live : s.ended = false) (cs : List Call) :
    ∃ goesOn rest, nextPolls (s.run cs) = goesOn ++ rest ∧
      (∀ p ∈ goesOn, isLive p.1) ∧
      (rest = [] ∨ ∃ t fused, rest = t :: fused ∧ isTerminal t.1 ∧
        ∀ p ∈ fused, p = (.ready none, [])) := by
  induction cs generalizing s with
  | nil => exact ⟨[], [], rfl, by simp, .inl rfl⟩
  | cons c cs ih =>
    have step := call_ended (s := s) c
    rw [live, Bool.false_or] at step
    cases reply : (s.call c).result with
    | next r =>
      have head : nextPolls (s.run (c :: cs)) =
          (r, (s.call c).events) :: nextPolls ((s.call c).stream.run cs) := by
        simp [nextPolls, reply]
      cases ends : isTerminal r
      · have goesOn : isLive r := by simpa [ends] using call_next_classified c reply
        obtain ⟨goesOn', rest, eq, hlive, hrest⟩ :=
          ih (by simpa [reply, Reply.terminal, ends] using step)
        exact ⟨_ :: goesOn', rest, by rw [head, eq]; rfl,
          by simpa [goesOn] using hlive, hrest⟩
      · exact ⟨[], _, head, by simp, .inr ⟨_, _, rfl, ends,
          nextPolls_of_ended (by simpa [reply, Reply.terminal, ends] using step) cs⟩⟩
    | _ =>
      obtain ⟨goesOn, rest, eq, hlive, hrest⟩ :=
        ih (by simpa [reply, Reply.terminal] using step)
      exact ⟨goesOn, rest, by simpa [nextPolls, reply] using eq, hlive, hrest⟩

end WebSocketStream

end AsyncTungstenite
