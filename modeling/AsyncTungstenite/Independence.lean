import AsyncTungstenite.Run
import Mathlib.Data.List.Basic

/-!
# Inbound and outbound calls are independent

The state of a connection splits in two. The inbound side (`poll_next`, `is_terminated`)
owns `ended` and the read waker slot; the outbound side (the sink, `send_helper`, the byte
sender) owns `ready`, `closing` and the write waker slot. Each call reads and writes its
own side only. So with the engine's answers fixed, an inbound and an outbound call commute,
and in any interleaving each side sees exactly what it would see with the other side's
calls removed: no outbound error or close sets `ended`, and no end of the inbound sequence
touches `ready` or `closing`.

Each side is stated as an agreement lemma (two streams that agree on the side give the same
result, the same events and streams that agree on the side) and a frame lemma (the call
leaves the other side as it was).
-/

set_option autoImplicit false

namespace AsyncTungstenite

/-- The part of a connection the inbound calls own. -/
structure InboundPart where
  ended : Bool
  readWaker : Option Waker
  deriving DecidableEq, Repr

/-- The part of a connection the outbound calls own. -/
structure OutboundPart where
  ready : Bool
  closing : Bool
  writeWaker : Option Waker
  deriving DecidableEq, Repr

/-- The calls of the inbound side: `poll_next` and `is_terminated`. -/
def Call.inbound : Call → Bool
  | .pollNext .. | .isTerminated => true
  | _ => false

namespace WebSocketStream

/-- The inbound side of the connection. -/
def inbound (s : WebSocketStream) : InboundPart := ⟨s.ended, s.inner.readWaker⟩

/-- The outbound side of the connection. -/
def outbound (s : WebSocketStream) : OutboundPart := ⟨s.ready, s.closing, s.inner.writeWaker⟩

theorem ext_sides {s t : WebSocketStream} (inb : s.inbound = t.inbound)
    (outb : s.outbound = t.outbound) : s = t := by
  obtain ⟨⟨r, w⟩, c, e, d⟩ := s
  obtain ⟨⟨r', w'⟩, c', e', d'⟩ := t
  simp_all [inbound, outbound]

/-- Two records of one call agree on a side: same result, same events, and streams after
that agree on the side. -/
def Agree {α β : Type} (side : WebSocketStream → β) (d e : Called α) : Prop :=
  d.result = e.result ∧ d.events = e.events ∧ side d.stream = side e.stream

section Agreement

variable {α β γ : Type} {side : WebSocketStream → γ}

theorem agree_andThen {c c' : Called α} {next : α → WebSocketStream → Called β}
    (first : Agree side c c')
    (second : ∀ r (ws ws' : WebSocketStream), side ws = side ws' →
      Agree side (next r ws) (next r ws')) :
    Agree side (c.andThen next) (c'.andThen next) := by
  obtain ⟨result, events, sides⟩ := first
  obtain ⟨result', events', sides'⟩ := second c.result c.stream c'.stream sides
  refine ⟨?_, ?_, ?_⟩ <;>
    simp only [Called.andThen_result, Called.andThen_events, Called.andThen_stream, ← result]
  · exact result'
  · rw [events, events']
  · exact sides'

theorem agree_map {c c' : Called α} (f : α → β) (agree : Agree side c c') :
    Agree side (c.map f) (c'.map f) := by
  obtain ⟨result, events, sides⟩ := agree
  exact ⟨by simp [result], events, sides⟩

theorem agree_stay (r : α) {ws ws' : WebSocketStream} (sides : side ws = side ws') :
    Agree side ⟨r, ws, []⟩ ⟨r, ws', []⟩ := ⟨rfl, rfl, sides⟩

end Agreement

variable {s t : WebSocketStream} {cx : Context}

theorem outbound_eq_iff : s.outbound = t.outbound ↔
    s.ready = t.ready ∧ s.closing = t.closing ∧ s.inner.writeWaker = t.inner.writeWaker := by
  simp [outbound]

theorem inbound_eq_iff :
    s.inbound = t.inbound ↔ s.ended = t.ended ∧ s.inner.readWaker = t.inner.readWaker := by
  simp [inbound]

/-! ## The outbound side -/

section Outbound

variable (same : s.outbound = t.outbound)
include same

theorem pollReady_agree (flush : Except WsError Unit) :
    Agree outbound (s.pollReady cx flush) (t.pollReady cx flush) := by
  obtain ⟨ready, closing, writeWaker⟩ := outbound_eq_iff.mp same
  unfold pollReady
  rw [ready]
  split
  · exact agree_stay _ same
  · simp only [withContext]
    split <;> exact ⟨rfl, rfl, by simp [outbound, setWaker, AllowStd.setWaker, closing, ready]⟩

theorem startSend_agree (item : Message) (write : Except WsError Unit) :
    Agree outbound (s.startSend item write) (t.startSend item write) := by
  obtain ⟨ready, closing, writeWaker⟩ := outbound_eq_iff.mp same
  simp only [startSend, withContext]
  split <;> exact ⟨rfl, rfl, by simp [outbound, closing, writeWaker]⟩

theorem pollFlush_agree (flush : Except WsError Unit) :
    Agree outbound (s.pollFlush cx flush) (t.pollFlush cx flush) := by
  obtain ⟨ready, closing, writeWaker⟩ := outbound_eq_iff.mp same
  simp only [pollFlush, withContext]
  split <;> exact ⟨rfl, rfl, by simp [outbound, setWaker, AllowStd.setWaker, closing, ready]⟩

theorem pollClose_agree (res : Except WsError Unit) :
    Agree outbound (s.pollClose cx res) (t.pollClose cx res) := by
  obtain ⟨ready, closing, writeWaker⟩ := outbound_eq_iff.mp same
  refine ⟨by simp [pollClose_result], by simp [closing], ?_⟩
  simp [pollClose_stream, outbound, setWaker, AllowStd.setWaker, closing]

end Outbound

theorem sendHelper_agree (same : s.outbound = t.outbound) (msg : Option Message)
    (answers : SendAnswers) :
    Agree outbound (s.sendHelper msg cx answers) (t.sendHelper msg cx answers) := by
  unfold sendHelper
  split
  · refine agree_andThen (pollReady_agree same _) fun r ws ws' sides => ?_
    rcases r with (e | ⟨⟩) | _
    · exact agree_stay _ sides
    · refine agree_andThen (startSend_agree sides _ _) fun r ws ws' sides => ?_
      rcases r with e | ⟨⟩
      · exact agree_stay _ sides
      · exact agree_map _ (pollFlush_agree sides _)
    · exact agree_stay _ sides
  · exact agree_map _ (pollFlush_agree same _)

theorem pollWrite_agree (same : s.outbound = t.outbound) (buf : List UInt8)
    (readyFlush write : Except WsError Unit) :
    Agree outbound (s.pollWrite cx buf readyFlush write) (t.pollWrite cx buf readyFlush write) := by
  unfold pollWrite
  refine agree_andThen (pollReady_agree same _) fun r ws ws' sides => ?_
  rcases r with (e | ⟨⟩) | _
  · exact agree_stay _ sides
  · refine agree_andThen (startSend_agree sides _ _) fun r ws ws' sides => ?_
    rcases r with e | ⟨⟩ <;> exact agree_stay _ sides
  · exact agree_stay _ sides

@[simp] theorem pollReady_inbound (flush : Except WsError Unit) :
    (s.pollReady cx flush).stream.inbound = s.inbound := by
  unfold pollReady; split
  · rfl
  · simp only [withContext]; split <;> rfl

@[simp] theorem startSend_inbound (item : Message) (write : Except WsError Unit) :
    (s.startSend item write).stream.inbound = s.inbound := by
  simp only [startSend, withContext]; split <;> rfl

@[simp] theorem pollFlush_inbound (flush : Except WsError Unit) :
    (s.pollFlush cx flush).stream.inbound = s.inbound := by
  simp only [pollFlush, withContext]; split <;> rfl

@[simp] theorem pollClose_inbound (res : Except WsError Unit) :
    (s.pollClose cx res).stream.inbound = s.inbound := by
  rw [pollClose_stream]; rfl

@[simp] theorem sendHelper_inbound (msg : Option Message) (answers : SendAnswers) :
    (s.sendHelper msg cx answers).stream.inbound = s.inbound := by
  rcases sendHelper_cases s cx msg answers with
    ⟨-, eq⟩ | ⟨_, -, -, eq⟩ | ⟨_, _, -, -, -, -, eq⟩ | ⟨_, -, -, -, eq⟩ <;>
    simp [eq]

@[simp] theorem pollWrite_inbound (buf : List UInt8) (readyFlush write : Except WsError Unit) :
    (s.pollWrite cx buf readyFlush write).stream.inbound = s.inbound := by
  rcases pollWrite_cases s cx buf readyFlush write with
    ⟨-, eq⟩ | ⟨_, -, eq⟩ | ⟨_, -, -, -, eq⟩ | ⟨-, -, eq⟩ <;> simp [eq]

/-! ## The inbound side -/

@[simp] theorem pollNext_outbound (read : Except WsError Message) :
    (s.pollNext cx read).stream.outbound = s.outbound := by
  unfold pollNext; split
  · rfl
  · simp only [withContext]; split <;> rfl

theorem pollNext_agree (same : s.inbound = t.inbound) (read : Except WsError Message) :
    Agree inbound (s.pollNext cx read) (t.pollNext cx read) := by
  obtain ⟨ended, readWaker⟩ := inbound_eq_iff.mp same
  unfold pollNext
  rw [ended]
  split
  · exact agree_stay _ same
  · simp only [withContext]
    split <;> exact ⟨rfl, rfl, by simp [inbound, setWaker, AllowStd.setWaker, ended]⟩

/-! ## Calls -/

theorem call_agree_outbound (c : Call) (outb : c.inbound = false)
    (same : s.outbound = t.outbound) : Agree outbound (s.call c) (t.call c) := by
  cases c <;> simp only [Call.inbound, reduceCtorEq] at outb
  case pollReady cx flush => exact agree_map _ (pollReady_agree same flush)
  case startSend item write => exact agree_map _ (startSend_agree same item write)
  case pollFlush cx flush => exact agree_map _ (pollFlush_agree same flush)
  case pollClose cx res => exact agree_map _ (pollClose_agree same res)
  case sendHelper msg cx answers => exact agree_map _ (sendHelper_agree same msg answers)
  case pollWrite cx buf readyFlush write =>
    exact agree_map _ (pollWrite_agree same buf readyFlush write)

theorem call_agree_inbound (c : Call) (inb : c.inbound = true)
    (same : s.inbound = t.inbound) : Agree inbound (s.call c) (t.call c) := by
  cases c <;> simp only [Call.inbound, reduceCtorEq] at inb
  case pollNext cx read => exact agree_map _ (pollNext_agree same read)
  case isTerminated =>
    exact ⟨by simp [call, isTerminated, (inbound_eq_iff.mp same).1], rfl, same⟩

theorem call_keeps_inbound (c : Call) (outb : c.inbound = false) :
    (s.call c).stream.inbound = s.inbound := by
  cases c <;> simp_all [Call.inbound, call]

theorem call_keeps_outbound (c : Call) (inb : c.inbound = true) :
    (s.call c).stream.outbound = s.outbound := by
  cases c <;> simp_all [Call.inbound, call]

/-- The inbound calls of an interleaving see what they see with the outbound calls
removed. -/
theorem inbound_projection (calls : List Call) (same : s.inbound = t.inbound) :
    ((calls.zip (s.replies calls)).filter (·.1.inbound)).map (·.2) =
      t.replies (calls.filter (·.inbound)) ∧
    (s.after calls).inbound = (t.after (calls.filter (·.inbound))).inbound := by
  induction calls generalizing s t with
  | nil => simp [same]
  | cons c cs ih =>
    cases inb : c.inbound
    · simpa [inb] using
        ih (s := (s.call c).stream) (t := t) (by rw [call_keeps_inbound c inb, same])
    · obtain ⟨result, -, sides⟩ := call_agree_inbound c inb same
      simpa [inb, result] using ih sides

/-- The outbound calls of an interleaving see what they see with the inbound calls
removed. -/
theorem outbound_projection (calls : List Call) (same : s.outbound = t.outbound) :
    ((calls.zip (s.replies calls)).filter (!·.1.inbound)).map (·.2) =
      t.replies (calls.filter (!·.inbound)) ∧
    (s.after calls).outbound = (t.after (calls.filter (!·.inbound))).outbound := by
  induction calls generalizing s t with
  | nil => simp [same]
  | cons c cs ih =>
    cases inb : c.inbound
    · obtain ⟨result, -, sides⟩ := call_agree_outbound c inb same
      simpa [inb, result] using ih sides
    · simpa [inb] using
        ih (s := (s.call c).stream) (t := t) (by rw [call_keeps_outbound c inb, same])

/-- With the engine's answers fixed, an inbound and an outbound call commute: in either
order they return the same replies and leave the same stream. In any interleaving the
inbound calls return what they return with the outbound calls removed, and the other way
round, and each side of the final stream (`ended` and the read waker; `ready`, `closing`
and the write waker) is the one the calls of that side alone leave. -/
theorem inbound_outbound_independent :
    (∀ (s : WebSocketStream) (ci co : Call), ci.inbound = true → co.inbound = false →
      s.replies [ci, co] = (s.replies [co, ci]).reverse ∧ s.after [ci, co] = s.after [co, ci]) ∧
    ∀ (s : WebSocketStream) (calls : List Call),
      ((calls.zip (s.replies calls)).filter (·.1.inbound)).map (·.2) =
        s.replies (calls.filter (·.inbound)) ∧
      ((calls.zip (s.replies calls)).filter (!·.1.inbound)).map (·.2) =
        s.replies (calls.filter (!·.inbound)) ∧
      (s.after calls).inbound = (s.after (calls.filter (·.inbound))).inbound ∧
      (s.after calls).outbound = (s.after (calls.filter (!·.inbound))).outbound := by
  refine ⟨fun s ci co inb outb => ?_, fun s calls => ?_⟩
  · obtain ⟨inResult, -, inSide⟩ :=
      call_agree_inbound (s := s) (t := (s.call co).stream) ci inb (call_keeps_inbound co outb).symm
    obtain ⟨outResult, -, outSide⟩ :=
      call_agree_outbound (s := (s.call ci).stream) (t := s) co outb (call_keeps_outbound ci inb)
    refine ⟨by simp [inResult, outResult], ext_sides ?_ ?_⟩
    · simpa [call_keeps_inbound co outb] using inSide
    · simpa [call_keeps_outbound ci inb] using outSide
  · obtain ⟨inReplies, inSide⟩ := inbound_projection (s := s) (t := s) calls rfl
    obtain ⟨outReplies, outSide⟩ := outbound_projection (s := s) (t := s) calls rfl
    exact ⟨inReplies, outReplies, inSide, outSide⟩

end WebSocketStream

end AsyncTungstenite
