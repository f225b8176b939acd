import AsyncTungstenite.Program
import AsyncTungstenite.Wakeup

/-!
# A pending poll stays registered

The shim keeps one waker slot for each direction, and `with_context` overwrites the slot of
its direction before every engine call. So the slots a run leaves are read off its events:
each holds the last waker bound for its direction, or the one it held before the run
(`WebSocketStream.after_slot`). A poll that returns `Pending` bound its own waker just
before the engine call that would block (`pending_ends_blocked`); with the slot law, that
waker is in the slot of the blocked direction when the poll returns, and stays there until
a later call binds that direction again. Calls of the other side never do: whatever a
sender's task does, the waker of a receiver's pending `poll_next` is the one the engine
will wake, and the other way round.

## Main definitions

* `AllowStd.slot` — the waker slot of a direction
* `Event.rebind` — the slot of a direction after an event
* `WebSocketStream.Rebinds` — a call leaves the slots its events say

## Main results

* `WebSocketStream.call_rebinds`, `WebSocketStream.after_slot` — the slot law of a call and
  of a run
* `pending_waker_kept` — a pending poll's waker stays in its slot until the same direction is
  bound again, on every stream and on every connection of every program run
-/

set_option autoImplicit false

namespace AsyncTungstenite

/-- The waker slot of a direction. -/
def AllowStd.slot (shim : AllowStd) : ContextWaker → Option Waker
  | .read => shim.readWaker
  | .write => shim.writeWaker

@[simp] theorem AllowStd.slot_setWaker (shim : AllowStd) (k kind : ContextWaker)
    (waker : Waker) :
    (shim.setWaker k waker).slot kind = if k = kind then some waker else shim.slot kind := by
  cases k <;> cases kind <;> rfl

/-- The waker in the slot of `kind` after an event, from `w` before it: a binding for `kind`
replaces it, and no other event touches it. -/
def Event.rebind (kind : ContextWaker) (w : Option Waker) : Event → Option Waker
  | .setWaker k waker => if k = kind then some waker else w
  | _ => w

/-- Events that bind no waker for `kind` leave its slot as it was. -/
theorem Event.foldl_rebind_of_unbound {kind : ContextWaker} {events : List Event}
    (unbound : ∀ w, Event.setWaker kind w ∉ events) (w : Option Waker) :
    events.foldl (Event.rebind kind) w = w := by
  induction events generalizing w with
  | nil => rfl
  | cons e es ih =>
    have rest := ih fun w' mem => unbound w' (List.mem_cons_of_mem e mem)
    rw [List.foldl_cons, rest]
    cases e with
    | setWaker k waker =>
      have : k ≠ kind := fun same => unbound waker (same ▸ List.mem_cons_self _ _)
      simp [Event.rebind, this]
    | _ => rfl

/-- Events ending with a binding for `kind` and an event that binds nothing leave that
binding in the slot. -/
theorem Event.foldl_rebind_blocked (kind : ContextWaker) (pre : List Event) (waker : Waker)
    {e : Event} (engine : ∀ k w, e ≠ .setWaker k w) (w : Option Waker) :
    (pre ++ [.setWaker kind waker, e]).foldl (Event.rebind kind) w = some waker := by
  cases e <;> simp_all [Event.rebind]

namespace WebSocketStream

/-- A call leaves the slots as its events say: each slot after it holds the last waker its
events bound for that direction, or what it held before. -/
def Rebinds {α : Type} (s : WebSocketStream) (d : Called α) : Prop :=
  ∀ kind, d.stream.inner.slot kind = d.events.foldl (Event.rebind kind) (s.inner.slot kind)

section Methods

variable {α β : Type} {s : WebSocketStream} {cx : Context}

theorem rebinds_stay (r : α) : Rebinds s ⟨r, s, []⟩ := fun _ => rfl

theorem Rebinds.andThen {c : Called α} {next : α → WebSocketStream → Called β}
    (first : Rebinds s c) (second : ∀ r, Rebinds c.stream (next r c.stream)) :
    Rebinds s (c.andThen next) := fun kind => by
  rw [Called.andThen_stream, second _ kind, first kind, Called.andThen_events,
    List.foldl_append]

theorem Rebinds.map {c : Called α} (f : α → β) (binds : Rebinds s c) : Rebinds s (c.map f) :=
  binds

theorem pollNext_rebinds (read : Except WsError Message) : Rebinds s (s.pollNext cx read) := by
  intro kind
  unfold pollNext
  split
  · rfl
  · simp only [withContext]
    split <;> simp [setWaker, Event.rebind]

theorem pollReady_rebinds (flush : Except WsError Unit) : Rebinds s (s.pollReady cx flush) := by
  intro kind
  unfold pollReady
  split
  · rfl
  · simp only [withContext]
    split <;> simp [setWaker, Event.rebind]

theorem startSend_rebinds (item : Message) (write : Except WsError Unit) :
    Rebinds s (s.startSend item write) := by
  intro kind
  simp only [startSend, withContext]
  split <;> rfl

theorem pollFlush_rebinds (flush : Except WsError Unit) : Rebinds s (s.pollFlush cx flush) := by
  intro kind
  simp only [pollFlush, withContext]
  split <;> simp [setWaker, Event.rebind]

theorem pollClose_rebinds (res : Except WsError Unit) : Rebinds s (s.pollClose cx res) := by
  intro kind
  rw [pollClose_stream, pollClose_events]
  split <;> simp [setWaker, Event.rebind]

theorem sendHelper_rebinds (msg : Option Message) (answers : SendAnswers) :
    Rebinds s (s.sendHelper msg cx answers) := by
  unfold sendHelper
  split
  · refine (pollReady_rebinds _).andThen fun r => ?_
    rcases r with (e | ⟨⟩) | _
    · exact rebinds_stay _
    · refine (startSend_rebinds _ _).andThen fun r => ?_
      rcases r with e | ⟨⟩
      · exact rebinds_stay _
      · exact (pollFlush_rebinds _).map _
    · exact rebinds_stay _
  · exact (pollFlush_rebinds _).map _

theorem pollWrite_rebinds (buf : List UInt8) (readyFlush write : Except WsError Unit) :
    Rebinds s (s.pollWrite cx buf readyFlush write) := by
  unfold pollWrite
  refine (pollReady_rebinds _).andThen fun r => ?_
  rcases r with (e | ⟨⟩) | _
  · exact rebinds_stay _
  · refine (startSend_rebinds _ _).andThen fun r => ?_
    rcases r with e | ⟨⟩ <;> exact rebinds_stay _
  · exact rebinds_stay _

end Methods

variable {s : WebSocketStream}

/-- The step lemma: every call leaves the slots its events say. -/
theorem call_rebinds (c : Call) : Rebinds s (s.call c) := by
  cases c with
  | pollNext cx read => exact (pollNext_rebinds read).map _
  | isTerminated => exact rebinds_stay _
  | pollReady cx flush => exact (pollReady_rebinds flush).map _
  | startSend item write => exact (startSend_rebinds item write).map _
  | pollFlush cx flush => exact (pollFlush_rebinds flush).map _
  | pollClose cx res => exact (pollClose_rebinds res).map _
  | sendHelper msg cx answers => exact (sendHelper_rebinds msg answers).map _
  | pollWrite cx buf readyFlush write => exact (pollWrite_rebinds buf readyFlush write).map _

/-- The run lemma: the slot of each direction after a run holds the last waker bound for it
among the run's events, or the one it held before. -/
theorem after_slot (calls : List Call) (kind : ContextWaker) :
    (s.after calls).inner.slot kind =
      ((s.log calls).flatMap (·.2.2)).foldl (Event.rebind kind) (s.inner.slot kind) := by
  induction calls generalizing s with
  | nil => rfl
  | cons c cs ih => rw [after_cons, ih, call_rebinds c kind, log, List.flatMap_cons,
      List.foldl_append]

theorem sendHelper_binds_write {msg : Option Message} {cx : Context} {answers : SendAnswers}
    {kind : ContextWaker} {w : Waker}
    (bound : Event.setWaker kind w ∈ (s.sendHelper msg cx answers).events) :
    kind = .write := by
  rcases sendHelper_cases s cx msg answers with
    ⟨-, eq⟩ | ⟨_, -, -, eq⟩ | ⟨_, _, -, -, -, -, eq⟩ | ⟨_, -, -, -, eq⟩ <;>
    simp [eq] at bound <;> tauto

theorem pollWrite_binds_write {cx : Context} {buf : List UInt8}
    {readyFlush write : Except WsError Unit} {kind : ContextWaker} {w : Waker}
    (bound : Event.setWaker kind w ∈ (s.pollWrite cx buf readyFlush write).events) :
    kind = .write := by
  rcases pollWrite_cases s cx buf readyFlush write with
    ⟨-, eq⟩ | ⟨_, -, eq⟩ | ⟨_, -, -, -, eq⟩ | ⟨-, -, eq⟩ <;> simp [eq] at bound <;> tauto

/-- A call of one side binds no waker for the other side's direction. -/
theorem call_binds_own_side (c : Call) {kind : ContextWaker} {w : Waker}
    (bound : Event.setWaker kind w ∈ (s.call c).events) :
    (kind = .read ↔ c.inbound = true) := by
  cases c with
  | pollNext cx read =>
    simp only [call, Called.map_events, pollNext_events] at bound
    split at bound
    · cases bound
    · simp_all [Call.inbound]
  | isTerminated => cases bound
  | startSend item write => simp [call] at bound
  | sendHelper msg cx answers => simp [Call.inbound, sendHelper_binds_write bound]
  | pollWrite cx buf readyFlush write => simp [Call.inbound, pollWrite_binds_write bound]
  | pollReady cx flush =>
    simp only [call, Called.map_events, pollReady_events] at bound
    split at bound
    · cases bound
    · simp_all [Call.inbound]
  | pollFlush cx flush => simp_all [call, Call.inbound]
  | pollClose cx res =>
    simp only [call, Called.map_events, pollClose_events] at bound
    split at bound <;> simp_all [Call.inbound]

/-- A poll that returns `Pending` leaves its own waker in the slot of the direction it
blocked on, the read slot for `poll_next` and the write slot for the outbound polls. -/
theorem pending_registered (c : Call) (pending : (s.call c).result.isPending) :
    ∃ cx kind, c.context? = some cx ∧ (kind = .read ↔ c.inbound = true) ∧
      (s.call c).stream.inner.slot kind = some cx.waker := by
  obtain ⟨cx, context, pre, e, kind, events, blocked⟩ := pending_ends_blocked c pending
  have engine : ∀ k w, e ≠ .setWaker k w := by
    rintro k w rfl
    cases blocked
  have bound : Event.setWaker kind cx.waker ∈ (s.call c).events := by simp [events]
  refine ⟨cx, kind, context, call_binds_own_side c bound, ?_⟩
  rw [call_rebinds c kind, events, Event.foldl_rebind_blocked kind pre cx.waker engine]

/-- A stretch of a direct run's log is the log of its own calls, from where the calls before
it left the stream. -/
theorem log_eq_append {cs : List Call} {pre post : List (Call × Reply × List Event)}
    (split : s.log cs = pre ++ post) :
    pre = s.log (pre.map Prod.fst) ∧
      post = (s.after (pre.map Prod.fst)).log (post.map Prod.fst) := by
  induction pre generalizing s cs with
  | nil =>
    subst split
    simp [log, log_calls]
  | cons x pre ih =>
    cases cs with
    | nil => cases split
    | cons c cs =>
      obtain ⟨rfl, rest⟩ := List.cons.inj split
      obtain ⟨before, after⟩ := ih rest
      exact ⟨by rw [List.map_cons, log, ← before], after⟩

/-- Each entry of a direct run's log is a call of the run with the events of that call on
some state. -/
theorem mem_log {cs : List Call} {x : Call × Reply × List Event} (mem : x ∈ s.log cs) :
    x.1 ∈ cs ∧ ∃ t : WebSocketStream, x.2.2 = (t.call x.1).events := by
  obtain ⟨pre, post, split⟩ := List.append_of_mem mem
  obtain ⟨-, at_x⟩ := log_eq_append_cons split
  refine ⟨?_, _, by rw [at_x]⟩
  rw [← log_calls s cs, split]
  simp

/-- A run whose calls bind no waker for `kind` leaves its slot as it was; calls of the side
that does not own `kind` never bind one. -/
theorem after_slot_of_unbound (calls : List Call) {kind : ContextWaker}
    (unbound : (∀ c ∈ calls, (kind = .read ↔ c.inbound = false)) ∨
      ∀ x ∈ s.log calls, ∀ w, Event.setWaker kind w ∉ x.2.2) :
    (s.after calls).inner.slot kind = s.inner.slot kind := by
  rw [after_slot, Event.foldl_rebind_of_unbound]
  intro w bound
  obtain ⟨x, mem, bound_x⟩ := List.mem_flatMap.mp bound
  rcases unbound with other | unbound
  · obtain ⟨called, t, events⟩ := mem_log mem
    rw [events] at bound_x
    have own := call_binds_own_side x.1 bound_x
    have := other x.1 called
    cases x.1.inbound <;> simp_all
  · exact unbound x mem w bound_x

/-- A pending poll's waker stays in its slot through later calls of the other side, and
through later calls that bind no waker for its direction. -/
theorem pending_kept (c : Call) (pending : (s.call c).result.isPending) :
    ∃ cx kind, c.context? = some cx ∧ (kind = .read ↔ c.inbound = true) ∧
      ∀ later : List Call, ((∀ c' ∈ later, c'.inbound ≠ c.inbound) ∨
        ∀ x ∈ (s.call c).stream.log later, ∀ w, Event.setWaker kind w ∉ x.2.2) →
        ((s.call c).stream.after later).inner.slot kind = some cx.waker := by
  obtain ⟨cx, kind, context, side, registered⟩ := pending_registered c pending
  refine ⟨cx, kind, context, side, fun later unbound => ?_⟩
  rw [after_slot_of_unbound later, registered]
  refine unbound.imp (fun other c' mem => ?_) id
  have := other c' mem
  rw [side]
  revert this
  cases c.inbound <;> cases c'.inbound <;> decide

end WebSocketStream

/-- On every stream, and on every connection of every program run whichever handles its
calls went through: a poll that returns `Pending` was polled with a context, leaves that
context's waker in the slot of its direction (the read slot for `poll_next`, the write slot
for the outbound polls), and that waker stays in the slot through any later calls of the
other side, and through any later calls that bind no waker for that direction. So a task
suspended on a receiver's `poll_next` stays registered with the engine whatever the
sender's task does, and the other way round. -/
theorem pending_waker_kept (inner : Nat → AllowStd) (m : Nat) (steps : List StoreStep) :
    (∀ (s : WebSocketStream) (c : Call), (s.call c).result.isPending →
      ∃ cx kind, c.context? = some cx ∧ (kind = .read ↔ c.inbound = true) ∧
        ∀ later : List Call, ((∀ c' ∈ later, c'.inbound ≠ c.inbound) ∨
          ∀ x ∈ (s.call c).stream.log later, ∀ w, Event.setWaker kind w ∉ x.2.2) →
          ((s.call c).stream.after later).inner.slot kind = some cx.waker) ∧
    ∀ n pre e mid post, connectionLog inner m steps n = pre ++ e :: (mid ++ post) →
      e.2.1.isPending →
      ∃ cx kind, e.1.context? = some cx ∧ (kind = .read ↔ e.1.inbound = true) ∧
        ((∀ x ∈ mid, x.1.inbound ≠ e.1.inbound) ∨
            (∀ x ∈ mid, ∀ w, Event.setWaker kind w ∉ x.2.2) →
          ((WebSocketStream.new (inner n)).after ((pre ++ e :: mid).map Prod.fst)).inner.slot
            kind = some cx.waker) := by
  refine ⟨fun s c pending => WebSocketStream.pending_kept c pending,
    fun n pre e mid post split pending => ?_⟩
  obtain ⟨calls, log⟩ := connectionLog_eq inner m steps n
  rw [log, ← List.cons_append, ← List.append_assoc] at split
  obtain ⟨stretch, -⟩ := WebSocketStream.log_eq_append split
  obtain ⟨-, from_e⟩ := WebSocketStream.log_eq_append stretch.symm
  set t := (WebSocketStream.new (inner n)).after (pre.map Prod.fst)
  rw [List.map_cons, WebSocketStream.log] at from_e
  obtain ⟨at_e, at_mid⟩ := List.cons.inj from_e
  rw [at_e] at pending
  obtain ⟨cx, kind, context, side, kept⟩ := WebSocketStream.pending_kept e.1 pending
  refine ⟨cx, kind, context, side, fun unbound => ?_⟩
  rw [List.map_append, WebSocketStream.after_append, List.map_cons, WebSocketStream.after_cons]
  refine kept _ (unbound.imp (fun other c' mem => ?_) fun unbound => at_mid ▸ unbound)
  obtain ⟨x, mem_x, rfl⟩ := List.mem_map.mp mem
  exact other x mem_x

/-- Task 1's `poll_next` blocks; task 2 then flushes and writes: the read slot still holds
task 1's waker, and the write slot task 2's. -/
example :
    let s := ((WebSocketStream.new ⟨none, none⟩).call
      (.pollNext ⟨⟨1⟩⟩ (.error (.io .wouldBlock)))).stream.after
      [.pollFlush ⟨⟨2⟩⟩ (.ok ()),
        .sendHelper (some (.text "a")) ⟨⟨2⟩⟩ ⟨.ok (), .ok (), .ok ()⟩]
    s.inner.slot .read = some ⟨1⟩ ∧ s.inner.slot .write = some ⟨2⟩ := by
  decide

end AsyncTungstenite
