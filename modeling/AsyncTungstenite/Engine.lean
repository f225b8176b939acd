import Mathlib.Logic.Basic

/-!
# The protocol engine, seen from the adaptation layer

The crate wraps tungstenite's blocking `WebSocket`. That engine is a black box here: all
the adaptation layer sees of it is what each call returns, a message or `()` on success,
or a `tungstenite::Error`. An I/O error of kind `WouldBlock` is how the engine says that
it needs the transport to become ready first.

This file fixes the vocabulary shared by the rest of the development: the errors and
messages of tungstenite, the `Poll` of `std::task`, the waker slots a poll binds, and the
record of what one poll did (`Event`), from which a run's waker bindings and writes are
read.
-/

set_option autoImplicit false

namespace AsyncTungstenite

/-- Engine answers are compared in statements, so `Except` gets decidable equality. -/
instance instDecidableEqExcept {ε α : Type} [DecidableEq ε] [DecidableEq α] :
    DecidableEq (Except ε α)
  | .error a, .error b =>
    if h : a = b then isTrue (h ▸ rfl) else isFalse fun e => h (Except.error.inj e)
  | .ok a, .ok b => if h : a = b then isTrue (h ▸ rfl) else isFalse fun e => h (Except.ok.inj e)
  | .error _, .ok _ => isFalse nofun
  | .ok _, .error _ => isFalse nofun

/-- The kind of an `std::io::Error`. The crate only ever tells `WouldBlock` apart; the
other kinds are kept so that an error is passed on as it came. -/
inductive ErrorKind
  | notFound | permissionDenied | connectionRefused | connectionReset | connectionAborted
  | notConnected | brokenPipe | wouldBlock | timedOut | interrupted | unexpectedEof | other
  deriving DecidableEq, Repr

/-- `tungstenite::error::UrlError`, with the variants `domain` and `port` build. -/
inductive UrlError
  | noHostName | unsupportedUrlScheme
  deriving DecidableEq, Repr

/-- A close frame: the close code and the reason text. -/
structure CloseFrame where
  code : UInt16
  reason : String
  deriving DecidableEq, Repr

/-- `tungstenite::Message`. Payload bytes are lists of octets. -/
inductive Message
  | text (data : String)
  | binary (data : List UInt8)
  | ping (data : List UInt8)
  | pong (data : List UInt8)
  | close (frame : Option CloseFrame)
  | frame (data : List UInt8)
  deriving DecidableEq, Repr

/-- `tungstenite::Error` (`WsError` in the crate). Of the payloads only the I/O error's
kind, the message handed back by `WriteBufferFull` and the URL error are kept: the crate
reads no other. -/
inductive WsError
  | connectionClosed
  | alreadyClosed
  | io (kind : ErrorKind)
  | tls
  | capacity
  | protocol
  | writeBufferFull (msg : Message)
  | utf8
  | attackAttempt
  | url (err : UrlError)
  | http
  | httpFormat
  deriving DecidableEq, Repr

namespace WsError

/-- The two errors by which the engine reports a closed connection: the
`matches!(e, WsError::AlreadyClosed | WsError::ConnectionClosed)` of `poll_next`. -/
def isClosed : WsError → Bool
  | connectionClosed | alreadyClosed => true
  | _ => false

@[simp] theorem isClosed_connectionClosed : connectionClosed.isClosed = true := rfl

@[simp] theorem isClosed_alreadyClosed : alreadyClosed.isClosed = true := rfl

@[simp] theorem isClosed_io (kind : ErrorKind) : (io kind).isClosed = false := rfl

end WsError

/-- `std::task::Poll`. -/
inductive Poll (α : Type)
  | ready (value : α)
  | pending
  deriving DecidableEq, Repr

namespace Poll

variable {α β : Type}

/-- `Poll::map`: apply a function to a ready value. -/
def map (f : α → β) : Poll α → Poll β
  | ready a => ready (f a)
  | pending => pending

@[simp] theorem map_ready (f : α → β) (a : α) : (ready a).map f = ready (f a) := rfl

@[simp] theorem map_pending (f : α → β) : (pending : Poll α).map f = pending := rfl

/-- The poll is `Pending`. -/
def isPending : Poll α → Bool
  | ready _ => false
  | pending => true

@[simp] theorem isPending_iff (p : Poll α) : p.isPending = true ↔ p = pending := by
  cases p <;> simp [isPending]

end Poll

/-- The identity of a task's waker; two polls made for one task carry the same one. -/
structure Waker where
  task : Nat
  deriving DecidableEq, Repr

/-- `std::task::Context`: what a poll is given, of which the crate reads the waker. -/
structure Context where
  waker : Waker
  deriving DecidableEq, Repr

/-- `compat::ContextWaker`: the direction a waker is bound for. -/
inductive ContextWaker
  | read
  | write
  deriving DecidableEq, Repr

/-- Modelled from the spec: `compat::cvt` is not in the source. An engine result becomes a
poll result, a would-block error becoming `Pending` and anything else `Ready`. -/
def cvt {α : Type} : Except WsError α → Poll (Except WsError α)
  | .error (.io .wouldBlock) => .pending
  | r => .ready r

@[simp] theorem cvt_ok {α : Type} (a : α) : cvt (.ok a) = .ready (.ok a) := rfl

@[simp] theorem cvt_wouldBlock {α : Type} :
    cvt (.error (.io .wouldBlock) : Except WsError α) = .pending := rfl

theorem cvt_error {α : Type} {e : WsError} (blocking : e ≠ .io .wouldBlock) :
    cvt (.error e : Except WsError α) = .ready (.error e) := by
  cases e with
  | io kind => cases kind <;> simp_all [cvt]
  | _ => rfl

/-- Every answer of the engine is a success, a would-block, or an error of another kind. -/
theorem answer_cases {α : Type} (r : Except WsError α) :
    (∃ a, r = .ok a) ∨ r = .error (.io .wouldBlock) ∨
      ∃ e, r = .error e ∧ e ≠ .io .wouldBlock := by
  rcases r with e | a
  · by_cases blocking : e = .io .wouldBlock
    · exact .inr (.inl (blocking ▸ rfl))
    · exact .inr (.inr ⟨e, rfl, blocking⟩)
  · exact .inl ⟨a, rfl⟩

/-- What one poll did, in order: a waker bound by `with_context`, or one call of the
engine with the result the engine gave. -/
inductive Event
  | setWaker (kind : ContextWaker) (waker : Waker)
  | read (result : Except WsError Message)
  | write (item : Message) (result : Except WsError Unit)
  | flush (result : Except WsError Unit)
  | close (frame : Option CloseFrame) (result : Except WsError Unit)
  deriving DecidableEq, Repr

end AsyncTungstenite
