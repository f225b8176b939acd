import AsyncTungstenite.Stream

/-!
# Runs of a connection

A run is a finite sequence of calls on one `WebSocketStream`, each carrying the engine's
answers to the engine calls it may make. Every entry point of the crate is one of these
calls: the `Stream` and `FusedStream` methods, the `Sink` methods, one poll of a `Send`
future (`send`, `close`, and the byte-sender `poll_close` all poll `send_helper`), and the
byte-sender `poll_write`. The split handles call the same methods under the lock
(`AsyncTungstenite.Split`).

`run` gives back every call's result, the stream after it and its events; `after` is the
stream at the end. Facts about runs are proved from one lemma about a single call and an
induction on the list of calls.
-/

set_option autoImplicit false

namespace AsyncTungstenite

/-- One call on a stream, with the engine's answers to the engine calls it may make. -/
inductive Call
  | pollNext (cx : Context) (read : Except WsError Message)
  | isTerminated
  | pollReady (cx : Context) (flush : Except WsError Unit)
  | startSend (item : Message) (write : Except WsError Unit)
  | pollFlush (cx : Context) (flush : Except WsError Unit)
  | pollClose (cx : Context) (res : Except WsError Unit)
  | sendHelper (msg : Option Message) (cx : Context) (answers : SendAnswers)
  | pollWrite (cx : Context) (buf : List UInt8) (readyFlush write : Except WsError Unit)
  deriving DecidableEq, Repr

/-- What a call returns to its caller. `helper` also returns the message slot. -/
inductive Reply
  | next (r : Poll (Option (Except WsError Message)))
  | terminated (b : Bool)
  | poll (r : Poll (Except WsError Unit))
  | sent (r : Except WsError Unit)
  | helper (r : Poll (Except WsError Unit)) (msg : Option Message)
  | wrote (r : Poll (Except WsError Nat))
  deriving DecidableEq, Repr

namespace WebSocketStream

/-- Make one call. -/
def call (s : WebSocketStream) : Call → Called Reply
  | .pollNext cx read => (s.pollNext cx read).map .next
  | .isTerminated => ⟨.terminated s.isTerminated, s, []⟩
  | .pollReady cx flush => (s.pollReady cx flush).map .poll
  | .startSend item write => (s.startSend item write).map .sent
  | .pollFlush cx flush => (s.pollFlush cx flush).map .poll
  | .pollClose cx res => (s.pollClose cx res).map .poll
  | .sendHelper msg cx answers => (s.sendHelper msg cx answers).map fun r => .helper r.1 r.2
  | .pollWrite cx buf readyFlush write => (s.pollWrite cx buf readyFlush write).map .wrote

/-- Make the calls one after the other; each call's record, in order. -/
def run (s : WebSocketStream) : List Call → List (Called Reply)
  | [] => []
  | c :: cs => s.call c :: run (s.call c).stream cs

/-- The stream after the calls. -/
def after (s : WebSocketStream) : List Call → WebSocketStream
  | [] => s
  | c :: cs => after (s.call c).stream cs

/-- The replies of the calls, in order. -/
def replies (s : WebSocketStream) (cs : List Call) : List Reply := (s.run cs).map (·.result)

variable {s : WebSocketStream}

@[simp] theorem run_nil : s.run [] = [] := rfl

@[simp] theorem run_cons (c : Call) (cs : List Call) :
    s.run (c :: cs) = s.call c :: (s.call c).stream.run cs := rfl

@[simp] theorem after_nil : s.after [] = s := rfl

@[simp] theorem after_cons (c : Call) (cs : List Call) :
    s.after (c :: cs) = (s.call c).stream.after cs := rfl

@[simp] theorem replies_nil : s.replies [] = [] := rfl

@[simp] theorem replies_cons (c : Call) (cs : List Call) :
    s.replies (c :: cs) = (s.call c).result :: (s.call c).stream.replies cs := rfl

theorem after_append (cs ds : List Call) : s.after (cs ++ ds) = (s.after cs).after ds := by
  induction cs generalizing s with
  | nil => rfl
  | cons c cs ih => simp [ih]

@[simp] theorem length_run (cs : List Call) : (s.run cs).length = cs.length := by
  induction cs generalizing s with
  | nil => rfl
  | cons c cs ih => simp [ih]

end WebSocketStream

end AsyncTungstenite
