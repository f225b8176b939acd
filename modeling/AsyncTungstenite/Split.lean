import AsyncTungstenite.Run
import Mathlib.Data.List.Basic

/-!
# Split halves and `reunite`

`split` moves a connection into an `Arc<Shared<S>>`, a mutex in a reference-counted
allocation, and returns a `WebSocketSender` and a `WebSocketReceiver` that each hold one
strong reference to it. Every method of a half locks the mutex and calls the stream's
method; `is_pair_of` compares the two pointers; `reunite` drops the receiver and unwraps the
sender's `Arc`, which succeeds only when no other strong reference is left, and panics in
`expect("reunite the stream")` otherwise.

The store models the program's values: the streams it owns, the allocations by address,
and for each `split` call the pointer its halves hold and which halves are still alive (a
half is gone once dropped or moved into `reunite`). Halves are named by the `split` call
that returned them. Each record also carries, as ghost state, the connection at the split
and the calls made through its halves since. The allocator may give a new `split` any free
address, one freed earlier included.

The invariant `Store.Inv`: each allocation's strong count is the number of live halves
pointing to it; a live half points to an allocation whose connection is the one at the
split run through the calls since; and live halves of different splits point to different
allocations. It holds of a store with no allocation, and every step keeps it. From it:
`is_pair_of` holds exactly for the two halves of one split, a call through a half is the
stream's method on the allocation's connection, `reunite` of a pair always returns the
connection of the ghost record, and `reunite` of halves of different splits hands them back
with the store unchanged.

## Main definitions

* `Shared` — the allocation: the connection behind the mutex, and the strong count
* `WebSocketSender.call`, `WebSocketReceiver.call` — the methods of the halves
* `Store.step` — calls on owned streams, `split`, calls through a half, drops,
  `is_pair_of` and `reunite`
* `Store.Inv` — the invariant above

## Main results

* `Store.step_inv`, `Store.after_inv` — every step, hence every run, keeps the invariant
* `Store.splitContract_of_inv` — what the halves guarantee in every store that keeps it
* `Store.step_ne_panic` — no step of such a store panics
-/

set_option autoImplicit false

namespace AsyncTungstenite

/-- `Shared`: the allocation behind the halves' `Arc`, the mutex holding the connection,
with the `Arc`'s strong count. No call of the model panics while it holds the lock, so the
mutex is never poisoned and `lock` and `into_inner` always succeed. -/
structure Shared where
  conn : WebSocketStream
  strong : Nat
  deriving DecidableEq, Repr

/-- The two halves of a split stream. -/
inductive Half
  | sender
  | receiver
  deriving DecidableEq, Repr

namespace Half

/-- The other half. -/
def other : Half → Half
  | .sender => .receiver
  | .receiver => .sender

/-- The calls a half has a method for: the receiver's `poll_next` and `is_terminated`, and
the sender's sink, byte-sender and `send` methods. -/
def takes : Half → Call → Bool
  | .receiver, .pollNext _ _ | .receiver, .isTerminated => true
  | .sender, .pollNext _ _ | .sender, .isTerminated => false
  | .receiver, _ => false
  | .sender, _ => true

end Half

/-- `poll_write` of `WebSocketSender`: the stream's `poll_write` sequence (wait for
readiness, then queue the buffer as one binary message) run on the locked connection. -/
def WebSocketSender.pollWrite (ws : WebSocketStream) (cx : Context) (buf : List UInt8)
    (readyFlush write : Except WsError Unit) : Called (Poll (Except WsError Nat)) :=
  ws.pollWrite cx buf readyFlush write

/-- The methods of `WebSocketSender` on the locked connection: the `Sink` methods, the
byte-sender methods and a poll of `send` run the stream's method. `none` for a call the
sender has no method for. -/
def WebSocketSender.call (ws : WebSocketStream) : Call → Option (Called Reply)
  | .pollReady cx flush => some ((ws.pollReady cx flush).map .poll)
  | .startSend item write => some ((ws.startSend item write).map .sent)
  | .pollFlush cx flush => some ((ws.pollFlush cx flush).map .poll)
  | .pollClose cx res => some ((ws.pollClose cx res).map .poll)
  | .sendHelper msg cx answers =>
    some ((ws.sendHelper msg cx answers).map fun r => .helper r.1 r.2)
  | .pollWrite cx buf readyFlush write =>
    some ((WebSocketSender.pollWrite ws cx buf readyFlush write).map .wrote)
  | .pollNext _ _ | .isTerminated => none

/-- The methods of `WebSocketReceiver` on the locked connection: `poll_next` calls the
stream's, `is_terminated` reads its `ended`. -/
def WebSocketReceiver.call (ws : WebSocketStream) : Call → Option (Called Reply)
  | .pollNext cx read => some ((ws.pollNext cx read).map .next)
  | .isTerminated => some ⟨.terminated ws.ended, ws, []⟩
  | _ => none

/-- The methods of a half. -/
def Half.call : Half → WebSocketStream → Call → Option (Called Reply)
  | .sender => WebSocketSender.call
  | .receiver => WebSocketReceiver.call

/-- A half has the stream's own method for each call it takes: the result, the connection
after it and the events are those of the direct call. -/
theorem Half.call_eq (half : Half) (ws : WebSocketStream) (c : Call) :
    half.call ws c = if half.takes c then some (ws.call c) else none := by
  cases half <;> cases c <;> rfl

/-- What one `split` call returned: the pointer its two halves hold and whether each is
still alive; with, as ghost state, the connection at the split and the calls made through
the halves since, in order. -/
structure Halves where
  shared : Nat
  sender : Bool
  receiver : Bool
  atSplit : WebSocketStream
  history : List Call
  deriving DecidableEq, Repr

namespace Halves

/-- Whether the given half is alive. -/
def isLive (sp : Halves) : Half → Bool
  | .sender => sp.sender
  | .receiver => sp.receiver

/-- The record once the given half is gone. -/
def kill (sp : Halves) : Half → Halves
  | .sender => { sp with sender := false }
  | .receiver => { sp with receiver := false }

/-- The record after a call through one of the halves. -/
def record (c : Call) (sp : Halves) : Halves := { sp with history := sp.history ++ [c] }

/-- The strong references the live halves hold to the allocation at `a`. -/
def share (a : Nat) (sp : Halves) : Nat :=
  if sp.shared = a then sp.sender.toNat + sp.receiver.toNat else 0

variable {sp : Halves} {half : Half} {a : Nat}

@[simp] theorem kill_shared : (sp.kill half).shared = sp.shared := by cases half <;> rfl

@[simp] theorem kill_atSplit : (sp.kill half).atSplit = sp.atSplit := by cases half <;> rfl

@[simp] theorem kill_history : (sp.kill half).history = sp.history := by cases half <;> rfl

/-- A killed half is gone; the other keeps its state. -/
theorem isLive_kill (half' : Half) :
    (sp.kill half).isLive half' = (sp.isLive half' && decide (half' ≠ half)) := by
  cases half <;> cases half' <;> simp [kill, isLive]

@[simp] theorem isLive_record (c : Call) : (record c sp).isLive half = sp.isLive half := by
  cases half <;> rfl

@[simp] theorem share_record (c : Call) : (record c sp).share a = sp.share a := rfl

theorem share_of_ne (other : sp.shared ≠ a) : sp.share a = 0 := by simp [share, other]

/-- Dropping a live half gives up one strong reference to its allocation. -/
theorem share_kill (live : sp.isLive half) :
    (sp.kill half).share sp.shared + 1 = sp.share sp.shared := by
  cases half <;> simp_all [share, kill, isLive, Bool.toNat]; omega

/-- A record with no live half at `a` holds nothing there. -/
theorem share_eq_zero (dead : ∀ half, sp.isLive half → sp.shared ≠ a) : sp.share a = 0 := by
  by_cases same : sp.shared = a
  · have sender := dead .sender
    have receiver := dead .receiver
    simp only [isLive, same, ne_eq, not_true_eq_false, imp_false, Bool.not_eq_true]
      at sender receiver
    simp [share, sender, receiver]
  · exact share_of_ne same

/-- Two different live halves: the split holds two strong references. -/
theorem share_both {half' : Half} (live : sp.isLive half) (live' : sp.isLive half')
    (different : half' ≠ half) : sp.share sp.shared = 2 := by
  cases half <;> cases half' <;> simp_all [share, isLive]

/-- A record with both halves gone holds nothing. -/
@[simp] theorem share_kill_kill : ((sp.kill .receiver).kill .sender).share a = 0 := by
  simp [share, kill]

end Halves

/-- The strong references the live halves of all splits hold to the allocation at `a`. -/
def holders : List Halves → Nat → Nat
  | [], _ => 0
  | sp :: splits, a => sp.share a + holders splits a

section Holders

variable {splits : List Halves} {k : Nat} {sp : Halves}

@[simp] theorem holders_nil (a : Nat) : holders [] a = 0 := rfl

@[simp] theorem holders_cons (x : Halves) (xs : List Halves) (a : Nat) :
    holders (x :: xs) a = x.share a + holders xs a := rfl

theorem holders_append (x : Halves) (a : Nat) :
    holders (splits ++ [x]) a = holders splits a + x.share a := by
  induction splits with
  | nil => simp
  | cons y ys ih => simp [ih]; omega

theorem getElem?_modify_eq_some {f : Halves → Halves} {j : Nat} {x : Halves}
    (at_j : (splits.modify f k)[j]? = some x) :
    ∃ y, splits[j]? = some y ∧ x = if k = j then f y else y := by
  rw [List.getElem?_modify] at at_j
  cases found : splits[j]? <;> simp_all

/-- Changing one record changes the count by the change of its share. -/
theorem holders_modify (f : Halves → Halves) (at_k : splits[k]? = some sp) (a : Nat) :
    holders (splits.modify f k) a + sp.share a = holders splits a + (f sp).share a := by
  induction splits generalizing k with
  | nil => simp at at_k
  | cons x xs ih =>
    cases k with
    | zero =>
      simp only [List.getElem?_cons_zero, Option.some.injEq] at at_k
      subst at_k
      simp
      omega
    | succ k =>
      have := ih (by simpa using at_k)
      simp only [List.modify_succ_cons, holders_cons]
      omega

theorem holders_eq_zero {a : Nat}
    (none : ∀ (j : Nat) (x : Halves), splits[j]? = some x → x.share a = 0) :
    holders splits a = 0 := by
  induction splits with
  | nil => rfl
  | cons x xs ih =>
    simp only [holders_cons, none 0 x (by simp),
      ih fun j y at_j => none (j + 1) y (by simpa using at_j)]

/-- When no other split holds `a`, the count at `a` is that split's share. -/
theorem holders_eq_share {a : Nat} (at_k : splits[k]? = some sp)
    (alone : ∀ (j : Nat) (x : Halves), splits[j]? = some x → j ≠ k → x.share a = 0) :
    holders splits a = sp.share a := by
  have rest : holders (splits.modify (fun x => (x.kill .receiver).kill .sender) k) a = 0 :=
    holders_eq_zero fun j x at_j => by
      obtain ⟨y, found, rfl⟩ := getElem?_modify_eq_some at_j
      by_cases same : k = j
      · simp [same]
      · simpa [same] using alone j y found (Ne.symm same)
  have := holders_modify (fun x => (x.kill .receiver).kill .sender) at_k a
  rw [Halves.share_kill_kill] at this
  omega

end Holders

/-- Live halves of different splits hold different pointers. -/
def Apart (splits : List Halves) : Prop :=
  ∀ (k k' : Nat) (sp sp' : Halves) (half half' : Half),
    splits[k]? = some sp → splits[k']? = some sp' → sp.isLive half → sp'.isLive half' →
      sp.shared = sp'.shared → k = k'

/-- A change to one record that keeps its pointer and kills no half back to life keeps the
halves of different splits apart. -/
theorem Apart.modify {splits : List Halves} (apart : Apart splits) {f : Halves → Halves} (k : Nat)
    (shared : ∀ x, (f x).shared = x.shared)
    (fewer : ∀ x half, (f x).isLive half → x.isLive half) :
    Apart (splits.modify f k) := by
  have keeps : ∀ (i : Nat) (y : Halves), (if k = i then f y else y).shared = y.shared ∧
      ∀ half, (if k = i then f y else y).isLive half → y.isLive half := by
    intro i y
    split
    exacts [⟨shared y, fewer y⟩, ⟨rfl, fun _ live => live⟩]
  intro j j' x x' half half' at_j at_j' live live' same
  obtain ⟨y, found, rfl⟩ := getElem?_modify_eq_some at_j
  obtain ⟨y', found', rfl⟩ := getElem?_modify_eq_some at_j'
  exact apart j j' y y' half half' found found' ((keeps j y).2 _ live) ((keeps j' y').2 _ live')
    (by rw [← (keeps j y).1, ← (keeps j' y').1, same])

/-- The program's values: the streams it owns by variable (`none` once moved), the `Shared`
allocations by address, and one record for each `split` call, in order. -/
structure Store where
  streams : List (Option WebSocketStream)
  heap : Nat → Option Shared
  splits : List Halves

/-- A step of the program. -/
inductive StoreStep
  /-- A call on the owned stream `i`. -/
  | call (i : Nat) (c : Call)
  /-- `split` of the owned stream `i`, the allocator giving the address `addr`. -/
  | split (i addr : Nat)
  /-- A call through a half of split `k`. -/
  | viaHalf (k : Nat) (half : Half) (c : Call)
  /-- Dropping a half of split `k`. -/
  | drop (k : Nat) (half : Half)
  /-- `is_pair_of` of a half of split `k` with the other half of split `k'`. -/
  | isPairOf (k : Nat) (half : Half) (k' : Nat)
  /-- `reunite` of the sender of split `s` with the receiver of split `r`. -/
  | reunite (s r : Nat)
  deriving DecidableEq, Repr

/-- What a step returns. `rejected` is a step the program cannot make: one that names a
moved value, a call a half has no method for, or an address in use. -/
inductive StoreReply
  | call (r : Reply) (events : List Event)
  | split (k : Nat)
  | dropped
  | pairOf (b : Bool)
  | reunited (i : Nat)
  | notPair (s r : Nat)
  | panic (msg : String)
  | rejected
  deriving DecidableEq, Repr

namespace Store

/-- `Drop` of an `Arc`: the strong count goes down, and the allocation, with the connection
in it, is freed when the count was one. -/
def release (heap : Nat → Option Shared) (a : Nat) : Nat → Option Shared :=
  match heap a with
  | some cell =>
    if cell.strong = 1 then Function.update heap a none
    else Function.update heap a (some { cell with strong := cell.strong - 1 })
  | none => heap

/-- `Arc::try_unwrap` and `Shared::into_inner`: the connection, with the allocation freed,
when the strong count is one. -/
def tryUnwrap (heap : Nat → Option Shared) (a : Nat) :
    Option (WebSocketStream × (Nat → Option Shared)) :=
  match heap a with
  | some cell => if cell.strong = 1 then some (cell.conn, Function.update heap a none) else none
  | none => none

/-- One step of the program. -/
def step (st : Store) : StoreStep → Store × StoreReply
  | .call i c =>
    match st.streams[i]? with
    | some (some ws) =>
      ({ st with streams := st.streams.set i (some (ws.call c).stream) },
        .call (ws.call c).result (ws.call c).events)
    | _ => (st, .rejected)
  | .split i addr =>
    match st.streams[i]?, st.heap addr with
    | some (some ws), none =>
      -- `Arc::new(Shared(Mutex::new(self)))`, then `shared.clone()` for the sender
      (⟨st.streams.set i none, Function.update st.heap addr (some ⟨ws, 1 + 1⟩),
        st.splits ++ [⟨addr, true, true, ws, []⟩]⟩, .split st.splits.length)
    | _, _ => (st, .rejected)
  | .viaHalf k half c =>
    match st.splits[k]? with
    | some sp =>
      if sp.isLive half then
        match st.heap sp.shared with
        | some cell =>
          match half.call cell.conn c with
          | some d =>
            (⟨st.streams, Function.update st.heap sp.shared (some { cell with conn := d.stream }),
              st.splits.modify (Halves.record c) k⟩, .call d.result d.events)
          | none => (st, .rejected)
        | none => (st, .rejected)
      else (st, .rejected)
    | none => (st, .rejected)
  | .drop k half =>
    match st.splits[k]? with
    | some sp =>
      if sp.isLive half then
        (⟨st.streams, release st.heap sp.shared, st.splits.modify (·.kill half) k⟩, .dropped)
      else (st, .rejected)
    | none => (st, .rejected)
  | .isPairOf k half k' =>
    match st.splits[k]?, st.splits[k']? with
    | some sp, some sp' =>
      -- `Arc::ptr_eq(&self.shared, &other.shared)`
      if sp.isLive half && sp'.isLive half.other then (st, .pairOf (sp.shared == sp'.shared))
      else (st, .rejected)
    | _, _ => (st, .rejected)
  | .reunite s r =>
    match st.splits[s]?, st.splits[r]? with
    | some sp, some rp =>
      if sp.sender && rp.receiver then
        if sp.shared == rp.shared then
          -- `drop(receiver)`, then `Arc::try_unwrap(sender.shared).ok().expect(..)`
          let splits := st.splits.modify (·.kill .receiver) r
          let heap := release st.heap rp.shared
          match tryUnwrap heap sp.shared with
          | some (conn, heap) =>
            (⟨st.streams ++ [some conn], heap, splits.modify (·.kill .sender) s⟩,
              .reunited st.streams.length)
          | none =>
            (⟨st.streams, release heap sp.shared, splits.modify (·.kill .sender) s⟩,
              .panic "reunite the stream")
        else (st, .notPair s r)
      else (st, .rejected)
    | _, _ => (st, .rejected)

/-- The store after some steps. -/
def after (st : Store) : List StoreStep → Store
  | [] => st
  | t :: ts => (st.step t).1.after ts

/-- The program's start: the given connections, no allocation and no split. -/
def init (conns : List WebSocketStream) : Store := ⟨conns.map some, fun _ => none, []⟩

/-! ## What each step does

One lemma for each kind of step, saying everything it can do. The invariant and the
refinement of the stream are proved from these, never by unfolding `step`. -/

theorem step_call_cases (st : Store) (i : Nat) (c : Call) :
    st.step (.call i c) = (st, .rejected) ∨
    ∃ ws, st.streams[i]? = some (some ws) ∧
      st.step (.call i c) = ({ st with streams := st.streams.set i (some (ws.call c).stream) },
        .call (ws.call c).result (ws.call c).events) := by
  simp only [step]
  split
  · exact .inr ⟨_, ‹_›, rfl⟩
  · exact .inl rfl

theorem step_split_cases (st : Store) (i addr : Nat) :
    st.step (.split i addr) = (st, .rejected) ∨
    ∃ ws, st.streams[i]? = some (some ws) ∧ st.heap addr = none ∧
      st.step (.split i addr) =
        (⟨st.streams.set i none, Function.update st.heap addr (some ⟨ws, 1 + 1⟩),
          st.splits ++ [⟨addr, true, true, ws, []⟩]⟩, .split st.splits.length) := by
  simp only [step]
  split
  · exact .inr ⟨_, ‹_›, ‹_›, rfl⟩
  · exact .inl rfl

/-- A call through a half is refused, or the half is alive, its allocation holds the
connection and the half has a method for the call: the stream's method runs on the
connection, which stays in the allocation, and the call is recorded. -/
theorem step_viaHalf_cases (st : Store) (k : Nat) (half : Half) (c : Call) :
    st.step (.viaHalf k half c) = (st, .rejected) ∨
    ∃ sp cell, st.splits[k]? = some sp ∧ sp.isLive half ∧ st.heap sp.shared = some cell ∧
      half.takes c ∧ st.step (.viaHalf k half c) =
        (⟨st.streams,
          Function.update st.heap sp.shared (some { cell with conn := (cell.conn.call c).stream }),
          st.splits.modify (Halves.record c) k⟩,
          .call (cell.conn.call c).result (cell.conn.call c).events) := by
  simp only [step]
  split
  · rename_i sp at_k
    split
    · rename_i live
      split
      · rename_i cell found
        rw [Half.call_eq]
        cases takes : half.takes c
        · exact .inl rfl
        · exact .inr ⟨sp, cell, at_k, live, found, rfl, rfl⟩
      · exact .inl rfl
    · exact .inl rfl
  · exact .inl rfl

theorem step_drop_cases (st : Store) (k : Nat) (half : Half) :
    st.step (.drop k half) = (st, .rejected) ∨
    ∃ sp, st.splits[k]? = some sp ∧ sp.isLive half ∧ st.step (.drop k half) =
      (⟨st.streams, release st.heap sp.shared, st.splits.modify (·.kill half) k⟩,
        .dropped) := by
  simp only [step]
  split
  · split
    · exact .inr ⟨_, ‹_›, ‹_›, rfl⟩
    · exact .inl rfl
  · exact .inl rfl

/-- `is_pair_of` changes nothing. -/
theorem step_isPairOf_store (st : Store) (k : Nat) (half : Half) (k' : Nat) :
    (st.step (.isPairOf k half k')).1 = st := by
  simp only [step]
  split
  · split <;> rfl
  · rfl

/-- The invariant of the store. -/
structure Inv (st : Store) : Prop where
  /-- Each allocation's strong count is the number of live halves pointing to it. -/
  counted : ∀ a cell, st.heap a = some cell → cell.strong = holders st.splits a
  /-- A live half points to an allocation holding the connection at its split run through
  the calls made through the halves since. -/
  backed : ∀ (k : Nat) (sp : Halves) (half : Half), st.splits[k]? = some sp → sp.isLive half →
    ∃ cell, st.heap sp.shared = some cell ∧ cell.conn = sp.atSplit.after sp.history
  /-- Live halves of different splits point to different allocations. -/
  apart : Apart st.splits

theorem getElem?_append_singleton {α : Type} {l : List α} {x y : α} {k : Nat}
    (at_k : (l ++ [x])[k]? = some y) : l[k]? = some y ∨ (k = l.length ∧ y = x) := by
  rcases Nat.lt_or_ge k l.length with lt | ge
  · exact .inl (by rwa [List.getElem?_append_left lt] at at_k)
  · rw [List.getElem?_append_right ge] at at_k
    rcases Nat.eq_or_lt_of_le ge with eq | gt
    · subst eq
      exact .inr ⟨rfl, by simpa [eq_comm] using at_k⟩
    · rw [show k - l.length = (k - l.length - 1) + 1 by omega] at at_k
      simp at at_k

section Heap

variable {heap : Nat → Option Shared} {a : Nat} {cell : Shared}

theorem release_of_ne {b : Nat} (other : b ≠ a) : release heap a b = heap b := by
  cases found : heap a with
  | none => simp [release, found]
  | some cell =>
    simp only [release, found]
    split <;> exact Function.update_noteq other _ _

theorem release_self (found : heap a = some cell) : release heap a a =
    if cell.strong = 1 then none else some { cell with strong := cell.strong - 1 } := by
  simp only [release, found]
  split <;> simp

/-- Freeing an allocation after dropping a reference to it frees it. -/
theorem update_release : Function.update (release heap a) a none = Function.update heap a none := by
  funext b
  by_cases same : b = a
  · subst same; simp
  · simp [Function.update_noteq same, release_of_ne same]

theorem tryUnwrap_of_one (found : heap a = some cell) (one : cell.strong = 1) :
    tryUnwrap heap a = some (cell.conn, Function.update heap a none) := by
  simp [tryUnwrap, found, one]

end Heap

variable {st : Store}

/-- A live half of another split has another pointer. -/
theorem Inv.shared_ne (inv : st.Inv) {k j : Nat} {sp x : Halves} {half half' : Half}
    (at_k : st.splits[k]? = some sp) (at_j : st.splits[j]? = some x) (live : sp.isLive half)
    (live' : x.isLive half') (different : j ≠ k) : x.shared ≠ sp.shared :=
  fun same => different (inv.apart j k x sp half' half at_j at_k live' live same)

/-- The allocation of a live half holds only the references of its own split. -/
theorem Inv.holders_eq (inv : st.Inv) {k : Nat} {sp : Halves} {half : Half}
    (at_k : st.splits[k]? = some sp) (live : sp.isLive half) :
    holders st.splits sp.shared = sp.share sp.shared :=
  holders_eq_share at_k fun _ _ at_j different =>
    Halves.share_eq_zero fun _ live' => inv.shared_ne at_k at_j live live' different

theorem inv_init (conns : List WebSocketStream) : (init conns).Inv :=
  ⟨fun _ _ found => (nomatch found), fun _ _ _ at_k => by simp [init] at at_k,
    fun _ _ _ _ _ _ at_k => by simp [init] at at_k⟩

/-- A change at the allocation and the record of split `k` leaves the live halves of every
other split backed as before. -/
theorem Inv.backed_modify (inv : st.Inv) {k : Nat} {sp : Halves} {half : Half}
    (at_k : st.splits[k]? = some sp) (live : sp.isLive half) {f : Halves → Halves}
    {heap : Nat → Option Shared} (frame : ∀ b, b ≠ sp.shared → heap b = st.heap b) {j : Nat}
    {x : Halves} {half' : Half} (at_j : (st.splits.modify f k)[j]? = some x) (other : j ≠ k)
    (live' : x.isLive half') : ∃ cell, heap x.shared = some cell ∧
      cell.conn = x.atSplit.after x.history := by
  obtain ⟨y, found_j, rfl⟩ := getElem?_modify_eq_some at_j
  rw [if_neg (Ne.symm other)] at live' ⊢
  rw [frame _ (inv.shared_ne at_k found_j live live' other)]
  exact inv.backed j y half' found_j live'

theorem inv_call (inv : st.Inv) (i : Nat) (c : Call) : (st.step (.call i c)).1.Inv := by
  rcases step_call_cases st i c with eq | ⟨ws, -, eq⟩ <;> rw [eq]
  exacts [inv, ⟨inv.counted, inv.backed, inv.apart⟩]

/-- `split` at a free address: no live half points there, so the new allocation's count of
two is its halves'. -/
theorem inv_split (inv : st.Inv) (i addr : Nat) : (st.step (.split i addr)).1.Inv := by
  rcases step_split_cases st i addr with eq | ⟨ws, -, free, eq⟩ <;> rw [eq]
  · exact inv
  have elsewhere : ∀ (k : Nat) (sp : Halves) (half : Half), st.splits[k]? = some sp →
      sp.isLive half → sp.shared ≠ addr := by
    intro k sp half at_k live same
    obtain ⟨cell, found, -⟩ := inv.backed k sp half at_k live
    rw [same, free] at found
    cases found
  have unheld : holders st.splits addr = 0 := holders_eq_zero fun j _ at_j =>
    Halves.share_eq_zero fun _ live => elsewhere j _ _ at_j live
  refine ⟨fun a cell found => ?_, fun k sp half at_k live => ?_, ?_⟩ <;> dsimp only at *
  · rw [holders_append]
    by_cases same : a = addr
    · subst same
      simp only [Function.update_same, Option.some.injEq] at found
      subst found
      simp [unheld, Halves.share]
    · rw [Function.update_noteq same] at found
      rw [← inv.counted a cell found, Halves.share_of_ne (Ne.symm same), Nat.add_zero]
  · rcases getElem?_append_singleton at_k with old | ⟨-, rfl⟩
    · rw [Function.update_noteq (elsewhere k sp half old live)]
      exact inv.backed k sp half old live
    · exact ⟨_, Function.update_same _ _ _, rfl⟩
  · intro j j' x x' half half' at_j at_j' live live' same
    rcases getElem?_append_singleton at_j with old | ⟨rfl, rfl⟩ <;>
      rcases getElem?_append_singleton at_j' with old' | ⟨rfl, rfl⟩
    · exact inv.apart j j' x x' half half' old old' live live' same
    · exact absurd same (elsewhere j x half old live)
    · exact absurd same.symm (elsewhere j' x' half' old' live')
    · rfl

/-- A call through a live half changes its split's allocation and ghost record in step. -/
theorem inv_viaHalf (inv : st.Inv) (k : Nat) (half : Half) (c : Call) :
    (st.step (.viaHalf k half c)).1.Inv := by
  rcases step_viaHalf_cases st k half c with eq | ⟨sp, cell, at_k, live, found, -, eq⟩ <;>
    rw [eq]
  · exact inv
  obtain ⟨cell', found', conn⟩ := inv.backed k sp half at_k live
  rw [found, Option.some.injEq] at found'
  subst found'
  have counts : ∀ a, holders (st.splits.modify (Halves.record c) k) a = holders st.splits a :=
    fun a => by
      have := holders_modify (Halves.record c) at_k a
      rw [Halves.share_record] at this
      omega
  refine ⟨fun a cell' at_a => ?_, fun j x half' at_j live' => ?_,
    inv.apart.modify k (fun _ => rfl) fun _ _ => by simp⟩ <;> dsimp only at *
  · rw [counts]
    by_cases same : a = sp.shared
    · subst same
      simp only [Function.update_same, Option.some.injEq] at at_a
      subst at_a
      exact inv.counted _ cell found
    · rw [Function.update_noteq same] at at_a
      exact inv.counted _ _ at_a
  · by_cases same : j = k
    · subst same
      simp only [List.getElem?_modify, at_k, if_true, Option.map_eq_map, Option.map_some',
        Option.some.injEq] at at_j
      subst at_j
      exact ⟨_, Function.update_same _ _ _, by
        simp [Halves.record, conn, WebSocketStream.after_append]⟩
    · exact inv.backed_modify at_k live (fun _ other => Function.update_noteq other _ _) at_j same
        live'

/-- Dropping a live half gives up its reference; the allocation goes only with the last. -/
theorem inv_drop (inv : st.Inv) (k : Nat) (half : Half) : (st.step (.drop k half)).1.Inv := by
  rcases step_drop_cases st k half with eq | ⟨sp, at_k, live, eq⟩ <;> rw [eq]
  · exact inv
  obtain ⟨cell, found, conn⟩ := inv.backed k sp half at_k live
  have counts := holders_modify (·.kill half) at_k
  refine ⟨fun a cell' at_a => ?_, fun j x half' at_j live' => ?_,
    inv.apart.modify k (fun _ => Halves.kill_shared) fun _ half' live' => ?_⟩ <;>
    dsimp only at *
  · have moved := counts a
    by_cases same : a = sp.shared
    · subst same
      rw [release_self found] at at_a
      split at at_a
      · cases at_a
      · simp only [Option.some.injEq] at at_a
        subst at_a
        have := Halves.share_kill live
        have := inv.counted _ _ found
        dsimp only
        omega
    · rw [release_of_ne same] at at_a
      rw [Halves.share_of_ne (Ne.symm same), Halves.share_of_ne (by simpa using Ne.symm same)]
        at moved
      rw [inv.counted _ _ at_a]
      omega
  · by_cases same : j = k
    · subst same
      simp only [List.getElem?_modify, at_k, if_true, Option.map_eq_map, Option.map_some',
        Option.some.injEq] at at_j
      subst at_j
      simp only [Halves.isLive_kill, Bool.and_eq_true, decide_eq_true_eq] at live'
      have two := inv.counted _ _ found
      rw [inv.holders_eq at_k live, Halves.share_both live live'.1 live'.2] at two
      refine ⟨{ cell with strong := cell.strong - 1 }, ?_, by simpa using conn⟩
      simp [release_self found, two]
    · exact inv.backed_modify at_k live (fun _ other => release_of_ne other) at_j same live'
  · rw [Halves.isLive_kill] at live'
    simp only [Bool.and_eq_true] at live'
    exact live'.1

theorem inv_isPairOf (inv : st.Inv) (k : Nat) (half : Half) (k' : Nat) :
    (st.step (.isPairOf k half k')).1.Inv := by
  rw [step_isPairOf_store]
  exact inv

/-- `reunite` of the two halves of one split, in a store that keeps the invariant: dropping
the receiver leaves the sender's the only reference, so `try_unwrap` succeeds and never
reaches the `expect`; the connection, the one at the split run through the calls made on
the halves, becomes an owned stream, and the allocation is freed. -/
theorem step_reunite_pair (inv : st.Inv) {k : Nat} {sp : Halves}
    (at_k : st.splits[k]? = some sp) (sender : sp.sender) (receiver : sp.receiver) :
    ∃ cell, st.heap sp.shared = some cell ∧ cell.conn = sp.atSplit.after sp.history ∧
      st.step (.reunite k k) =
        (⟨st.streams ++ [some cell.conn], Function.update st.heap sp.shared none,
          (st.splits.modify (·.kill .receiver) k).modify (·.kill .sender) k⟩,
          .reunited st.streams.length) := by
  obtain ⟨cell, found, conn⟩ := inv.backed k sp .sender at_k sender
  have two : cell.strong = 2 := by
    rw [inv.counted _ _ found, inv.holders_eq at_k (show sp.isLive .sender from sender)]
    exact Halves.share_both (show sp.isLive .sender from sender)
      (show sp.isLive .receiver from receiver) (by decide)
  have dropped : release st.heap sp.shared sp.shared = some { cell with strong := 1 } := by
    simp [release_self found, two]
  refine ⟨cell, found, conn, ?_⟩
  simp only [step, at_k, sender, receiver, Bool.and_self, beq_self_eq_true, if_true,
    tryUnwrap_of_one dropped rfl, update_release]

/-- `reunite` of halves of different splits compares two different pointers and hands
both halves back, the store unchanged. -/
theorem step_reunite_apart (inv : st.Inv) {s r : Nat} {sp rp : Halves} (different : s ≠ r)
    (at_s : st.splits[s]? = some sp) (at_r : st.splits[r]? = some rp) (sender : sp.sender)
    (receiver : rp.receiver) : st.step (.reunite s r) = (st, .notPair s r) := by
  have apart : sp.shared ≠ rp.shared :=
    inv.shared_ne at_r at_s (show rp.isLive .receiver from receiver)
      (show sp.isLive .sender from sender) different
  simp [step, at_s, at_r, sender, receiver, apart]

/-- The store after `reunite` of a pair keeps the invariant: the freed allocation had only
that split's references, and no live half points to it. -/
theorem inv_reunited (inv : st.Inv) {k : Nat} {sp : Halves} (at_k : st.splits[k]? = some sp)
    (sender : sp.sender) (conn : WebSocketStream) :
    (⟨st.streams ++ [some conn], Function.update st.heap sp.shared none,
      (st.splits.modify (·.kill .receiver) k).modify (·.kill .sender) k⟩ : Store).Inv := by
  rw [List.modify_modify_eq]
  have gone : ∀ (x : Halves) (half : Half),
      (((·.kill .sender) ∘ (·.kill .receiver)) x : Halves).isLive half = false :=
    fun x half => by cases half <;> rfl
  refine ⟨fun a cell at_a => ?_, fun j x half at_j live => ?_,
    inv.apart.modify k (fun _ => by simp) fun x half live =>
      absurd ((gone x half).symm.trans live) Bool.false_ne_true⟩ <;>
    dsimp only at *
  · have same : a ≠ sp.shared := by
      rintro rfl
      simp at at_a
    rw [Function.update_noteq same] at at_a
    have := holders_modify ((·.kill .sender) ∘ (·.kill .receiver)) at_k a
    rw [Function.comp_apply, Halves.share_kill_kill, Halves.share_of_ne (Ne.symm same)] at this
    rw [inv.counted _ _ at_a]
    omega
  · by_cases same : j = k
    · obtain ⟨y, -, rfl⟩ := getElem?_modify_eq_some at_j
      rw [if_pos same.symm, gone] at live
      cases live
    · exact inv.backed_modify at_k (show sp.isLive .sender from sender)
        (fun _ other => Function.update_noteq other _ _) at_j same live

/-- Under the invariant, `reunite` is refused, hands back halves of different splits with
the store unchanged, or reunites the two halves of one split. -/
theorem step_reunite_cases (inv : st.Inv) (s r : Nat) :
    st.step (.reunite s r) = (st, .rejected) ∨ st.step (.reunite s r) = (st, .notPair s r) ∨
    s = r ∧ ∃ sp cell, st.splits[s]? = some sp ∧ sp.sender ∧ sp.receiver ∧
      st.heap sp.shared = some cell ∧ cell.conn = sp.atSplit.after sp.history ∧
      st.step (.reunite s r) =
        (⟨st.streams ++ [some cell.conn], Function.update st.heap sp.shared none,
          (st.splits.modify (·.kill .receiver) s).modify (·.kill .sender) s⟩,
          .reunited st.streams.length) := by
  cases at_s : st.splits[s]? with
  | none => exact .inl (by simp [step, at_s])
  | some sp =>
    cases at_r : st.splits[r]? with
    | none => exact .inl (by simp [step, at_s, at_r])
    | some rp =>
      by_cases both : sp.sender ∧ rp.receiver
      · by_cases same : s = r
        · subst same
          rw [at_s, Option.some.injEq] at at_r
          subst at_r
          obtain ⟨cell, found, conn, eq⟩ := step_reunite_pair inv at_s both.1 both.2
          exact .inr (.inr ⟨rfl, sp, cell, rfl, both.1, both.2, found, conn, eq⟩)
        · exact .inr (.inl (step_reunite_apart inv same at_s at_r both.1 both.2))
      · have : (sp.sender && rp.receiver) = false := by simpa using both
        exact .inl (by simp [step, at_s, at_r, this])

theorem inv_reunite (inv : st.Inv) (s r : Nat) : (st.step (.reunite s r)).1.Inv := by
  rcases step_reunite_cases inv s r with eq | eq | ⟨-, sp, cell, at_s, sender, -, -, -, eq⟩ <;>
    rw [eq]
  · exact inv
  · exact inv
  · exact inv_reunited inv at_s sender cell.conn

/-- Every step keeps the invariant. -/
theorem step_inv (inv : st.Inv) : ∀ t : StoreStep, (st.step t).1.Inv
  | .call i c => inv_call inv i c
  | .split i addr => inv_split inv i addr
  | .viaHalf k half c => inv_viaHalf inv k half c
  | .drop k half => inv_drop inv k half
  | .isPairOf k half k' => inv_isPairOf inv k half k'
  | .reunite s r => inv_reunite inv s r

/-- Every run from a store that keeps the invariant keeps it. -/
theorem after_inv (inv : st.Inv) (steps : List StoreStep) : (st.after steps).Inv := by
  induction steps generalizing st with
  | nil => exact inv
  | cons t ts ih => exact ih (step_inv inv t)

/-- Under the invariant no step panics: the only panic of the store is the `expect` of
`reunite`, and `reunite` of a pair always unwraps. -/
theorem step_ne_panic (inv : st.Inv) (t : StoreStep) (msg : String) :
    (st.step t).2 ≠ .panic msg := by
  cases t with
  | call i c => rcases step_call_cases st i c with eq | ⟨_, -, eq⟩ <;> rw [eq] <;> nofun
  | split i addr =>
    rcases step_split_cases st i addr with eq | ⟨_, -, -, eq⟩ <;> rw [eq] <;> nofun
  | viaHalf k half c =>
    rcases step_viaHalf_cases st k half c with eq | ⟨_, _, -, -, -, -, eq⟩ <;> rw [eq] <;> nofun
  | drop k half => rcases step_drop_cases st k half with eq | ⟨_, -, -, eq⟩ <;> rw [eq] <;> nofun
  | isPairOf k half k' =>
    simp only [step]
    split
    · split <;> nofun
    · nofun
  | reunite s r =>
    rcases step_reunite_cases inv s r with eq | eq | ⟨-, _, _, -, -, -, -, -, eq⟩ <;> rw [eq] <;>
      nofun

/-- `is_pair_of` of two live halves, either way round, holds exactly when one `split` call
returned them. -/
theorem step_isPairOf (inv : st.Inv) {k k' : Nat} {half : Half} {sp sp' : Halves}
    (at_k : st.splits[k]? = some sp) (at_k' : st.splits[k']? = some sp')
    (live : sp.isLive half) (live' : sp'.isLive half.other) :
    st.step (.isPairOf k half k') = (st, .pairOf (decide (k = k'))) := by
  have pointers : (sp.shared == sp'.shared) = decide (k = k') := by
    by_cases same : k = k'
    · subst same
      rw [at_k, Option.some.injEq] at at_k'
      simp [at_k']
    · simp [same, inv.shared_ne at_k' at_k live' live same]
  simp [step, at_k, at_k', live, live', pointers]

/-- A call through a live half is the stream's method on the allocation's connection. -/
theorem step_viaHalf (inv : st.Inv) {k : Nat} {half : Half} {c : Call} {sp : Halves}
    (at_k : st.splits[k]? = some sp) (live : sp.isLive half) (takes : half.takes c) :
    ∃ cell, st.heap sp.shared = some cell ∧ cell.conn = sp.atSplit.after sp.history ∧
      st.step (.viaHalf k half c) =
        (⟨st.streams,
          Function.update st.heap sp.shared (some { cell with conn := (cell.conn.call c).stream }),
          st.splits.modify (Halves.record c) k⟩,
          .call (cell.conn.call c).result (cell.conn.call c).events) := by
  obtain ⟨cell, found, conn⟩ := inv.backed k sp half at_k live
  exact ⟨cell, found, conn, by simp [step, at_k, live, found, Half.call_eq, takes]⟩

end Store

/-- What the halves of split streams guarantee in a store. -/
structure SplitContract (st : Store) : Prop where
  /-- Each allocation's strong count is the number of live halves pointing to it. -/
  strongCount : ∀ a cell, st.heap a = some cell → cell.strong = holders st.splits a
  /-- `is_pair_of` of two live halves, either way round, holds exactly when one `split` call
  returned them. -/
  isPairOf : ∀ (k : Nat) (half : Half) (k' : Nat) (sp sp' : Halves),
    st.splits[k]? = some sp → st.splits[k']? = some sp' → sp.isLive half →
      sp'.isLive half.other → st.step (.isPairOf k half k') = (st, .pairOf (decide (k = k')))
  /-- A call through a live half returns what the stream's method returns on the connection
  in the allocation, and leaves there the connection that method leaves; that connection
  is the one at the split run through the calls made on the halves, in order. -/
  delegates : ∀ (k : Nat) (half : Half) (c : Call) (sp : Halves),
    st.splits[k]? = some sp → sp.isLive half → half.takes c →
    ∃ cell, st.heap sp.shared = some cell ∧ cell.conn = sp.atSplit.after sp.history ∧
      (st.step (.viaHalf k half c)).2 =
        .call (cell.conn.call c).result (cell.conn.call c).events ∧
      (st.step (.viaHalf k half c)).1.heap sp.shared =
        some { cell with conn := (cell.conn.call c).stream }
  /-- `reunite` of the two live halves of one split returns `Ok` (it never panics) with the
  connection at the split run through the calls made on the halves, and frees the
  allocation. -/
  reunitePair : ∀ (k : Nat) (sp : Halves),
    st.splits[k]? = some sp → sp.sender → sp.receiver →
    (st.step (.reunite k k)).2 = .reunited st.streams.length ∧
    (st.step (.reunite k k)).1.streams = st.streams ++ [some (sp.atSplit.after sp.history)] ∧
    (st.step (.reunite k k)).1.heap sp.shared = none
  /-- `reunite` of live halves of different splits returns `Err` with both halves, the store
  unchanged. -/
  reuniteApart : ∀ (s r : Nat) (sp rp : Halves), s ≠ r → st.splits[s]? = some sp →
    st.splits[r]? = some rp → sp.sender → rp.receiver →
      st.step (.reunite s r) = (st, .notPair s r)

namespace Store

variable {st : Store}

/-- A store that keeps the invariant keeps the contract. -/
theorem splitContract_of_inv (inv : st.Inv) : SplitContract st where
  strongCount := inv.counted
  isPairOf _ _ _ _ _ at_k at_k' live live' := step_isPairOf inv at_k at_k' live live'
  delegates _ _ _ _ at_k live takes := by
    obtain ⟨cell, found, conn, eq⟩ := step_viaHalf inv at_k live takes
    exact ⟨cell, found, conn, by rw [eq], by simp [eq]⟩
  reunitePair _ _ at_k sender receiver := by
    obtain ⟨cell, found, conn, eq⟩ := step_reunite_pair inv at_k sender receiver
    exact ⟨by rw [eq], by rw [eq, conn], by simp [eq]⟩
  reuniteApart _ _ _ _ different at_s at_r sender receiver :=
    step_reunite_apart inv different at_s at_r sender receiver

end Store

/-- Over every run of a program from owned connections, with any steps: no step panics, so
`reunite` never reaches `expect("reunite the stream")`, whichever halves it is given. -/
theorem program_never_panics (conns : List WebSocketStream) (steps : List StoreStep)
    (t : StoreStep) (msg : String) : (((Store.init conns).after steps).step t).2 ≠ .panic msg :=
  Store.step_ne_panic (Store.after_inv (Store.inv_init conns) steps) t msg

end AsyncTungstenite
