import AsyncTungstenite.Refinement

/-!
# Each connection of a program runs as one stream

A connection is made once and then moves through the program: it is used directly while a
stream variable owns it, through the two halves after `split`, directly again after
`reunite` under a new variable, and it may be split again. `Tracked` follows each connection
through these moves as ghost state over the store: which connection each place holds, and
the calls made on each connection so far.

Its invariant: every live place holds its connection as the calls made on it have left it,
and no connection is held at two live places. So each call the program makes is made on one
connection, and over every run the calls of one connection, read out of the run with their
replies and events, are a run of the stream from where the connection started, whatever the
program did in between (`connections_run_as_streams`). Every fact proved of stream runs then
holds of each connection of a program, across splits and reunites.

## Main definitions

* `Place` — an owned stream variable or a split
* `Store.connAt` — the connection at a live place
* `Tracked` — the store with the connection each place holds and each connection's calls
* `Tracked.connLog` — the calls made on one connection, read out of a run

## Main results

* `Tracked.step_inv`, `Tracked.after_inv` — every step, hence every run, keeps the invariant
* `Tracked.after_store` — the ghost state changes nothing of the store's run
* `connections_run_as_streams` — the program's calls are those of its connections, and each
  connection's calls are a direct run of the stream
-/

set_option autoImplicit false

namespace AsyncTungstenite

/-- Where a program holds a connection: an owned stream variable, or the halves of a split. -/
inductive Place
  | stream (i : Nat)
  | split (k : Nat)
  deriving DecidableEq, Repr

/-- The connection at a live place: the stream a variable owns, or for a split with a half
alive the connection at the split run through the calls made on its halves, which is the
allocation's connection (`Store.Inv.backed`). -/
def Store.connAt (st : Store) : Place → Option WebSocketStream
  | .stream i => st.streams[i]?.join
  | .split k => st.splits[k]?.bind fun sp =>
    if sp.sender || sp.receiver then some (sp.atSplit.after sp.history) else none

/-- The calls of a store run, with their replies and events: the calls on owned streams and
through halves, in the order they ran. -/
def Store.calls (tr : List (StoreStep × StoreReply)) : List (Call × Reply × List Event) :=
  tr.filterMap fun
    | (.call _ c, .call r events) | (.viaHalf _ _ c, .call r events) => some (c, r, events)
    | _ => none

section ConnAt

variable {st : Store}

theorem Store.connAt_stream {i : Nat} {ws : WebSocketStream}
    (at_i : st.streams[i]? = some (some ws)) : st.connAt (.stream i) = some ws := by
  simp [connAt, at_i]

/-- A split with a live half is a live place, holding the connection at the split run
through the calls on its halves. -/
theorem Store.connAt_split {k : Nat} {sp : Halves} {half : Half} (at_k : st.splits[k]? = some sp)
    (live : sp.isLive half) : st.connAt (.split k) = some (sp.atSplit.after sp.history) := by
  cases half <;> simp only [Halves.isLive] at live <;> simp [connAt, at_k, live]

end ConnAt

/-- The store with ghost state: the connection each place holds, connections being numbered
from the program's start, and the calls made on each connection so far. -/
structure Tracked where
  store : Store
  holds : Place → Option Nat
  life : Nat → List Call

namespace Tracked

/-- The log entry of a step: a call the store made, with its reply and events, and the
connection of the place it was made at. -/
def entry (g : Tracked) : StoreStep → StoreReply → Option (Nat × Call × Reply × List Event)
  | .call i c, .call r events => (g.holds (.stream i)).map fun n => (n, c, r, events)
  | .viaHalf k _ c, .call r events => (g.holds (.split k)).map fun n => (n, c, r, events)
  | _, _ => none

/-- The places after a step: `split` moves the connection of the stream variable to the new
split, `reunite` moves the connection of the split to the new stream variable. -/
def moved (g : Tracked) : StoreStep → StoreReply → Place → Option Nat
  | .split i _, .split k => Function.update g.holds (.split k) (g.holds (.stream i))
  | .reunite s _, .reunited i => Function.update g.holds (.stream i) (g.holds (.split s))
  | _, _ => g.holds

/-- The calls of each connection after a log entry: its call added to its connection's. -/
def logLife (life : Nat → List Call) :
    Option (Nat × Call × Reply × List Event) → Nat → List Call
  | some (n, c, _, _) => Function.update life n (life n ++ [c])
  | none => life

/-- One step of the program, with the log entry of the call it made. -/
def step (g : Tracked) (t : StoreStep) : Tracked × Option (Nat × Call × Reply × List Event) :=
  (⟨(g.store.step t).1, g.moved t (g.store.step t).2,
    logLife g.life (g.entry t (g.store.step t).2)⟩, g.entry t (g.store.step t).2)

/-- The state after some steps. -/
def after (g : Tracked) : List StoreStep → Tracked
  | [] => g
  | t :: ts => (g.step t).1.after ts

/-- The calls of a run, each with its connection, reply and events, in order. -/
def trace (g : Tracked) : List StoreStep → List (Nat × Call × Reply × List Event)
  | [] => []
  | t :: ts => (g.step t).2.toList ++ (g.step t).1.trace ts

/-- The calls made on connection `n`, with their replies and events. -/
def connLog (n : Nat) (tr : List (Nat × Call × Reply × List Event)) :
    List (Call × Reply × List Event) :=
  tr.filterMap fun e => if e.1 = n then some e.2 else none

/-- The program's start: connections `0, …, m - 1`, connection `n` the stream `start n` owned
by variable `n`. -/
def init (start : Nat → WebSocketStream) (m : Nat) : Tracked where
  store := Store.init ((List.range m).map start)
  holds
    | .stream i => some i
    | .split _ => none
  life _ := []

/-- Connection `n` as the calls made on it so far have left it. -/
def current (start : Nat → WebSocketStream) (g : Tracked) (n : Nat) : WebSocketStream :=
  (start n).after (g.life n)

/-- The invariant: the store's; each live place holds a connection, as the calls made on it
have left it; and no connection is held at two live places. -/
structure Inv (start : Nat → WebSocketStream) (g : Tracked) : Prop where
  store : g.store.Inv
  runs : ∀ p ws, g.store.connAt p = some ws →
    ∃ n, g.holds p = some n ∧ ws = current start g n
  single : ∀ p q n, g.store.connAt p ≠ none → g.store.connAt q ≠ none →
    g.holds p = some n → g.holds q = some n → p = q

theorem getElem?_append_singleton_of_ne {α : Type} {l : List α} {x : α} {k : Nat}
    (other : k ≠ l.length) : (l ++ [x])[k]? = l[k]? := by
  rcases Nat.lt_or_gt_of_ne other with lt | gt
  · exact List.getElem?_append_left lt
  · rw [List.getElem?_eq_none (by simp; omega), List.getElem?_eq_none (by omega)]

/-! ## The three shapes of a step

A step lets places die and changes nothing else, or makes a call on the connection of one
place, or moves a connection to a new place and leaves the old one dead. Each shape keeps
the invariant. -/

section Shapes

variable {start : Nat → WebSocketStream} {g g' : Tracked}

/-- A step that only lets places die, with the same connections and calls. -/
theorem Inv.of_fewer (inv : g.Inv start) (store : g'.store.Inv) (holds : g'.holds = g.holds)
    (life : g'.life = g.life)
    (fewer : ∀ p ws, g'.store.connAt p = some ws → g.store.connAt p = some ws) :
    g'.Inv start where
  store := store
  runs p ws at_p := by
    simp only [holds, current, life]
    exact inv.runs p ws (fewer p ws at_p)
  single p q n live live' := by
    rw [holds]
    obtain ⟨ws, at_p⟩ := Option.ne_none_iff_exists'.1 live
    obtain ⟨ws', at_q⟩ := Option.ne_none_iff_exists'.1 live'
    exact inv.single p q n (by simp [fewer p ws at_p]) (by simp [fewer q ws' at_q])

/-- A step that makes call `c` on the connection `n` of place `p₀` and changes no other
place. -/
theorem Inv.of_call (inv : g.Inv start) (store : g'.store.Inv) {p₀ : Place}
    {ws : WebSocketStream} {n : Nat} {c : Call} (at_p₀ : g.store.connAt p₀ = some ws)
    (holds_p₀ : g.holds p₀ = some n)
    (holds : g'.holds = g.holds) (life : g'.life = Function.update g.life n (g.life n ++ [c]))
    (called : g'.store.connAt p₀ = some (ws.call c).stream)
    (others : ∀ p, p ≠ p₀ → g'.store.connAt p = g.store.connAt p) :
    g'.Inv start where
  store := store
  runs p ws' at_p := by
    rw [holds]
    by_cases same : p = p₀
    · subst same
      obtain ⟨n', holds_n', rfl⟩ := inv.runs p ws at_p₀
      rw [holds_p₀, Option.some.injEq] at holds_n'
      subst holds_n'
      rw [called, Option.some.injEq] at at_p
      refine ⟨n, holds_p₀, ?_⟩
      rw [← at_p, current, current, life, Function.update_same, WebSocketStream.after_append]
      rfl
    · obtain ⟨m, holds_m, rfl⟩ := inv.runs p ws' (others p same ▸ at_p)
      have other : m ≠ n := fun eq => same (inv.single p p₀ n (by simp [others p same ▸ at_p])
        (by simp [at_p₀]) (eq ▸ holds_m) holds_p₀)
      exact ⟨m, holds_m, by rw [current, current, life, Function.update_noteq other]⟩
  single p q m live live' := by
    have keeps : ∀ p, g'.store.connAt p ≠ none → g.store.connAt p ≠ none := fun p live => by
      by_cases same : p = p₀
      · simp [same, at_p₀]
      · rwa [← others p same]
    rw [holds]
    exact inv.single p q m (keeps p live) (keeps q live')

/-- A step that moves the connection of `src` to the new place `dst`, leaving `src` dead
and the other places as they were. -/
theorem Inv.of_move (inv : g.Inv start) (store : g'.store.Inv) {src dst : Place}
    {ws : WebSocketStream} (at_src : g.store.connAt src = some ws)
    (holds : g'.holds = Function.update g.holds dst (g.holds src)) (life : g'.life = g.life)
    (moved : g'.store.connAt dst = some ws) (gone : g'.store.connAt src = none)
    (others : ∀ p, p ≠ src → p ≠ dst → g'.store.connAt p = g.store.connAt p) :
    g'.Inv start where
  store := store
  runs p ws' at_p := by
    simp only [holds, current, life]
    by_cases same : p = dst
    · subst same
      rw [moved, Option.some.injEq] at at_p
      subst at_p
      rw [Function.update_same]
      exact inv.runs src _ at_src
    · have not_src : p ≠ src := by rintro rfl; simp [gone] at at_p
      rw [Function.update_noteq same]
      exact inv.runs p ws' (others p not_src same ▸ at_p)
  single p q n live live' held held' := by
    have old : ∀ p, g'.store.connAt p ≠ none → p ≠ dst →
        p ≠ src ∧ g.store.connAt p ≠ none := fun p live other => by
      have not_src : p ≠ src := by rintro rfl; exact live gone
      exact ⟨not_src, others p not_src other ▸ live⟩
    have at_dst : ∀ p, p ≠ dst → g'.holds p = g.holds p := fun p other => by
      rw [holds, Function.update_noteq other]
    have src_n : g'.holds dst = some n → g.holds src = some n := fun held => by
      rwa [holds, Function.update_same] at held
    by_cases same : p = dst <;> by_cases same' : q = dst
    · exact same.trans same'.symm
    · subst same
      obtain ⟨not_src, live_q⟩ := old q live' same'
      exact absurd (inv.single q src n live_q (by simp [at_src]) (at_dst q same' ▸ held')
        (src_n held)) not_src
    · subst same'
      obtain ⟨not_src, live_p⟩ := old p live same
      exact absurd (inv.single p src n live_p (by simp [at_src]) (at_dst p same ▸ held)
        (src_n held')) not_src
    · exact inv.single p q n (old p live same).2 (old q live' same').2
        (at_dst p same ▸ held) (at_dst q same' ▸ held')

end Shapes

/-! ## What each step does to the places -/

section Steps

variable {start : Nat → WebSocketStream} {g : Tracked}

theorem Inv.store_step (inv : g.Inv start) (t : StoreStep) : (g.step t).1.store.Inv :=
  Store.step_inv inv.store t

theorem inv_call (inv : g.Inv start) (i : Nat) (c : Call) : (g.step (.call i c)).1.Inv start := by
  have store := inv.store_step (.call i c)
  rcases Store.step_call_cases g.store i c with eq | ⟨ws, at_i, eq⟩ <;>
    simp only [step, eq] at store ⊢
  · exact inv
  have lt := (List.getElem?_eq_some_iff.1 at_i).1
  have at_p₀ := Store.connAt_stream at_i
  obtain ⟨n, holds_i, -⟩ := inv.runs _ _ at_p₀
  refine inv.of_call (c := c) store at_p₀ holds_i rfl (by simp [entry, holds_i, logLife])
    (by simp [Store.connAt, List.getElem?_set_self lt]) fun p other => ?_
  cases p with
  | stream j =>
    have : i ≠ j := fun same => other (same ▸ rfl)
    simp [Store.connAt, List.getElem?_set_ne this]
  | split k => rfl

theorem inv_split (inv : g.Inv start) (i addr : Nat) : (g.step (.split i addr)).1.Inv start := by
  have store := inv.store_step (.split i addr)
  rcases Store.step_split_cases g.store i addr with eq | ⟨ws, at_i, -, eq⟩ <;>
    simp only [step, eq] at store ⊢
  · exact inv
  have lt := (List.getElem?_eq_some_iff.1 at_i).1
  refine inv.of_move store (Store.connAt_stream at_i) rfl rfl (by simp [Store.connAt])
    (by simp [Store.connAt, List.getElem?_set_self lt]) fun p not_src not_dst => ?_
  cases p with
  | stream j =>
    have : i ≠ j := fun same => not_src (same ▸ rfl)
    simp [Store.connAt, List.getElem?_set_ne this]
  | split k =>
    have : k ≠ g.store.splits.length := fun same => not_dst (same ▸ rfl)
    simp [Store.connAt, getElem?_append_singleton_of_ne this]

theorem inv_viaHalf (inv : g.Inv start) (k : Nat) (half : Half) (c : Call) :
    (g.step (.viaHalf k half c)).1.Inv start := by
  have store := inv.store_step (.viaHalf k half c)
  rcases Store.step_viaHalf_cases g.store k half c with
    eq | ⟨sp, cell, at_k, live, -, -, eq⟩ <;> simp only [step, eq] at store ⊢
  · exact inv
  have at_p₀ := Store.connAt_split at_k live
  obtain ⟨n, holds_k, -⟩ := inv.runs _ _ at_p₀
  have recorded : (g.store.splits.modify (Halves.record c) k)[k]? = some (sp.record c) := by
    simp [List.getElem?_modify, at_k]
  refine inv.of_call (c := c) store at_p₀ holds_k rfl (by simp [entry, holds_k, logLife])
    ((Store.connAt_split recorded ((Halves.isLive_record c).trans live)).trans
      (by simp [Halves.record, WebSocketStream.after_append])) fun p other => ?_
  cases p with
  | stream j => rfl
  | split j =>
    have : k ≠ j := fun same => other (same ▸ rfl)
    simp [Store.connAt, List.getElem?_modify, this]

theorem inv_drop (inv : g.Inv start) (k : Nat) (half : Half) :
    (g.step (.drop k half)).1.Inv start := by
  have store := inv.store_step (.drop k half)
  rcases Store.step_drop_cases g.store k half with eq | ⟨sp, -, -, eq⟩ <;>
    simp only [step, eq] at store ⊢
  · exact inv
  refine inv.of_fewer store rfl rfl fun p ws at_p => ?_
  cases p with
  | stream j => exact at_p
  | split j =>
    simp only [Store.connAt, List.getElem?_modify] at at_p ⊢
    cases at_j : g.store.splits[j]? with
    | none => simp [at_j] at at_p
    | some x =>
      simp only [at_j, Option.map_some', Option.some_bind] at at_p ⊢
      split at at_p
      · cases half <;> simp_all [Halves.kill]
      · exact at_p

theorem inv_isPairOf (inv : g.Inv start) (k : Nat) (half : Half) (k' : Nat) :
    (g.step (.isPairOf k half k')).1.Inv start :=
  inv.of_fewer (inv.store_step _) rfl rfl fun p ws at_p => by
    rwa [step, Store.step_isPairOf_store] at at_p

theorem inv_reunite (inv : g.Inv start) (s r : Nat) : (g.step (.reunite s r)).1.Inv start := by
  have store := inv.store_step (.reunite s r)
  rcases Store.step_reunite_cases inv.store s r with
    eq | eq | ⟨rfl, sp, cell, at_s, sender, -, -, conn, eq⟩ <;>
    simp only [step, eq] at store ⊢
  · exact inv
  · exact inv
  refine inv.of_move store (Store.connAt_split at_s (show sp.isLive .sender from sender)) rfl rfl (by simp [Store.connAt, conn])
    (by simp [Store.connAt, List.getElem?_modify, at_s, Halves.kill]) fun p not_src not_dst => ?_
  cases p with
  | stream j =>
    have : j ≠ g.store.streams.length := fun same => not_dst (same ▸ rfl)
    simp [Store.connAt, getElem?_append_singleton_of_ne this]
  | split j =>
    have : s ≠ j := fun same => not_src (same ▸ rfl)
    simp [Store.connAt, List.getElem?_modify, this]

/-- Every step keeps the invariant. -/
theorem step_inv (inv : g.Inv start) : ∀ t : StoreStep, (g.step t).1.Inv start
  | .call i c => inv_call inv i c
  | .split i addr => inv_split inv i addr
  | .viaHalf k half c => inv_viaHalf inv k half c
  | .drop k half => inv_drop inv k half
  | .isPairOf k half k' => inv_isPairOf inv k half k'
  | .reunite s r => inv_reunite inv s r

/-- Every run from a state that keeps the invariant keeps it. -/
theorem after_inv (inv : g.Inv start) (steps : List StoreStep) : (g.after steps).Inv start := by
  induction steps generalizing g with
  | nil => exact inv
  | cons t ts ih => exact ih (step_inv inv t)

/-- The program's start keeps the invariant. -/
theorem inv_init (start : Nat → WebSocketStream) (m : Nat) : (init start m).Inv start where
  store := Store.inv_init _
  runs p ws at_p := by
    cases p with
    | stream i =>
      by_cases lt : i < m
      · simp [Store.connAt, init, Store.init, List.getElem?_range lt] at at_p
        exact ⟨i, rfl, by simp [current, init, at_p]⟩
      · simp [Store.connAt, init, Store.init, List.getElem?_eq_none (l := List.range m)
          (by simpa using lt)] at at_p
    | split k => simp [Store.connAt, init, Store.init] at at_p
  single p q n live live' held held' := by
    have no_split : ∀ k, (init start m).store.connAt (.split k) = none := fun _ => rfl
    cases p with
    | split k => exact absurd (no_split k) live
    | stream i =>
      cases q with
      | split k => exact absurd (no_split k) live'
      | stream j =>
        exact congrArg Place.stream ((Option.some.inj held).trans (Option.some.inj held').symm)

end Steps

/-! ## The log of each connection -/

section Log

variable {start : Nat → WebSocketStream} {g : Tracked}

@[simp] theorem connLog_append (n : Nat) (tr tr' : List (Nat × Call × Reply × List Event)) :
    connLog n (tr ++ tr') = connLog n tr ++ connLog n tr' :=
  List.filterMap_append _ _ _

/-- A call the program makes is logged with the connection of its place, and returns what
the stream's method returns on that connection as the earlier calls left it. -/
theorem step_entry (inv : g.Inv start) {t : StoreStep} {n : Nat} {c : Call} {r : Reply}
    {events : List Event} (logged : (g.step t).2 = some (n, c, r, events)) :
    r = ((current start g n).call c).result ∧ events = ((current start g n).call c).events := by
  have by_place : ∀ p ws c', g.store.connAt p = some ws →
      (g.holds p).map (fun n' => (n', c', (ws.call c').result, (ws.call c').events)) =
        some (n, c, r, events) →
      r = ((current start g n).call c).result ∧ events = ((current start g n).call c).events := by
    intro p ws c' at_p entry
    obtain ⟨n', holds_p, rfl⟩ := inv.runs p ws at_p
    simp only [holds_p, Option.map_some', Option.some.injEq, Prod.mk.injEq] at entry
    obtain ⟨rfl, rfl, rfl, rfl⟩ := entry
    exact ⟨rfl, rfl⟩
  cases t with
  | call i c' =>
    rcases Store.step_call_cases g.store i c' with eq | ⟨ws, at_i, eq⟩ <;>
      simp only [step, eq] at logged
    · cases logged
    · exact by_place _ ws c' (Store.connAt_stream at_i) logged
  | viaHalf k half c' =>
    rcases Store.step_viaHalf_cases g.store k half c' with
      eq | ⟨sp, cell, at_k, live, found, -, eq⟩ <;> simp only [step, eq] at logged
    · cases logged
    · obtain ⟨cell', found', conn⟩ := inv.store.backed k sp half at_k live
      rw [found, Option.some.injEq] at found'
      subst found'
      exact by_place _ cell.conn c' (conn ▸ Store.connAt_split at_k live) logged
  | split | drop | isPairOf | reunite => cases logged

/-- The step lemma: if each connection's log so far is the direct run of its calls, it still
is after one more step. -/
theorem connLog_step (inv : g.Inv start) {tr : List (Nat × Call × Reply × List Event)}
    (logged : ∀ n, connLog n tr = (start n).log (g.life n)) (t : StoreStep) (n : Nat) :
    connLog n (tr ++ (g.step t).2.toList) = (start n).log ((g.step t).1.life n) := by
  rw [connLog_append, logged, show (g.step t).1.life = logLife g.life (g.step t).2 from rfl]
  cases entry : (g.step t).2 with
  | none => exact List.append_nil _
  | some e =>
    obtain ⟨m, c, r, events⟩ := e
    obtain ⟨rfl, rfl⟩ := step_entry inv entry
    by_cases same : m = n
    · subst same
      simp [connLog, logLife, WebSocketStream.log_concat, current]
    · simp [connLog, logLife, same, Function.update_noteq (Ne.symm same)]

/-- The run lemma: from a state that keeps the invariant, each connection's log extends as
the direct run of its calls. -/
theorem connLog_after (inv : g.Inv start) {tr : List (Nat × Call × Reply × List Event)}
    (logged : ∀ n, connLog n tr = (start n).log (g.life n)) (steps : List StoreStep) (n : Nat) :
    connLog n (tr ++ g.trace steps) = (start n).log ((g.after steps).life n) := by
  induction steps generalizing g tr with
  | nil => simpa [trace] using logged n
  | cons t ts ih =>
    have next := ih (step_inv inv t) (connLog_step inv logged t)
    simpa [trace] using next

/-- A step logs the call the store made, if it made one. -/
theorem step_calls (inv : g.Inv start) (t : StoreStep) :
    (g.step t).2.toList.map Prod.snd = Store.calls [(t, (g.store.step t).2)] := by
  cases t with
  | call i c =>
    rcases Store.step_call_cases g.store i c with eq | ⟨ws, at_i, eq⟩ <;> simp only [step, eq]
    · rfl
    · obtain ⟨n, holds_i, -⟩ := inv.runs _ _ (Store.connAt_stream at_i)
      simp only [entry, holds_i]
      rfl
  | viaHalf k half c =>
    rcases Store.step_viaHalf_cases g.store k half c with
      eq | ⟨sp, cell, at_k, live, -, -, eq⟩ <;> simp only [step, eq]
    · rfl
    · obtain ⟨n, holds_k, -⟩ := inv.runs _ _ (Store.connAt_split at_k live)
      simp only [entry, holds_k]
      rfl
  | split | drop | isPairOf | reunite => rfl

/-- The calls of a run, read without their connections, are the calls the store made. -/
theorem trace_calls (inv : g.Inv start) (steps : List StoreStep) :
    (g.trace steps).map Prod.snd = Store.calls (g.store.trace steps) := by
  induction steps generalizing g with
  | nil => rfl
  | cons t ts ih =>
    rw [trace, List.map_append, step_calls inv t, ih (step_inv inv t), Store.trace]
    exact (List.filterMap_append _ _ _).symm

/-- From the program's start, each connection's log is the direct run of its calls. -/
theorem connLog_init (start : Nat → WebSocketStream) (m : Nat) (steps : List StoreStep)
    (n : Nat) : connLog n ((init start m).trace steps) =
      (start n).log (((init start m).after steps).life n) :=
  @connLog_after start (init start m) (inv_init start m) [] (fun _ => rfl) steps n

end Log

/-- The ghost state changes nothing of the store's run. -/
theorem after_store (g : Tracked) (steps : List StoreStep) :
    (g.after steps).store = g.store.after steps := by
  induction steps generalizing g with
  | nil => rfl
  | cons t ts ih => exact ih _

end Tracked

/-- A direct run's log lists the calls it was made of. -/
theorem WebSocketStream.log_calls (s : WebSocketStream) (cs : List Call) :
    (s.log cs).map Prod.fst = cs := by
  induction cs generalizing s with
  | nil => rfl
  | cons c cs ih => simp [log, ih]

/-- Over every run of a program from owned connections, making direct calls, splits, calls
through halves, drops, `is_pair_of` tests and `reunite`s: every call the store made is made
on one connection, and the calls of each connection, with what each returned and its
events, in the order they ran, are the direct run of the stream over those calls from
where the connection started. -/
theorem connections_run_as_streams (start : Nat → WebSocketStream) (m : Nat)
    (steps : List StoreStep) :
    ((Tracked.init start m).trace steps).map Prod.snd =
      Store.calls ((Store.init ((List.range m).map start)).trace steps) ∧
    ∀ n, Tracked.connLog n ((Tracked.init start m).trace steps) =
      (start n).log ((Tracked.connLog n ((Tracked.init start m).trace steps)).map Prod.fst) := by
  refine ⟨Tracked.trace_calls (Tracked.inv_init start m) steps, fun n => ?_⟩
  rw [Tracked.connLog_init, WebSocketStream.log_calls]

/-- Connection 0 is split, written through its sender, reunited under variable 1 and polled
there: its log is the direct run of its two calls. -/
example : Tracked.connLog 0 ((Tracked.init (fun _ => .new ⟨none, none⟩) 1).trace
    [.split 0 5, .viaHalf 0 .sender (.startSend (.text "a") (.error (.io .wouldBlock))),
      .reunite 0 0, .call 1 (.pollReady ⟨⟨0⟩⟩ (.ok ()))]) =
    (WebSocketStream.new ⟨none, none⟩).log
      [.startSend (.text "a") (.error (.io .wouldBlock)), .pollReady ⟨⟨0⟩⟩ (.ok ())] := by
  decide

end AsyncTungstenite
