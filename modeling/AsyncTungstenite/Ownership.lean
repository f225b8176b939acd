import AsyncTungstenite.Lifetime

/-!
# No step loses or duplicates a connection

A connection is owned by one place at a time: a stream variable, or the two halves of a
split. `split` moves it from the variable into the halves, `reunite` of a pair moves it out
of them into a new variable, and `reunite` of halves of different splits hands both back.
Calls, `is_pair_of` and the drop of a half whose other half is alive leave every connection
where it is. So over every run a connection made at the start stays held at exactly one
live place, until the one step that loses it: the drop of the last live half of the split
holding it, which frees the allocation and the connection with it.

The step law is stated per shape of a step, as in `Lifetime.lean`: a step that keeps every
place, a step that moves a connection to a fresh place, and the drop.

## Main definitions

* `Tracked.HeldAt` — connection `n` is at the live place `p`
* `Tracked.DropsLast` — a step drops the last live half of the split holding `n`

## Main results

* `Tracked.held_step` — a step keeps a connection held exactly when it held it and does not
  drop the last half of its split
* `connections_conserved` — over every run, each connection of the program is held at one
  place from the start until that drop
-/

set_option autoImplicit false

namespace AsyncTungstenite

/-- A split stays a live place after the drop of one half exactly when its other half is
alive. -/
theorem Halves.live_kill (sp : Halves) (half : Half) :
    ((sp.kill half).sender || (sp.kill half).receiver) = sp.isLive half.other := by
  cases half <;> simp [kill, isLive, Half.other]

namespace Tracked

/-- Connection `n` is at the live place `p`. -/
def HeldAt (g : Tracked) (n : Nat) (p : Place) : Prop :=
  g.store.connAt p ≠ none ∧ g.holds p = some n

/-- The step drops the last live half of the split that holds connection `n`. -/
def DropsLast (g : Tracked) (n : Nat) : StoreStep → Prop
  | .drop k half => ∃ sp, g.store.splits[k]? = some sp ∧ sp.isLive half ∧
      sp.isLive half.other = false ∧ g.holds (.split k) = some n
  | _ => False

/-! ## The shapes of a step -/

section Shapes

variable {g g' : Tracked} {n : Nat}

/-- A step that keeps every place's liveness and holder keeps every connection where it
is. -/
theorem held_of_same (holds : g'.holds = g.holds)
    (alive : ∀ p, g'.store.connAt p ≠ none ↔ g.store.connAt p ≠ none) :
    (∃ p, g'.HeldAt n p) ↔ ∃ p, g.HeldAt n p := by
  simp only [HeldAt, holds, alive]

/-- A step that moves the connection of the live place `src` to the fresh place `dst`,
leaving `src` dead and the other places as they were, keeps every connection held. -/
theorem held_of_move {src dst : Place} (live_src : g.store.connAt src ≠ none)
    (fresh : g.store.connAt dst = none)
    (holds : g'.holds = Function.update g.holds dst (g.holds src))
    (moved : g'.store.connAt dst ≠ none) (gone : g'.store.connAt src = none)
    (others : ∀ p, p ≠ src → p ≠ dst → g'.store.connAt p = g.store.connAt p) :
    (∃ p, g'.HeldAt n p) ↔ ∃ p, g.HeldAt n p := by
  constructor
  · rintro ⟨p, live, held⟩
    by_cases to_dst : p = dst
    · subst to_dst
      rw [holds, Function.update_same] at held
      exact ⟨src, live_src, held⟩
    · have not_src : p ≠ src := by rintro rfl; exact live gone
      rw [holds, Function.update_noteq to_dst] at held
      exact ⟨p, others p not_src to_dst ▸ live, held⟩
  · rintro ⟨p, live, held⟩
    by_cases from_src : p = src
    · subst from_src
      exact ⟨dst, moved, by rw [holds, Function.update_same, held]⟩
    · have not_dst : p ≠ dst := by rintro rfl; exact live fresh
      exact ⟨p, by rwa [others p from_src not_dst],
        by rw [holds, Function.update_noteq not_dst, held]⟩

end Shapes

/-! ## What each step does to the connections -/

section Steps

variable {start : Nat → WebSocketStream} {g : Tracked} {n : Nat}

theorem held_call (i : Nat) (c : Call) :
    (∃ p, (g.step (.call i c)).1.HeldAt n p) ↔ ∃ p, g.HeldAt n p := by
  rcases Store.step_call_cases g.store i c with eq | ⟨ws, at_i, eq⟩ <;> simp only [step, eq]
  · rfl
  have lt := (List.getElem?_eq_some_iff.1 at_i).1
  refine held_of_same rfl fun p => ?_
  cases p with
  | stream j =>
    by_cases same : i = j
    · subst same
      simp [Store.connAt, at_i, List.getElem?_set_self lt]
    · simp [Store.connAt, List.getElem?_set_ne same]
  | split k => rfl

theorem held_split (i addr : Nat) :
    (∃ p, (g.step (.split i addr)).1.HeldAt n p) ↔ ∃ p, g.HeldAt n p := by
  rcases Store.step_split_cases g.store i addr with eq | ⟨ws, at_i, -, eq⟩ <;>
    simp only [step, eq]
  · rfl
  have lt := (List.getElem?_eq_some_iff.1 at_i).1
  refine held_of_move (by simp [Store.connAt_stream at_i]) (by simp [Store.connAt]) rfl
    (by simp [Store.connAt]) (by simp [Store.connAt, List.getElem?_set_self lt])
    fun p not_src not_dst => ?_
  cases p with
  | stream j =>
    have : i ≠ j := fun same => not_src (same ▸ rfl)
    simp [Store.connAt, List.getElem?_set_ne this]
  | split k =>
    have : k ≠ g.store.splits.length := fun same => not_dst (same ▸ rfl)
    simp [Store.connAt, getElem?_append_singleton_of_ne this]

theorem held_viaHalf (k : Nat) (half : Half) (c : Call) :
    (∃ p, (g.step (.viaHalf k half c)).1.HeldAt n p) ↔ ∃ p, g.HeldAt n p := by
  rcases Store.step_viaHalf_cases g.store k half c with
    eq | ⟨sp, cell, at_k, live, -, -, eq⟩ <;> simp only [step, eq]
  · rfl
  refine held_of_same rfl fun p => ?_
  cases p with
  | stream j => rfl
  | split j =>
    by_cases same : k = j
    · subst same
      simp [Store.connAt, List.getElem?_modify, at_k, Halves.record]
    · simp [Store.connAt, List.getElem?_modify, same]

theorem held_isPairOf (k : Nat) (half : Half) (k' : Nat) :
    (∃ p, (g.step (.isPairOf k half k')).1.HeldAt n p) ↔ ∃ p, g.HeldAt n p := by
  simp only [step]
  rw [Store.step_isPairOf_store]
  rfl

theorem held_reunite (inv : g.Inv start) (s r : Nat) :
    (∃ p, (g.step (.reunite s r)).1.HeldAt n p) ↔ ∃ p, g.HeldAt n p := by
  rcases Store.step_reunite_cases inv.store s r with
    eq | eq | ⟨rfl, sp, cell, at_s, sender, -, -, -, eq⟩ <;> simp only [step, eq]
  · rfl
  · rfl
  refine held_of_move
    (by simp [Store.connAt_split at_s (show sp.isLive .sender from sender)])
    (by simp [Store.connAt]) rfl (by simp [Store.connAt])
    (by simp [Store.connAt, List.getElem?_modify, at_s, Halves.kill])
    fun p not_src not_dst => ?_
  cases p with
  | stream j =>
    have : j ≠ g.store.streams.length := fun same => not_dst (same ▸ rfl)
    simp [Store.connAt, getElem?_append_singleton_of_ne this]
  | split j =>
    have : s ≠ j := fun same => not_src (same ▸ rfl)
    simp [Store.connAt, List.getElem?_modify, this]

/-- The drop of a half loses a connection exactly when it is the last live half of the
split holding it: the split is then no live place, and no other place held it. -/
theorem held_drop (inv : g.Inv start) (k : Nat) (half : Half) :
    (∃ p, (g.step (.drop k half)).1.HeldAt n p) ↔
      (∃ p, g.HeldAt n p) ∧ ¬ g.DropsLast n (.drop k half) := by
  rcases Store.step_drop_cases g.store k half with eq | ⟨sp, at_k, live, eq⟩
  · have kept : ¬ g.DropsLast n (.drop k half) := by
      rintro ⟨sp, at_k, live, -, -⟩
      simp [Store.step, at_k, live] at eq
    simp only [step, eq, kept, not_false_eq_true, and_true]
    rfl
  have last : g.DropsLast n (.drop k half) ↔
      sp.isLive half.other = false ∧ g.holds (.split k) = some n := by
    simp [DropsLast, at_k, live]
  have live_k : g.store.connAt (.split k) ≠ none := by simp [Store.connAt_split at_k live]
  have alive : ∀ p, (g.step (.drop k half)).1.store.connAt p ≠ none ↔
      g.store.connAt p ≠ none ∧ (p = .split k → sp.isLive half.other) := by
    intro p
    simp only [step, eq]
    cases p with
    | stream j => simp [Store.connAt]
    | split j =>
      by_cases same : k = j
      · subst same
        have killed : (g.store.splits.modify (·.kill half) k)[k]? = some (sp.kill half) := by
          simp [List.getElem?_modify, at_k]
        simp only [ne_eq, live_k, not_false_eq_true, true_and, forall_const]
        simp only [Store.connAt, killed, Option.some_bind, Halves.live_kill]
        split <;> simp [*]
      · simp [Store.connAt, List.getElem?_modify, same, Ne.symm same]
  simp only [HeldAt, alive, last]
  constructor
  · rintro ⟨p, ⟨live_p, stays⟩, held⟩
    refine ⟨⟨p, live_p, held⟩, fun ⟨other_dead, held_k⟩ => ?_⟩
    have := stays (inv.single p (.split k) n live_p live_k held held_k)
    simp_all
  · rintro ⟨⟨p, live_p, held⟩, not_last⟩
    refine ⟨p, ⟨live_p, fun is_k => ?_⟩, held⟩
    subst is_k
    cases other : sp.isLive half.other
    · exact absurd ⟨other, held⟩ not_last
    · rfl

/-- The step law: a step keeps a connection held exactly when it held it before and is not
the drop of the last live half of the split holding it. -/
theorem held_step (inv : g.Inv start) (t : StoreStep) :
    (∃ p, (g.step t).1.HeldAt n p) ↔ (∃ p, g.HeldAt n p) ∧ ¬ g.DropsLast n t := by
  cases t with
  | drop k half => exact held_drop inv k half
  | call i c => simpa [DropsLast] using held_call i c
  | split i addr => simpa [DropsLast] using held_split i addr
  | viaHalf k half c => simpa [DropsLast] using held_viaHalf k half c
  | isPairOf k half k' => simpa [DropsLast] using held_isPairOf k half k'
  | reunite s r => simpa [DropsLast] using held_reunite inv s r

end Steps

/-- At the program's start connection `n` is held, at its own variable, exactly when it was
made. -/
theorem held_init (start : Nat → WebSocketStream) (m n : Nat) :
    (∃ p, (init start m).HeldAt n p) ↔ n < m := by
  constructor
  · rintro ⟨p, live, held⟩
    cases p with
    | stream i =>
      obtain rfl : i = n := Option.some.inj held
      by_contra made
      exact live (by simp [Store.connAt, init, Store.init,
        List.getElem?_eq_none (l := List.range m) (by simpa using made)])
    | split k => cases held
  · intro made
    exact ⟨.stream n, by simp [Store.connAt, init, Store.init, List.getElem?_range made], rfl⟩

section Lost

variable {start : Nat → WebSocketStream} {g : Tracked} {n : Nat}

/-- A step makes a call on connection `n` only at a live place that holds `n`. -/
theorem held_of_entry {t : StoreStep} {e : Call × Reply × List Event}
    (logged : (g.step t).2 = some (n, e)) : ∃ p, g.HeldAt n p := by
  cases t with
  | call i c =>
    rcases Store.step_call_cases g.store i c with eq | ⟨ws, at_i, eq⟩ <;>
      simp only [step, eq, entry] at logged
    · cases logged
    · obtain ⟨n', holds_i, same⟩ := Option.map_eq_some'.mp logged
      obtain ⟨rfl, -⟩ := Prod.mk.inj same
      exact ⟨.stream i, by simp [Store.connAt_stream at_i], holds_i⟩
  | viaHalf k half c =>
    rcases Store.step_viaHalf_cases g.store k half c with
      eq | ⟨sp, cell, at_k, live, -, -, eq⟩ <;> simp only [step, eq, entry] at logged
    · cases logged
    · obtain ⟨n', holds_k, same⟩ := Option.map_eq_some'.mp logged
      obtain ⟨rfl, -⟩ := Prod.mk.inj same
      exact ⟨.split k, by simp [Store.connAt_split at_k live], holds_k⟩
  | split | drop | isPairOf | reunite => cases logged

/-- The run lemma: from a state where connection `n` is held nowhere, no step of any run
makes a call on it. -/
theorem connLog_trace_of_unheld (inv : g.Inv start) (unheld : ¬ ∃ p, g.HeldAt n p)
    (steps : List StoreStep) : connLog n (g.trace steps) = [] := by
  induction steps generalizing g with
  | nil => rfl
  | cons t ts ih =>
    have later : ¬ ∃ p, (g.step t).1.HeldAt n p := fun held =>
      unheld ((held_step inv t).mp held).1
    rw [trace, connLog_append, ih (step_inv inv t) later, List.append_nil]
    cases logged : (g.step t).2 with
    | none => rfl
    | some x =>
      obtain ⟨n', e⟩ := x
      by_cases same : n' = n
      · subst same
        exact absurd (held_of_entry logged) unheld
      · simp [connLog, same]

end Lost

end Tracked

/-- Over every run of a program that made connections `0, …, m - 1`, whatever its steps:
connection `n` is held at the start exactly when it was made; it is never held at two live
places; and each step keeps it held exactly when it was held and the step is not the drop
of the last live half of the split holding it. So calls, `split`, `reunite` (of a pair, or
of halves of different splits, which hands both back), `is_pair_of` and the drop of a half
whose other half is alive never lose a connection, and no step brings one back or makes
one out of nothing. -/
theorem connections_conserved (start : Nat → WebSocketStream) (m : Nat) (steps : List StoreStep)
    (t : StoreStep) (n : Nat) :
    ((∃ p, (Tracked.init start m).HeldAt n p) ↔ n < m) ∧
    (∀ p q, ((Tracked.init start m).after steps).HeldAt n p →
      ((Tracked.init start m).after steps).HeldAt n q → p = q) ∧
    ((∃ p, (((Tracked.init start m).after steps).step t).1.HeldAt n p) ↔
      (∃ p, ((Tracked.init start m).after steps).HeldAt n p) ∧
        ¬ ((Tracked.init start m).after steps).DropsLast n t) := by
  have inv := Tracked.after_inv (Tracked.inv_init start m) steps
  exact ⟨Tracked.held_init start m n,
    fun p q ⟨live, held⟩ ⟨live', held'⟩ => inv.single p q n live live' held held',
    Tracked.held_step inv t⟩

/-- Over every run of a program, once a step has dropped the last live half of the split
holding a connection, no later step makes a call on that connection, whatever the program
does next. -/
theorem dropped_connection_unused (start : Nat → WebSocketStream) (m : Nat)
    (pre : List StoreStep) (t : StoreStep) (post : List StoreStep) (n : Nat)
    (dropped : ((Tracked.init start m).after pre).DropsLast n t) :
    Tracked.connLog n ((((Tracked.init start m).after pre).step t).1.trace post) = [] := by
  have inv := Tracked.after_inv (Tracked.inv_init start m) pre
  exact Tracked.connLog_trace_of_unheld (Tracked.step_inv inv t)
    (fun held => ((Tracked.held_step inv t).mp held).2 dropped) post

/-- Connection 0 is split and both halves are dropped; the receiver's and the stream
variable's later calls are refused. -/
theorem dropped_connection_unused_after_split :
    ((Tracked.init (fun _ => .new ⟨none, none⟩) 1).after
      [.split 0 5, .drop 0 .sender]).DropsLast 0 (.drop 0 .receiver) ∧
    Tracked.connLog 0 ((((Tracked.init (fun _ => .new ⟨none, none⟩) 1).after
      [.split 0 5, .drop 0 .sender]).step (.drop 0 .receiver)).1.trace
        [.viaHalf 0 .receiver .isTerminated, .call 0 .isTerminated]) = [] := by
  refine ⟨?dropped, dropped_connection_unused _ 1 _ _ _ 0 ?dropped⟩
  exact ⟨⟨5, false, true, .new ⟨none, none⟩, []⟩, by decide, rfl, rfl, by decide⟩

end AsyncTungstenite
