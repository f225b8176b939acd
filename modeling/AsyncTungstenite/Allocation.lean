import AsyncTungstenite.Split

/-!
# The allocations of split streams are reclaimed

`split` allocates the `Arc<Shared<S>>` its halves share, and the allocation is freed by the
`Drop` of the last strong reference, or by `reunite`, which drops the receiver and unwraps
the sender's `Arc`. `Store.Inv` counts the references of each allocation, but a count of
zero with no half left is consistent with it: that allocation would have leaked.
`Store.Reclaimed` says it never happens: every allocation has a strong reference. `release`
frees a cell when it gives up its last reference, `reunite` frees the cell it unwraps, and
the other steps allocate with two references or keep the count, so every step keeps it.

Together with `Store.Inv`: in every store a program reaches, an address is allocated
exactly when a live half points to it, and the strong count of an allocation is one or
two.

## Main definitions

* `Store.Reclaimed` — every allocation has a strong reference

## Main results

* `Store.step_reclaimed`, `Store.after_reclaimed` — every step, hence every run, keeps it
* `allocations_held_by_halves` — the allocations of every program run are those of its
  live halves
-/

set_option autoImplicit false

namespace AsyncTungstenite

namespace Halves

variable {sp : Halves} {a : Nat}

/-- A split holds a reference at `a` only through a live half pointing there. -/
theorem live_of_share_pos (pos : 0 < sp.share a) : sp.shared = a ∧ ∃ half, sp.isLive half := by
  by_cases same : sp.shared = a
  · refine ⟨same, ?_⟩
    cases sender : sp.sender
    · cases receiver : sp.receiver
      · simp [share, same, sender, receiver] at pos
      · exact ⟨.receiver, receiver⟩
    · exact ⟨.sender, sender⟩
  · simp [share, same] at pos

/-- A split holds at most its two references. -/
theorem share_le_two : sp.share a ≤ 2 := by
  unfold share
  split <;> cases sp.sender <;> cases sp.receiver <;> decide

end Halves

/-- Some split holds a reference wherever the count is positive. -/
theorem exists_share_pos {splits : List Halves} {a : Nat} (pos : 0 < holders splits a) :
    ∃ (k : Nat) (sp : Halves), splits[k]? = some sp ∧ 0 < sp.share a := by
  by_contra nothing
  push_neg at nothing
  have := holders_eq_zero fun j x at_j => Nat.le_zero.mp (nothing j x at_j)
  omega

namespace Store

/-- Every allocation has a strong reference: the `Drop` of the last `Arc` frees it. -/
def Reclaimed (st : Store) : Prop :=
  ∀ a cell, st.heap a = some cell → 0 < cell.strong

section Heap

variable {heap : Nat → Option Shared}

/-- Writing a cell with a reference, or freeing one, keeps every cell referenced. -/
theorem update_reclaimed (rec : ∀ a cell, heap a = some cell → 0 < cell.strong) {a : Nat}
    {v : Option Shared} (pos : ∀ cell, v = some cell → 0 < cell.strong) :
    ∀ b cell, Function.update heap a v b = some cell → 0 < cell.strong := by
  intro b cell found
  by_cases same : b = a
  · subst same
    exact pos cell (by simpa using found)
  · exact rec b cell (by rwa [Function.update_noteq same] at found)

/-- `Drop` of an `Arc` frees the cell it held the last reference to, and leaves every other
cell referenced. -/
theorem release_reclaimed (rec : ∀ a cell, heap a = some cell → 0 < cell.strong) (a : Nat) :
    ∀ b cell, release heap a b = some cell → 0 < cell.strong := by
  cases found : heap a with
  | none => simpa [release, found] using rec
  | some old =>
    have held := rec a old found
    simp only [release, found]
    split
    · exact update_reclaimed rec (by simp)
    · exact update_reclaimed rec fun cell eq => by
        cases eq
        dsimp only
        omega

end Heap

variable {st : Store}

theorem reclaimed_init (conns : List WebSocketStream) : (init conns).Reclaimed :=
  fun _ _ found => nomatch found

/-- Every step of a store that keeps the invariant keeps its allocations referenced: `split`
allocates with two references, a call through a half keeps the count, a drop releases one,
and `reunite` of a pair frees the cell. -/
theorem step_reclaimed (inv : st.Inv) (rec : st.Reclaimed) :
    ∀ t : StoreStep, (st.step t).1.Reclaimed
  | .call i c => by
    rcases step_call_cases st i c with eq | ⟨_, -, eq⟩ <;> rw [eq] <;> exact rec
  | .split i addr => by
    rcases step_split_cases st i addr with eq | ⟨_, -, -, eq⟩ <;> rw [eq]
    · exact rec
    · exact update_reclaimed rec fun _ eq => by cases eq; exact Nat.succ_pos 1
  | .viaHalf k half c => by
    rcases step_viaHalf_cases st k half c with eq | ⟨sp, cell, -, -, found, -, eq⟩ <;> rw [eq]
    · exact rec
    · exact update_reclaimed rec fun _ eq => by cases eq; exact rec _ cell found
  | .drop k half => by
    rcases step_drop_cases st k half with eq | ⟨_, -, -, eq⟩ <;> rw [eq]
    · exact rec
    · exact release_reclaimed rec _
  | .isPairOf k half k' => by
    rw [step_isPairOf_store]
    exact rec
  | .reunite s r => by
    rcases step_reunite_cases inv s r with eq | eq | ⟨-, _, _, -, -, -, -, -, eq⟩ <;> rw [eq]
    · exact rec
    · exact rec
    · exact update_reclaimed rec (by simp)

theorem after_reclaimed (inv : st.Inv) (rec : st.Reclaimed) (steps : List StoreStep) :
    (st.after steps).Reclaimed := by
  induction steps generalizing st with
  | nil => exact rec
  | cons t ts ih => exact ih (step_inv inv t) (step_reclaimed inv rec t)

/-- In a store that keeps both invariants, an allocated address has a live half pointing to
it, and its count is that split's one or two references. -/
theorem held_of_allocated (inv : st.Inv) (rec : st.Reclaimed) {a : Nat} {cell : Shared}
    (found : st.heap a = some cell) :
    (∃ (k : Nat) (sp : Halves) (half : Half), st.splits[k]? = some sp ∧ sp.isLive half ∧
      sp.shared = a) ∧
      (cell.strong = 1 ∨ cell.strong = 2) := by
  have count := inv.counted a cell found
  obtain ⟨k, sp, at_k, pos⟩ := exists_share_pos (count ▸ rec a cell found)
  obtain ⟨rfl, half, live⟩ := Halves.live_of_share_pos pos
  have : cell.strong ≤ 2 := by
    rw [count, inv.holders_eq at_k live]
    exact Halves.share_le_two
  have := rec _ cell found
  exact ⟨⟨k, sp, half, at_k, live, rfl⟩, by omega⟩

end Store

/-- Over every run of a program from owned connections, with any steps: an address holds an
allocation exactly when a live half of some split points to it, so the allocation of a
split is freed once its last half is dropped or moved into `reunite` (nothing leaks), and no
live half points to a freed address (nothing dangles); and the strong count of every
allocation is one or two. -/
theorem allocations_held_by_halves (conns : List WebSocketStream) (steps : List StoreStep)
    (a : Nat) :
    ((∃ cell, ((Store.init conns).after steps).heap a = some cell) ↔
      ∃ (k : Nat) (sp : Halves) (half : Half),
        ((Store.init conns).after steps).splits[k]? = some sp ∧ sp.isLive half ∧
        sp.shared = a) ∧
    ∀ cell, ((Store.init conns).after steps).heap a = some cell →
      cell.strong = 1 ∨ cell.strong = 2 := by
  have inv := Store.after_inv (Store.inv_init conns) steps
  have rec := Store.after_reclaimed (Store.inv_init conns) (Store.reclaimed_init conns) steps
  refine ⟨⟨fun ⟨_, found⟩ => (Store.held_of_allocated inv rec found).1, ?_⟩,
    fun _ found => (Store.held_of_allocated inv rec found).2⟩
  rintro ⟨k, sp, half, at_k, live, rfl⟩
  obtain ⟨cell, found, -⟩ := inv.backed k sp half at_k live
  exact ⟨cell, found⟩

end AsyncTungstenite
