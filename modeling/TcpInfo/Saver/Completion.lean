import TcpInfo.Saver.Marshaller
import Mathlib.Algebra.Order.BigOperators.Group.Finset

/-!
# saver: every interleaving of the goroutines completes

`Goroutines.close_returns` exhibits one interleaving on which `Close` returns.  Here every
interleaving does, as a maximal run: the goroutines never deadlock and never run forever.

* `Goroutines.progress`           the steps taken: the Saver's effects done, the tasks received
                                  and the marshallers done;
* `Goroutines.Step.progress`      every step of every goroutine is one step of progress;
* `Goroutines.Inv.progress_le`    a reachable state has made at most `2 * |E| + N` steps;
* `Goroutines.Reachable.returned_or_step`   a reachable state in which `Close` has not returned
                                  can step: a full channel has a marshaller to drain it, and a
                                  closed and drained channel lets its marshaller exit;
* `MessageSaverLoop_completes`    for every run of `MessageSaverLoop`, every interleaving that
                                  cannot go on has returned from `Close`, after at most
                                  `2 * |E| + N` steps.
-/

set_option linter.unusedVariables false

namespace TcpInfo

/-- the steps the goroutines have taken: the Saver's effects done, the tasks each marshaller has
received and the marshallers that called `wg.Done()` -/
def Goroutines.progress (N : Nat) (s : Goroutines) : Nat :=
  s.pc + ∑ i ∈ Finset.range N, (s.taken i + if s.done i then 1 else 0)

/-- a function that gains one at `i < N` and is unchanged elsewhere gains one in its sum -/
theorem sum_range_update_succ {f g : Nat → Nat} {i N : Nat} (hi : i < N)
    (hg : ∀ j, j ≠ i → g j = f j) (hgi : g i = f i + 1) :
    ∑ j ∈ Finset.range N, g j = ∑ j ∈ Finset.range N, f j + 1 := by
  have hm := Finset.mem_range.2 hi
  calc ∑ j ∈ Finset.range N, g j
      = g i + ∑ j ∈ (Finset.range N).erase i, g j := (Finset.add_sum_erase _ _ hm).symm
    _ = f i + 1 + ∑ j ∈ (Finset.range N).erase i, f j := by
        rw [hgi, Finset.sum_congr rfl fun j hj => hg j (Finset.ne_of_mem_erase hj)]
    _ = ∑ j ∈ Finset.range N, f j + 1 := by
        rw [← Finset.add_sum_erase _ _ hm]; omega

/-- the tasks sent on the `N` channels are at most the effects -/
theorem sum_sentOn_le (N : Nat) (E : List Effect) :
    ∑ i ∈ Finset.range N, (sentOn i E).length ≤ E.length := by
  induction E with
  | nil => simp [sentOn]
  | cons e E ih =>
    have hcons : ∀ i, (sentOn i (e :: E)).length =
        (if (e.sentOn i).isSome then 1 else 0) + (sentOn i E).length := fun i => by
      cases h : e.sentOn i <;> simp [sentOn, List.filterMap_cons, h, Nat.add_comm]
    have hone : ∑ i ∈ Finset.range N, (if (e.sentOn i).isSome then 1 else 0) ≤ 1 := by
      cases e with
      | send q t =>
        have hq : ∀ i, (if ((Effect.send q t).sentOn i).isSome then 1 else 0) =
            if q = i then 1 else 0 := fun i => by by_cases h : q = i <;> simp [Effect.sentOn, h]
        rw [Finset.sum_congr rfl fun i _ => hq i, Finset.sum_ite_eq]
        split <;> simp
      | _ => simp [Effect.sentOn]
    rw [Finset.sum_congr rfl fun i _ => hcons i, Finset.sum_add_distrib, List.length_cons]
    omega

namespace Goroutines

variable {E : List Effect} {N : Nat}

/-- **Every step is one step of progress.** -/
theorem Step.progress {s s' : Goroutines} (h : Step E N s s') :
    s'.progress N = s.progress N + 1 := by
  cases h with
  | saver => simp only [Goroutines.progress]; omega
  | @receive i t _ hi _ _ =>
    unfold Goroutines.receive
    split <;>
    · simp only [Goroutines.progress]
      rw [sum_range_update_succ (f := fun j => s.taken j + if s.done j then 1 else 0) hi
        (fun j hj => by simp [Function.update_noteq hj]) (by simp; omega)]
      omega
  | @exit i _ hi hd _ _ =>
    simp only [Goroutines.progress]
    rw [sum_range_update_succ (f := fun j => s.taken j + if s.done j then 1 else 0) hi
      (fun j hj => by simp [Function.update_noteq hj]) (by simp [hd])]
    omega

/-- no reachable state has taken more steps than the effects, the tasks and the marshallers -/
theorem Inv.progress_le {s : Goroutines} (hs : s.Inv E N) :
    s.progress N ≤ 2 * E.length + N := by
  have h1 : ∑ i ∈ Finset.range N, s.taken i ≤ E.length :=
    calc ∑ i ∈ Finset.range N, s.taken i
        ≤ ∑ i ∈ Finset.range N, (sentOn i (E.take s.pc)).length :=
          Finset.sum_le_sum fun i _ => hs.taken_le i
      _ ≤ (E.take s.pc).length := sum_sentOn_le N _
      _ ≤ E.length := List.length_take_le' _ _
  have h2 : ∑ i ∈ Finset.range N, (if s.done i then 1 else 0) ≤ N :=
    (Finset.sum_le_card_nsmul _ _ 1 fun i _ => by split <;> simp).trans (by simp)
  have := hs.pc_le
  simp only [Goroutines.progress, Finset.sum_add_distrib]
  omega

end Goroutines

section Finished
variable {N : Nat} {E : List Effect} (hE : FinishedTrace N E) (hN : 0 < N)
include hE hN

/-- **No interleaving deadlocks.**  A reachable state in which `Close` has not returned can take a
step: the Saver's next effect, a receive by a marshaller whose channel is full or which has tasks
left, or the exit of a marshaller whose channel is closed and drained. -/
theorem Goroutines.Reachable.returned_or_step {s : Goroutines} (h : Reachable E N s) :
    s.Returned E N ∨ ∃ s', Step E N s s' := by
  have hs := h.inv hE
  have hrecv : ∀ i, i < N → s.done i = false → s.taken i < (sentOn i (E.take s.pc)).length →
      ∃ s', Step E N s s' := fun i hi hd hlt =>
    ⟨_, .receive hs.fault hi hd (List.getElem?_eq_getElem hlt)⟩
  by_cases hpc : s.pc < E.length
  · obtain ⟨e, he⟩ : ∃ e, E[s.pc]? = some e := ⟨_, List.getElem?_eq_getElem hpc⟩
    by_cases hfull : ∃ q t, e = .send q t ∧ s.taken q + 100 ≤ (sentOn q (E.take s.pc)).length
    · obtain ⟨q, t, rfl, hq⟩ := hfull
      have hd : s.done q = false := by
        cases hdq : s.done q
        · rfl
        · have := (hs.done q hdq).1; omega
      exact .inr (hrecv q (hE.send_lt hN (List.getElem?_mem he)) hd (by omega))
    · refine .inr ⟨_, .saver hs.fault he fun q t het => ?_⟩
      by_contra hle
      exact hfull ⟨q, t, het, by omega⟩
  · have hpc' : s.pc = E.length := le_antisymm hs.pc_le (by omega)
    by_cases hall : ∀ i < N, s.done i = true
    · exact .inl ⟨hpc', hall⟩
    · push_neg at hall
      obtain ⟨i, hi, hd⟩ := hall
      have hd' : s.done i = false := by simpa using hd
      by_cases hlt : s.taken i < (sentOn i (E.take s.pc)).length
      · exact .inr (hrecv i hi hd' hlt)
      · obtain ⟨E0, hE0, -⟩ := hE.closesLast
        have hc : Effect.closeChan i ∈ E.take s.pc := by
          rw [hpc', List.take_length, hE0]; simp [hi]
        exact .inr ⟨_, .exit hs.fault hi hd' (le_antisymm (hs.taken_le i) (by omega)) hc⟩

end Finished

/-- **Every interleaving of the Saver and the marshallers completes.**  Take any run of
`MessageSaverLoop` with `N ≥ 1` marshallers whose range loop visits every key.  Every step of a
goroutine is one step of progress; no reachable state has made more than `2 * |E| + N` steps (one
per effect of the Saver, per task received and per marshaller done); and a reachable state in
which `Close` has not returned can always take a step.  So no interleaving deadlocks or runs
forever: every interleaving that cannot go on has returned from `Close`. -/
theorem MessageSaverLoop_completes (classify : ParsedMessage → ParsedMessage → ChangeType)
    (rangeOrder : AList (fun _ : Nat => Connection) → List Nat)
    (hrange : ∀ m, ∀ c ∈ m.keys, c ∈ rangeOrder m) (N : Nat) (hN : 0 < N)
    (batches : List (List (Option ParsedMessage × World))) (svr : Saver)
    (h : (NewSaver N).MessageSaverLoop classify rangeOrder batches = .ok svr) :
    (∀ s s', Goroutines.Step svr.trace N s s' → s'.progress N = s.progress N + 1) ∧
    ∀ s, Goroutines.Reachable svr.trace N s →
      s.progress N ≤ 2 * svr.trace.length + N ∧
        (s.Returned svr.trace N ∨ ∃ s', Goroutines.Step svr.trace N s s') := by
  have hE : FinishedTrace N svr.trace := MessageSaverLoop_trace hrange h
  exact ⟨fun s s' hs => hs.progress, fun s hs =>
    ⟨(hs.inv hE).progress_le, hs.returned_or_step hE hN⟩⟩

set_option maxRecDepth 4000 in
theorem MessageSaverLoop_completes_reopenBatches :
    (∀ m : AList (fun _ : Nat => Connection), ∀ c ∈ m.keys, c ∈ m.keys) ∧ 0 < 1 ∧
    ∃ svr, (NewSaver 1).MessageSaverLoop (fun _ _ => .Other) AList.keys reopenBatches = .ok svr ∧
      (∀ s s', Goroutines.Step svr.trace 1 s s' → s'.progress 1 = s.progress 1 + 1) ∧
      ∀ s, Goroutines.Reachable svr.trace 1 s →
        s.progress 1 ≤ 2 * svr.trace.length + 1 ∧
          (s.Returned svr.trace 1 ∨ ∃ s', Goroutines.Step svr.trace 1 s s') :=
  ⟨fun _ _ h => h, by decide, _, rfl, MessageSaverLoop_completes (fun _ _ => .Other) AList.keys
    (fun _ _ h => h) 1 (by decide) reopenBatches _ rfl⟩

end TcpInfo
