import TcpInfo.Saver.Writers

/-!
# saver: the marshallers, and the writer lifecycle under every interleaving

`NewSaver` starts one `runMarshaller` goroutine per channel; each channel is a FIFO of
capacity 100.  The Saver goroutine runs through its trace `E` effect by effect (a send blocks
while the channel is full) and writes each new file's header itself; marshaller `i` receives
the tasks of channel `i` in order, closes the writer of a task without a message and writes the
message of any other, and calls `wg.Done()` once its channel is closed and drained.  `Close`
returns when the Saver is past its last effect and every marshaller is done.

* `Goroutines`, `Goroutines.Step`, `Goroutines.Reachable`   the states of the goroutines and
                                   every interleaving of their steps;
* `Goroutines.Inv`                 what holds in every reachable state: no fault, and what has
                                   been applied to a writer is its header and a prefix of the
                                   tasks of its channel;
* `Goroutines.close_returns`       some interleaving reaches the return of `Close`;
* `MessageSaverLoop_writer_lifecycle`   the lifecycle of every writer, from the Saver's trace
                                   to what the marshallers applied when `Close` returns.
-/

set_option linter.unusedVariables false

namespace TcpInfo

/-- what is done to a writer -/
inductive WriterOp where
  /-- `conn.writeHeader()`, by the Saver -/
  | header (md : Metadata)
  /-- `task.Writer.Write(json.Marshal(task.Message))` -/
  | write (m : ParsedMessage)
  /-- `task.Writer.Close()` -/
  | close
  deriving DecidableEq

/-- one task of `runMarshaller`: the writer and what is done to it.  A close task on a nil
writer dereferences it; a message task on a nil writer is `log.Fatal("Nil writer")`. -/
def runTask (t : Task) : Go (Nat × WriterOp) :=
  match t.Message, t.Writer with
  | none, some w => .ok (w, .close)
  | none, none => .error .nilDereference
  | some _, none => .error .fatal
  | some m, some w => .ok (w, .write m)

/-- the task an effect sends on channel `i` -/
def Effect.sentOn (i : Nat) : Effect → Option Task
  | .send q t => if q = i then some t else none
  | _ => none

/-- the tasks the effects `E` send on channel `i`, in order -/
def sentOn (i : Nat) (E : List Effect) : List Task := E.filterMap (Effect.sentOn i)

/-- what the Saver goroutine itself does to a writer -/
def Effect.headerOp : Effect → List (Nat × WriterOp)
  | .writeHeader w md => [(w, .header md)]
  | _ => []

/-- the goroutines: how far the Saver is in its trace, and each marshaller's progress -/
structure Goroutines where
  /-- the Saver has done the first `pc` effects of its trace -/
  pc : Nat
  /-- the tasks marshaller `i` has received -/
  taken : Nat → Nat
  /-- marshaller `i` has called `wg.Done()` -/
  done : Nat → Bool
  /-- what has been done to the writers, in time order -/
  log : List (Nat × WriterOp)
  /-- the fault that stopped the process -/
  fault : Option Panic

/-- the goroutines as `NewSaver` starts them -/
def Goroutines.init : Goroutines := ⟨0, fun _ => 0, fun _ => false, [], none⟩

/-- marshaller `i` receives the task `t` and handles it -/
def Goroutines.receive (s : Goroutines) (i : Nat) (t : Task) : Goroutines :=
  match runTask t with
  | .ok op => { s with taken := Function.update s.taken i (s.taken i + 1), log := s.log ++ [op] }
  | .error p => { s with taken := Function.update s.taken i (s.taken i + 1), fault := some p }

/-- one step of one goroutine, for the Saver's trace `E` and `N` channels of capacity 100 -/
inductive Goroutines.Step (E : List Effect) (N : Nat) : Goroutines → Goroutines → Prop where
  /-- the Saver does its next effect; a send waits for room in its channel -/
  | saver {s : Goroutines} {e : Effect} : s.fault = none → E[s.pc]? = some e →
      (∀ q t, e = .send q t → (sentOn q (E.take s.pc)).length < s.taken q + 100) →
      Step E N s { s with pc := s.pc + 1, log := s.log ++ e.headerOp }
  /-- marshaller `i` receives the next task of its channel -/
  | receive {s : Goroutines} {i : Nat} {t : Task} : s.fault = none → i < N → s.done i = false →
      (sentOn i (E.take s.pc))[s.taken i]? = some t → Step E N s (s.receive i t)
  /-- marshaller `i` finds its channel closed and drained, and calls `wg.Done()` -/
  | exit {s : Goroutines} {i : Nat} : s.fault = none → i < N → s.done i = false →
      s.taken i = (sentOn i (E.take s.pc)).length → Effect.closeChan i ∈ E.take s.pc →
      Step E N s { s with done := Function.update s.done i true }

/-- the states some interleaving reaches -/
inductive Goroutines.Reachable (E : List Effect) (N : Nat) : Goroutines → Prop where
  | init : Reachable E N Goroutines.init
  | step {s s' : Goroutines} : Reachable E N s → Step E N s s' → Reachable E N s'

/-- `Close` has returned: the Saver is past its last effect and `svr.Done.Wait()` has seen every
marshaller done -/
def Goroutines.Returned (E : List Effect) (N : Nat) (s : Goroutines) : Prop :=
  s.pc = E.length ∧ ∀ i < N, s.done i = true

/-- what has been done to writer `w`, in order -/
def Goroutines.applied (s : Goroutines) (w : Nat) : List WriterOp :=
  (s.log.filter (fun x => x.1 = w)).map (·.2)

/-! ## the operations a trace does to one writer -/

/-- the header the effect writes to writer `w` -/
def Effect.hdrOp (w : Nat) : Effect → Option WriterOp
  | .writeHeader w' md => if w' = w then some (.header md) else none
  | _ => none

/-- the operation task `t` does to writer `w`, if it concerns `w` -/
def taskOp (w : Nat) (t : Task) : Option WriterOp :=
  match runTask t with
  | .ok (w', op) => if w' = w then some op else none
  | .error _ => none

/-- the headers the Saver writes to writer `w` among the effects `E` -/
def hdrOps (w : Nat) (E : List Effect) : List WriterOp := E.filterMap (Effect.hdrOp w)

@[simp] theorem sentOn_append (i : Nat) (E F : List Effect) :
    sentOn i (E ++ F) = sentOn i E ++ sentOn i F := List.filterMap_append _ _ _

@[simp] theorem hdrOps_append (w : Nat) (E F : List Effect) :
    hdrOps w (E ++ F) = hdrOps w E ++ hdrOps w F := List.filterMap_append _ _ _

/-- what a task does to its writer: write its message, or close the writer -/
def Task.op (t : Task) : WriterOp :=
  match t.Message with
  | some m => .write m
  | none => .close

/-- a task that carries a writer never faults -/
theorem runTask_of_writer {t : Task} {w : Nat} (h : t.Writer = some w) :
    runTask t = .ok (w, t.op) := by
  obtain ⟨m, w'⟩ := t
  cases h; cases m <;> rfl

theorem taskOp_eq_some {w : Nat} {t : Task} {op : WriterOp} (h : taskOp w t = some op) :
    t.Writer = some w := by
  obtain ⟨m, w'⟩ := t
  cases w' <;> cases m <;> simp [taskOp, runTask] at h <;> simp [h]

/-- a function that sees only the effects concerning `w` sees the same in `writerLog E w` -/
theorem filterMap_writerLog {β : Type} {f : Effect → Option β} {w : Nat}
    (hf : ∀ e, f e ≠ none → e.writer = some w) (E : List Effect) :
    (writerLog E w).filterMap f = E.filterMap f := by
  induction E with
  | nil => rfl
  | cons e E ih =>
    by_cases h : e.writer = some w
    · simp only [writerLog_cons, h, if_true, List.filterMap_cons, ih]
    · have : f e = none := Classical.byContradiction fun h' => h (hf e h')
      simp [h, this, ih]

theorem hdrOps_writerLog (w : Nat) (E : List Effect) : hdrOps w (writerLog E w) = hdrOps w E :=
  filterMap_writerLog (fun e h => by cases e <;> simp_all [Effect.hdrOp]) E

theorem taskOps_writerLog (w i : Nat) (E : List Effect) :
    (sentOn i (writerLog E w)).filterMap (taskOp w) = (sentOn i E).filterMap (taskOp w) := by
  simp only [sentOn, List.filterMap_filterMap]
  refine filterMap_writerLog (fun e h => ?_) E
  cases e with
  | send q t =>
    by_cases hq : q = i
    · simp only [Effect.sentOn, hq, if_true, Option.some_bind] at h
      obtain ⟨op, hop⟩ := Option.ne_none_iff_exists'.1 h
      exact taskOp_eq_some hop
    · simp [Effect.sentOn, hq] at h
  | _ => simp [Effect.sentOn] at h

/-! ## what a finished trace tells a marshaller -/

/-- in a writer's life the only effect before its header is its opening -/
theorem Opened.before_header {N c w : Nat} {l A R : List Effect} {md : Metadata}
    (hl : Opened N c w l) (h : A ++ Effect.writeHeader w md :: R = l ++ [closeTask (c % N) w]) :
    ∃ p, A = [.newWriter w p] := by
  obtain ⟨p, md', ms, -, rfl⟩ := hl
  rcases A with _ | ⟨a, _ | ⟨b, A⟩⟩
  · simp at h
  · simp only [List.singleton_append, List.cons_append, List.cons.injEq] at h
    exact ⟨p, by rw [h.1]⟩
  · simp only [List.cons_append, List.cons.injEq] at h
    have hm : Effect.writeHeader w md ∈ ms.map (msgTask (c % N) w) ++ [closeTask (c % N) w] := by
      rw [← h.2.2]; simp
    simp [msgTask, closeTask] at hm

/-- the channel every task of a closed writer is sent on -/
theorem Closed.channel {N c w : Nat} {E : List Effect} (hc : Closed N c w (writerLog E w))
    {q : Nat} {t : Task} (ht : Effect.send q t ∈ E) (hw : t.Writer = some w) : q = c % N := by
  obtain ⟨l', ⟨p, md, ms, -, hl'⟩, hl⟩ := hc
  have hmem : Effect.send q t ∈ writerLog E w := List.mem_filter.2 ⟨ht, by simp [hw]⟩
  rw [hl, hl'] at hmem
  simp only [List.cons_append, List.mem_cons, reduceCtorEq, List.mem_append, List.mem_map,
    List.mem_singleton, false_or, msgTask, closeTask, Effect.send.injEq, List.not_mem_nil,
    or_false] at hmem
  rcases hmem with ⟨m, -, hq, -⟩ | ⟨hq, -⟩
  exacts [hq.symm, hq]

section Finished
variable {N : Nat} {E : List Effect}

/-- once channel `i` is closed, nothing more is sent on it -/
theorem FinishedTrace.no_send_after_close (hE : FinishedTrace N E) {pc i : Nat} {e : Effect}
    (hc : Effect.closeChan i ∈ E.take pc) (he : E[pc]? = some e) : e.sentOn i = none := by
  obtain ⟨E0, rfl, hno⟩ := hE.closesLast
  by_cases hp : pc ≤ E0.length
  · rw [List.take_append_of_le_length hp] at hc
    exact absurd (List.mem_of_mem_take hc) (hno i)
  · rw [List.getElem?_append_right (by omega)] at he
    obtain ⟨k, -, rfl⟩ := List.mem_map.1 (List.getElem?_mem he)
    rfl

/-- when the Saver writes a header, no task of that writer has been sent -/
theorem FinishedTrace.header_first (hE : FinishedTrace N E) {pc w : Nat} {md : Metadata}
    (he : E[pc]? = some (.writeHeader w md)) (i : Nat) :
    (sentOn i (E.take pc)).filterMap (taskOp w) = [] := by
  have hlt : pc < E.length := (List.getElem?_eq_some_iff.1 he).1
  have hne : writerLog E w ≠ [] := fun h => by
    simpa using List.filter_eq_nil_iff.1 h _ (List.getElem?_mem he)
  obtain ⟨c, l', hl', hl⟩ := hE.closed w hne
  have hsplit : writerLog (E.take pc) w ++ Effect.writeHeader w md :: writerLog (E.drop (pc + 1)) w
      = l' ++ [closeTask (c % N) w] := by
    have hd : E.drop pc = Effect.writeHeader w md :: E.drop (pc + 1) := by
      rw [List.drop_eq_getElem_cons hlt,
        Option.some.inj ((List.getElem?_eq_getElem hlt).symm.trans he)]
    rw [← hl]
    conv_rhs => rw [← List.take_append_drop pc E]
    simp only [writerLog_append, hd, writerLog_cons, Effect.writer_writeHeader, if_true]
  obtain ⟨p, hA⟩ := hl'.before_header hsplit
  rw [← taskOps_writerLog, hA]
  rfl

/-- the header and the tasks of a writer whose life is closed, in the order of the trace -/
theorem ops_of_writerLog {c w : Nat} {l' : List Effect} {p : OutputPath} {md : Metadata}
    {ms : List ParsedMessage}
    (hl' : l' = .newWriter w p :: .writeHeader w md :: ms.map (msgTask (c % N) w))
    (hl : writerLog E w = l' ++ [closeTask (c % N) w]) :
    hdrOps w E = [.header md] ∧
      (sentOn (c % N) E).filterMap (taskOp w) = ms.map .write ++ [.close] := by
  rw [← hdrOps_writerLog, ← taskOps_writerLog, hl, hl']
  simp [hdrOps, sentOn, Effect.hdrOp, Effect.sentOn, msgTask, closeTask, taskOp, runTask,
    List.filterMap_map, Function.comp_def, List.filterMap_filterMap]
  exact congrFun (List.filterMap_eq_map _) ms

end Finished

/-! ## the invariant of the goroutines -/

/-- what holds in every state some interleaving reaches: no fault; a marshaller has received
only tasks already sent, and is done only with its channel closed and drained; and what has
been done to a writer is the headers written so far followed by the tasks of the writer's
channel received so far -/
structure Goroutines.Inv (E : List Effect) (N : Nat) (s : Goroutines) : Prop where
  pc_le : s.pc ≤ E.length
  fault : s.fault = none
  taken_le : ∀ i, s.taken i ≤ (sentOn i (E.take s.pc)).length
  done : ∀ i, s.done i = true →
    s.taken i = (sentOn i (E.take s.pc)).length ∧ Effect.closeChan i ∈ E.take s.pc
  applied : ∀ w i, (∀ q t, Effect.send q t ∈ E → t.Writer = some w → q = i) →
    s.applied w = hdrOps w (E.take s.pc) ++
      ((sentOn i (E.take s.pc)).take (s.taken i)).filterMap (taskOp w)

theorem Effect.headerOp_applied (e : Effect) (w : Nat) :
    (e.headerOp.filter (fun x => x.1 = w)).map (·.2) = (e.hdrOp w).toList := by
  cases e <;> simp [Effect.headerOp, Effect.hdrOp]
  split <;> simp_all

theorem filterMap_take_eq_nil {α β : Type} {f : α → Option β} {l : List α}
    (h : l.filterMap f = []) (k : Nat) : (l.take k).filterMap f = [] :=
  List.filterMap_eq_nil_iff.2 fun a ha => List.filterMap_eq_nil_iff.1 h a (List.mem_of_mem_take ha)

section Inv
variable {N : Nat} {E : List Effect} (hE : FinishedTrace N E) {s : Goroutines} (hs : s.Inv E N)
include hE hs

theorem Goroutines.Inv.saver {e : Effect} (he : E[s.pc]? = some e) :
    Inv E N { s with pc := s.pc + 1, log := s.log ++ e.headerOp } := by
  have hlt : s.pc < E.length := (List.getElem?_eq_some_iff.1 he).1
  have htake : E.take (s.pc + 1) = E.take s.pc ++ [e] := by rw [List.take_succ, he]; rfl
  refine ⟨hlt, hs.fault, fun i => ?_, fun i hi => ?_, fun w i hw => ?_⟩
  · simp only [htake, sentOn_append, List.length_append]; have := hs.taken_le i; omega
  · obtain ⟨ht, hc⟩ := hs.done i hi
    refine ⟨?_, by rw [htake]; exact List.mem_append_left _ hc⟩
    simp [htake, sentOn, hE.no_send_after_close hc he, ht]
  · have hold := hs.applied w i hw
    simp only [Goroutines.applied, List.filter_append, List.map_append] at hold ⊢
    simp only [htake, sentOn_append, hdrOps_append, List.take_append_of_le_length (hs.taken_le i),
      hold, Effect.headerOp_applied, List.append_assoc]
    cases hop : e.hdrOp w with
    | none => simp [hdrOps, hop]
    | some op =>
      obtain ⟨w', md, rfl⟩ : ∃ w' md, e = .writeHeader w' md := by
        cases e <;> simp [Effect.hdrOp] at hop ⊢
      obtain rfl : w' = w := by by_contra h; simp [Effect.hdrOp, h] at hop
      simp [hdrOps, hop, filterMap_take_eq_nil (hE.header_first he i)]

theorem Goroutines.Inv.receive {i : Nat} {t : Task} (hd : s.done i = false)
    (ht : (sentOn i (E.take s.pc))[s.taken i]? = some t) : Inv E N (s.receive i t) := by
  have hlt := (List.getElem?_eq_some_iff.1 ht).1
  have hsent : Effect.send i t ∈ E := by
    obtain ⟨e, he, hst⟩ := List.mem_filterMap.1 (List.getElem?_mem ht)
    cases e <;> simp [Effect.sentOn] at hst
    obtain ⟨rfl, rfl⟩ := hst
    exact List.mem_of_mem_take he
  obtain ⟨w, hw⟩ := hE.sends i t hsent
  have hrecv : s.receive i t =
      { s with
        taken := Function.update s.taken i (s.taken i + 1)
        log := s.log ++ [(w, t.op)] } := by
    simp [Goroutines.receive, runTask_of_writer hw]
  rw [hrecv]
  refine ⟨hs.pc_le, hs.fault, fun j => ?_, fun j hj => ?_, fun w' j hw' => ?_⟩
  · by_cases hji : j = i
    · subst hji; simpa using hlt
    · simpa [Function.update_noteq hji] using hs.taken_le j
  · have hji : j ≠ i := by rintro rfl; simp [hd] at hj
    simpa [Function.update_noteq hji] using hs.done j hj
  · have hold := hs.applied w' j hw'
    simp only [Goroutines.applied, List.filter_append, List.map_append] at hold ⊢
    rw [hold]
    by_cases hji : j = i
    · subst hji
      have htk : (sentOn j (E.take s.pc)).take (s.taken j + 1) =
          (sentOn j (E.take s.pc)).take (s.taken j) ++ [t] := by rw [List.take_succ, ht]; rfl
      obtain ⟨m, w0⟩ := t
      cases hw
      cases m <;> by_cases hww : w = w' <;> simp [htk, taskOp, runTask, Task.op, hww]
    · have hww : w ≠ w' := fun h => hji (hw' i t hsent (h ▸ hw)).symm
      simp [Function.update_noteq hji, hww]

end Inv

theorem Goroutines.Inv.exit {N : Nat} {E : List Effect} {s : Goroutines} (hs : s.Inv E N)
    {i : Nat} (hti : s.taken i = (sentOn i (E.take s.pc)).length)
    (hc : Effect.closeChan i ∈ E.take s.pc) :
    Inv E N { s with done := Function.update s.done i true } := by
  refine ⟨hs.pc_le, hs.fault, hs.taken_le, fun j hj => ?_, hs.applied⟩
  by_cases hji : j = i
  · subst hji; exact ⟨hti, hc⟩
  · exact hs.done j (by simpa [Function.update_noteq hji] using hj)

theorem Goroutines.Inv.init {N : Nat} {E : List Effect} : Goroutines.init.Inv E N where
  pc_le := Nat.zero_le _
  fault := rfl
  taken_le _ := Nat.zero_le _
  done _ h := by cases h
  applied _ _ _ := by simp [Goroutines.init, Goroutines.applied, hdrOps, sentOn]

/-- **Every interleaving keeps the invariant.** -/
theorem Goroutines.Reachable.inv {N : Nat} {E : List Effect} (hE : FinishedTrace N E)
    {s : Goroutines} (h : Reachable E N s) : s.Inv E N := by
  induction h with
  | init => exact Inv.init
  | step _ hstep ih =>
    cases hstep with
    | saver _ he _ => exact ih.saver hE he
    | receive _ _ hd ht => exact ih.receive hE hd ht
    | exit _ _ _ hti hc => exact ih.exit hti hc

/-! ## when `Close` returns -/

section Returned
variable {N : Nat} {E : List Effect} (hE : FinishedTrace N E) (hN : 0 < N)
include hE hN

/-- **What has been done to a writer when `Close` returns**: its header, the messages of its
tasks in the order the Saver sent them, and one close, whatever the interleaving. -/
theorem Goroutines.applied_of_returned {s : Goroutines} (h : Reachable E N s)
    (hret : s.Returned E N) {w : Nat} {p : OutputPath} {md : Metadata} {ms : List ParsedMessage}
    (hl : writerLog E w = [.newWriter w p, .writeHeader w md] ++
      ms.map (msgTask (p.cookie % N) w) ++ [closeTask (p.cookie % N) w]) :
    s.applied w = .header md :: ms.map .write ++ [.close] := by
  have hinv := h.inv hE
  have hl' : writerLog E w = (.newWriter w p :: .writeHeader w md ::
      ms.map (msgTask (p.cookie % N) w)) ++ [closeTask (p.cookie % N) w] := by simpa using hl
  have hch : ∀ q t, Effect.send q t ∈ E → t.Writer = some w → q = p.cookie % N :=
    fun _ _ => Closed.channel ⟨_, ⟨p, md, ms, rfl, rfl⟩, hl'⟩
  have hdone := hinv.done (p.cookie % N) (hret.2 _ (Nat.mod_lt _ hN))
  obtain ⟨hhdr, htask⟩ := ops_of_writerLog rfl hl'
  rw [hret.1, List.take_length] at hdone
  rw [hinv.applied w _ hch, hret.1, List.take_length, hdone.1, List.take_length, hhdr, htask]
  rfl

/-- the channel of every task the Saver sends -/
theorem FinishedTrace.send_lt {q : Nat} {t : Task} (ht : Effect.send q t ∈ E) : q < N := by
  obtain ⟨w, hw⟩ := hE.sends q t ht
  have hne : writerLog E w ≠ [] := fun h => by
    simpa [hw] using List.filter_eq_nil_iff.1 h _ ht
  obtain ⟨c, hc⟩ := hE.closed w hne
  rw [hc.channel ht hw]
  exact Nat.mod_lt _ hN

/-- the Saver can run to the end of its trace with every task received as soon as it is sent -/
theorem Goroutines.exists_drained {k : Nat} (hk : k ≤ E.length) :
    ∃ s, Reachable E N s ∧ s.pc = k ∧ s.fault = none ∧ (∀ i, s.done i = false) ∧
      ∀ i, s.taken i = (sentOn i (E.take k)).length := by
  induction k with
  | zero => exact ⟨Goroutines.init, .init, rfl, rfl, fun _ => rfl, fun _ => rfl⟩
  | succ k ih =>
    obtain ⟨s, hr, hpc, hf, hd, ht⟩ := ih (by omega)
    obtain ⟨e, he⟩ : ∃ e, E[k]? = some e := ⟨_, List.getElem?_eq_getElem (by omega)⟩
    have htake : E.take (k + 1) = E.take k ++ [e] := by rw [List.take_succ, he]; rfl
    have hsaver : Step E N s { s with pc := s.pc + 1, log := s.log ++ e.headerOp } :=
      .saver hf (hpc ▸ he) fun q t _ => by rw [ht, hpc]; omega
    by_cases hsend : ∃ q t, e = .send q t
    · obtain ⟨q, t, rfl⟩ := hsend
      have hmem : Effect.send q t ∈ E := List.getElem?_mem he
      obtain ⟨w, hw⟩ := hE.sends q t hmem
      have hidx : (sentOn q (E.take (s.pc + 1)))[s.taken q]? = some t := by
        rw [hpc, htake, sentOn_append, ht, List.getElem?_append_right le_rfl]
        simp [sentOn, Effect.sentOn]
      refine ⟨_, (hr.step hsaver).step (.receive hf (hE.send_lt hN hmem) (hd q) hidx), ?_⟩
      simp only [Goroutines.receive, runTask_of_writer hw]
      refine ⟨by simp [hpc], hf, hd, fun i => ?_⟩
      by_cases hiq : i = q
      · subst hiq; simp [htake, ht, sentOn, Effect.sentOn]
      · simp [Function.update_noteq hiq, htake, ht, sentOn, Effect.sentOn, Ne.symm hiq]
    · refine ⟨_, hr.step hsaver, by simp [hpc], hf, hd, fun i => ?_⟩
      have hnone : e.sentOn i = none := by
        cases e with
        | send q t => exact absurd ⟨q, t, rfl⟩ hsend
        | _ => rfl
      simp [htake, sentOn, hnone, ht]

/-- **`Close` returns under some interleaving**: the Saver runs to the end of its trace, and
every marshaller drains its channel and calls `wg.Done()`. -/
theorem Goroutines.close_returns : ∃ s, Reachable E N s ∧ s.Returned E N := by
  obtain ⟨s, hr, hpc, hf, hd, ht⟩ := Goroutines.exists_drained hE hN le_rfl
  obtain ⟨E0, hE0, -⟩ := hE.closesLast
  have hexit : ∀ m ≤ N, ∃ s', Reachable E N s' ∧ s'.pc = E.length ∧ s'.fault = none ∧
      s'.taken = s.taken ∧ ∀ i, s'.done i = decide (i < m) := by
    intro m hm
    induction m with
    | zero => exact ⟨s, hr, hpc, hf, rfl, fun i => by simp [hd]⟩
    | succ m ih =>
      obtain ⟨s', hr', hpc', hf', ht', hd'⟩ := ih (by omega)
      have hc : Effect.closeChan m ∈ E.take s'.pc := by
        rw [hpc', List.take_length, hE0]; simp; omega
      refine ⟨_, hr'.step (.exit hf' (by omega) (by simp [hd']) (by rw [ht', ht, hpc']) hc),
        hpc', hf', ht', fun i => ?_⟩
      by_cases him : i = m
      · subst him; simp
      · simp [Function.update_noteq him, hd']; omega
  obtain ⟨s', hr', hpc', -, -, hd'⟩ := hexit N le_rfl
  exact ⟨s', hr', hpc', fun i hi => by simp [hd', hi]⟩

/-- the lifecycle of every writer of the Saver's trace `E`, served by `N` marshallers: the
Saver's effects on the writer are its opening on a path `p`, its header, message tasks all on
channel `p.cookie % N`, and one close task on that channel, last; no interleaving faults,
`Close` returns under some interleaving, and whenever it returns the writer has had its header,
its messages in the order they were sent, and one close -/
def WriterLifecycle (N : Nat) (E : List Effect) : Prop :=
  (∃ s, Goroutines.Reachable E N s ∧ s.Returned E N) ∧
  ∀ (w : Nat) (p : OutputPath), Effect.newWriter w p ∈ E →
    ∃ (md : Metadata) (ms : List ParsedMessage),
      writerLog E w = [.newWriter w p, .writeHeader w md] ++ ms.map (msgTask (p.cookie % N) w) ++ [closeTask (p.cookie % N) w] ∧
      ∀ s, Goroutines.Reachable E N s → s.fault = none ∧
        (s.Returned E N → s.applied w = .header md :: ms.map .write ++ [.close])

/-- a finished trace, served by at least one marshaller, has the writer lifecycle -/
theorem FinishedTrace.lifecycle : WriterLifecycle N E := by
  refine ⟨Goroutines.close_returns hE hN, fun w p hp => ?_⟩
  have hne : writerLog E w ≠ [] := fun h => by simpa using List.filter_eq_nil_iff.1 h _ hp
  obtain ⟨c, l', ⟨p', md, ms, rfl, rfl⟩, hl⟩ := hE.closed w hne
  have hpp : p' = p := by
    have hm : Effect.newWriter w p ∈ writerLog E w := List.mem_filter.2 ⟨hp, by simp⟩
    simpa [hl, msgTask, closeTask, eq_comm] using hm
  subst hpp
  have hl' : writerLog E w = [.newWriter w p', .writeHeader w md] ++
      ms.map (msgTask (p'.cookie % N) w) ++ [closeTask (p'.cookie % N) w] := by simp [hl]
  exact ⟨md, ms, hl', fun s hs =>
    ⟨(hs.inv hE).fault, fun hret => Goroutines.applied_of_returned hE hN hs hret hl'⟩⟩

end Returned

/-- **The writer lifecycle under every interleaving.**  With `N ≥ 1` marshallers, for any
batches, any classifier and any order of the range loop that visits every key,
`MessageSaverLoop` does not fault and every writer `Rotate` opens on a path of cookie `c` lives
as `WriterLifecycle` says: its tasks all go to channel `c % N`, its header precedes them, its
one close task comes last, and when `Close` returns the marshaller has applied exactly its
messages in order and one close. -/
theorem MessageSaverLoop_writer_lifecycle
    (classify : ParsedMessage → ParsedMessage → ChangeType)
    (rangeOrder : AList (fun _ : Nat => Connection) → List Nat)
    (hrange : ∀ m, ∀ c ∈ m.keys, c ∈ rangeOrder m) (N : Nat) (hN : 0 < N)
    (batches : List (List (Option ParsedMessage × World))) :
    ∃ svr, (NewSaver N).MessageSaverLoop classify rangeOrder batches = .ok svr ∧
      WriterLifecycle N svr.trace := by
  obtain ⟨s0, h0⟩ :=
    Saver.saveBatches_ok classify batches (show 0 < (NewSaver N).MarshalChans from hN)
  have hN0 : s0.MarshalChans = N := (Saver.saveBatches_acts classify h0).MarshalChans
  obtain ⟨s1, h1⟩ := Saver.endConns_ok (rangeOrder s0.Connections) (hN0 ▸ hN)
  have hrun : (NewSaver N).MessageSaverLoop classify rangeOrder batches =
      .ok (s1.emit ((List.range s1.MarshalChans).map .closeChan)) := by
    simp [Saver.MessageSaverLoop, Saver.Close, h0, h1, bind, Except.bind]; rfl
  exact ⟨_, hrun, (MessageSaverLoop_trace hrange hrun).lifecycle hN⟩

theorem MessageSaverLoop_writer_lifecycle_reopenBatches :
    (∀ m : AList (fun _ : Nat => Connection), ∀ c ∈ m.keys, c ∈ m.keys) ∧ 0 < 1 ∧
    ∃ svr, (NewSaver 1).MessageSaverLoop (fun _ _ => .Other) AList.keys reopenBatches = .ok svr ∧
      WriterLifecycle 1 svr.trace :=
  ⟨fun _ _ h => h, by decide, MessageSaverLoop_writer_lifecycle (fun _ _ => .Other) AList.keys
    (fun _ _ h => h) 1 (by decide) reopenBatches⟩

end TcpInfo
