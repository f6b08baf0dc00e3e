import TcpInfo.Saver.Connection
import Mathlib.Logic.Relation

/-!
# saver: the Saver goroutine

`MessageSaverLoop` receives batches of parsed messages.  For every message it asks the change
cache for the previous snapshot of the cookie and, when the change is significant (by the
classifier `pbtools.Compare`, which is not among the sources and is a parameter here), queues
it: the cookie's record is found or made, an expired file is closed, a file is opened when
there is none, and the message is sent to the marshaller the cookie is pinned to.  At the end of
a batch the records of the cookies the cache reports residual are ended.  When the batch
channel closes, `Close` ends every record and closes the marshalling channels.

* `Saver`                  the state; `trace` is the list of the goroutine's effects so far;
* `Saver.queue`, `Saver.endConn`, `Saver.swapAndQueue`, `Saver.saveBatch`, `Saver.Close`,
  `Saver.MessageSaverLoop`  the functions of `saver.go`, effect by effect;
* `Saver.Act`              the primitive actions these functions are made of, each with the
                           facts about the record map it relies on;
* `Saver.Acts`             runs of primitive actions; `queue_acts` to `saveBatches_acts` show
                           that every function of the Saver is such a run, and
                           `Acts.preserve` turns a one-action invariant into a run invariant.

Go leaves the order of `for i := range svr.Connections` unspecified, so `MessageSaverLoop`
takes it as the parameter `rangeOrder`.
-/

set_option linter.unusedVariables false

namespace TcpInfo

/-- `Saver`.  `Host` and `Pod` are left out (`Rotate` ignores them), and so is `stats` (only
logging reads it); the `Done` wait group belongs to the marshaller model.  `MarshalChans` is the
number of channels: what is sent on them is in `trace`, which is not a field of the Go struct
but the list of the goroutine's effects so far. -/
structure Saver where
  FileAgeLimit : Time
  MarshalChans : Nat
  Connections : AList (fun _ : Nat => Connection)
  cache : Cache
  trace : List Effect

/-- `NewSaver(host, pod, numMarshaller)` -/
def NewSaver (numMarshaller : Nat) : Saver where
  FileAgeLimit := 10 * Minute
  MarshalChans := numMarshaller
  Connections := ∅
  cache := NewCache
  trace := []

/-- the effects `fx` done after the current ones -/
def Saver.emit (svr : Saver) (fx : List Effect) : Saver := { svr with trace := svr.trace ++ fx }

/-- `svr.Connections[c] = conn` -/
def Saver.setConn (svr : Saver) (c : Nat) (conn : Connection) : Saver :=
  { svr with Connections := svr.Connections.insert c conn }

/-! ## the functions of `saver.go` -/

/-- the end of `queue` once any expired file is closed, on the record `conn` of `cookie`:
`if conn.Writer == nil` rotate (and return its error), then `q <- Task{msg, conn.Writer}` -/
def Saver.sendTask (svr : Saver) (q cookie : Nat) (conn : Connection) (msg : ParsedMessage)
    (env : World) : Saver × Option GoError :=
  match conn.Writer with
  | some w => (svr.emit [.send q ⟨some msg, some w⟩], none)
  | none =>
    let rot := conn.Rotate svr.FileAgeLimit env svr.trace.length
    let svr := (svr.emit rot.2.1).setConn cookie rot.1
    match rot.2.2 with
    | some err => (svr, some err)
    | none => (svr.emit [.send q ⟨some msg, rot.1.Writer⟩], none)

/-- the part of `queue` after the record `conn` of `cookie` is found or made -/
def Saver.queueConn (svr : Saver) (q cookie : Nat) (conn : Connection) (msg : ParsedMessage)
    (env : World) : Saver × Option GoError :=
  let e := conn.expire q env.Now
  ((svr.emit e.2).setConn cookie e.1).sendTask q cookie e.1 msg env

/-- `svr.queue(msg)`.  The channel index `cookie % len(svr.MarshalChans)` is computed after the
check that there is a channel, so it neither divides by zero nor leaves the slice. -/
def Saver.queue (svr : Saver) (msg : ParsedMessage) (env : World) : Saver × Option GoError :=
  let cookie := msg.cookie
  if cookie = 0 then (svr, some .cookieZero)
  else if svr.MarshalChans < 1 then (svr, some .ErrNoMarshallers)
  else
    let q := cookie % svr.MarshalChans
    match svr.Connections.lookup cookie with
    | some conn => svr.queueConn q cookie conn msg env
    | none =>
      if TCPState_FIN_WAIT1 ≤ msg.InetDiagMsg.IDiagState.toNat then (svr, none)
      else
        let conn := newConnection msg.InetDiagMsg msg.Timestamp env.ConnNow
        (svr.setConn cookie conn).queueConn q cookie conn msg env

/-- `svr.endConn(cookie)`: the channel index is computed before the record is looked up -/
def Saver.endConn (svr : Saver) (cookie : Nat) : Go Saver := do
  let q ← goUmod cookie svr.MarshalChans
  match svr.Connections.lookup cookie with
  | some conn =>
    match conn.Writer with
    | some w =>
      pure { svr.emit [.send q ⟨none, some w⟩, .delete cookie] with
             Connections := svr.Connections.erase cookie }
    | none => pure svr
  | none => pure svr

/-- `svr.swapAndQueue(pm)`, with `classify` for `pbtools.Compare`; the error of `queue` is only
logged -/
def Saver.swapAndQueue (classify : ParsedMessage → ParsedMessage → ChangeType) (svr : Saver)
    (pm : ParsedMessage) (env : World) : Saver :=
  let u := svr.cache.Update pm
  let svr := { svr with cache := u.2 }
  match u.1 with
  | none => (svr.queue pm env).1
  | some old => if 0 < (classify pm old).toNat then (svr.queue pm env).1 else svr

/-- the loop over a batch: `swapAndQueue` on every non-nil message, each with the environment's
answers while it is handled -/
def Saver.swapAndQueueAll (classify : ParsedMessage → ParsedMessage → ChangeType) (svr : Saver)
    (msgs : List (Option ParsedMessage × World)) : Saver :=
  msgs.foldl (fun svr m =>
    match m.1 with
    | some pm => svr.swapAndQueue classify pm m.2
    | none => svr) svr

/-- `endConn` on every cookie of a list, in order -/
def Saver.endConns (svr : Saver) (cookies : List Nat) : Go Saver :=
  cookies.foldlM (fun svr c => svr.endConn c) svr

/-- one pass of the loop of `MessageSaverLoop`: `swapAndQueue` on the batch, then `EndCycle` and
`endConn` on the cookie of every residual snapshot -/
def Saver.saveBatch (classify : ParsedMessage → ParsedMessage → ChangeType) (svr : Saver)
    (msgs : List (Option ParsedMessage × World)) : Go Saver :=
  let svr := svr.swapAndQueueAll classify msgs
  let ec := svr.cache.EndCycle
  { svr with cache := ec.2 }.endConns (ec.1.map ParsedMessage.cookie)

/-- the loop of `MessageSaverLoop` over the batches received before the channel closes -/
def Saver.saveBatches (classify : ParsedMessage → ParsedMessage → ChangeType) (svr : Saver)
    (batches : List (List (Option ParsedMessage × World))) : Go Saver :=
  batches.foldlM (fun svr b => svr.saveBatch classify b) svr

/-- `svr.Close()` up to `svr.Done.Wait()`: `endConn` on every key, in the order `order` of the
range loop, then `close` on every channel -/
def Saver.Close (svr : Saver) (order : List Nat) : Go Saver := do
  let svr ← svr.endConns order
  pure (svr.emit ((List.range svr.MarshalChans).map .closeChan))

/-- `svr.MessageSaverLoop(readerChannel)` on the batches the channel delivers before it closes;
`rangeOrder m` is the order in which a range loop visits the keys of the map `m` -/
def Saver.MessageSaverLoop (classify : ParsedMessage → ParsedMessage → ChangeType)
    (rangeOrder : AList (fun _ : Nat => Connection) → List Nat) (svr : Saver)
    (batches : List (List (Option ParsedMessage × World))) : Go Saver := do
  let svr ← svr.saveBatches classify batches
  svr.Close (rangeOrder svr.Connections)

/-! ## field lemmas -/

section Fields
variable (svr : Saver) (fx : List Effect) (c : Nat) (conn : Connection)

@[simp] theorem Saver.emit_nil : svr.emit [] = svr := by simp [Saver.emit]
@[simp] theorem Saver.emit_trace : (svr.emit fx).trace = svr.trace ++ fx := rfl
@[simp] theorem Saver.emit_Connections : (svr.emit fx).Connections = svr.Connections := rfl
@[simp] theorem Saver.emit_MarshalChans : (svr.emit fx).MarshalChans = svr.MarshalChans := rfl
@[simp] theorem Saver.emit_FileAgeLimit : (svr.emit fx).FileAgeLimit = svr.FileAgeLimit := rfl
@[simp] theorem Saver.emit_cache : (svr.emit fx).cache = svr.cache := rfl
@[simp] theorem Saver.setConn_trace : (svr.setConn c conn).trace = svr.trace := rfl
@[simp] theorem Saver.setConn_Connections :
    (svr.setConn c conn).Connections = svr.Connections.insert c conn := rfl
@[simp] theorem Saver.setConn_MarshalChans :
    (svr.setConn c conn).MarshalChans = svr.MarshalChans := rfl
@[simp] theorem Saver.setConn_FileAgeLimit :
    (svr.setConn c conn).FileAgeLimit = svr.FileAgeLimit := rfl
@[simp] theorem Saver.setConn_cache : (svr.setConn c conn).cache = svr.cache := rfl

theorem Saver.setConn_setConn (conn' : Connection) :
    (svr.setConn c conn).setConn c conn' = svr.setConn c conn' := by
  simp [Saver.setConn, AList.insert_insert]

end Fields

/-! ## the primitive actions -/

/-- one primitive action of the Saver goroutine, with what it relies on -/
inductive Saver.Act : Saver → Saver → Prop where
  /-- `svr.Connections[cookie] = newConnection(...)` for a cookie without a record -/
  | newConn {svr : Saver} {c : Nat} {info : InetDiagMsg} {t now : Time} :
      svr.Connections.lookup c = none → info.ID.Cookie = c → 0 < c →
      Act svr (svr.setConn c (newConnection info t now))
  /-- the record stored again unchanged -/
  | touch {svr : Saver} {c : Nat} {conn : Connection} :
      svr.Connections.lookup c = some conn → Act svr (svr.setConn c conn)
  /-- the close task of the record's writer, and the writer cleared -/
  | close {svr : Saver} {c : Nat} {conn : Connection} {w : Nat} :
      svr.Connections.lookup c = some conn → conn.Writer = some w →
      Act svr ((svr.emit [.send (c % svr.MarshalChans) ⟨none, some w⟩]).setConn c
        { conn with Writer := none })
  /-- a successful `Rotate` of a record without a writer -/
  | rotate {svr : Saver} {c : Nat} {conn : Connection} :
      svr.Connections.lookup c = some conn → conn.Writer = none →
      Act svr ((svr.emit [.newWriter svr.trace.length conn.outputPath,
        conn.writeHeader svr.trace.length]).setConn c (conn.rotated svr.trace.length))
  /-- a message task on the record's writer -/
  | send {svr : Saver} {c : Nat} {conn : Connection} {w : Nat} {msg : ParsedMessage} :
      svr.Connections.lookup c = some conn → conn.Writer = some w →
      Act svr (svr.emit [.send (c % svr.MarshalChans) ⟨some msg, some w⟩])
  /-- the close task of the record's writer, and the record deleted -/
  | endConn {svr : Saver} {c : Nat} {conn : Connection} {w : Nat} :
      svr.Connections.lookup c = some conn → conn.Writer = some w →
      Act svr { svr.emit [.send (c % svr.MarshalChans) ⟨none, some w⟩, .delete c] with
                Connections := svr.Connections.erase c }
  /-- the cache replaced -/
  | cache {svr : Saver} {cache : Cache} : Act svr { svr with cache := cache }

/-- runs of primitive actions -/
def Saver.Acts : Saver → Saver → Prop := Relation.ReflTransGen Saver.Act

namespace Saver

theorem Act.acts {svr svr' : Saver} (h : Act svr svr') : Acts svr svr' :=
  Relation.ReflTransGen.single h

theorem Acts.trans {a b c : Saver} (h : Acts a b) (h' : Acts b c) : Acts a c :=
  Relation.ReflTransGen.trans h h'

theorem Acts.refl (svr : Saver) : Acts svr svr := Relation.ReflTransGen.refl

/-- an invariant of every primitive action is an invariant of every run -/
theorem Acts.preserve {P : Saver → Prop} (hP : ∀ s s', Act s s' → P s → P s')
    {svr svr' : Saver} (h : Acts svr svr') (hs : P svr) : P svr' := by
  induction h with
  | refl => exact hs
  | tail _ hab ih => exact hP _ _ hab ih

/-- the number of channels and the age limit never change -/
theorem Act.consts {svr svr' : Saver} (h : Act svr svr') :
    svr'.MarshalChans = svr.MarshalChans ∧ svr'.FileAgeLimit = svr.FileAgeLimit := by
  cases h <;> exact ⟨rfl, rfl⟩

theorem Acts.MarshalChans {svr svr' : Saver} (h : Acts svr svr') :
    svr'.MarshalChans = svr.MarshalChans :=
  Acts.preserve (P := fun s => s.MarshalChans = svr.MarshalChans)
    (fun _ _ ha hs => (ha.consts.1).trans hs) h rfl

/-! ## every function is a run of primitive actions -/

theorem sendTask_acts {svr : Saver} {c : Nat} {conn : Connection} (msg : ParsedMessage)
    (env : World) (h : svr.Connections.lookup c = some conn) :
    Acts svr (svr.sendTask (c % svr.MarshalChans) c conn msg env).1 := by
  unfold sendTask
  cases hw : conn.Writer with
  | some w => exact (Act.send h hw).acts
  | none =>
    rcases Connection.Rotate_cases hw svr.FileAgeLimit env svr.trace.length with ⟨e, hr⟩ | hr
    · simp only [hr, emit_nil]
      exact (Act.touch h).acts
    · simp only [hr]
      exact (Act.rotate h hw).acts.trans (@Act.send _ c (conn.rotated _) _ msg (by simp) rfl).acts

theorem queueConn_acts {svr : Saver} {c : Nat} {conn : Connection} (msg : ParsedMessage)
    (env : World) (h : svr.Connections.lookup c = some conn) :
    Acts svr (svr.queueConn (c % svr.MarshalChans) c conn msg env).1 := by
  rcases Connection.expire_cases conn (c % svr.MarshalChans) env.Now with he | ⟨w, hw, he⟩
  · simp only [queueConn, he, emit_nil]
    exact (Act.touch h).acts.trans (sendTask_acts msg env (by simp))
  · simp only [queueConn, he]
    exact (Act.close h hw).acts.trans (sendTask_acts msg env (by simp))

theorem queue_acts (svr : Saver) (msg : ParsedMessage) (env : World) :
    Acts svr (svr.queue msg env).1 := by
  unfold queue
  by_cases h0 : msg.cookie = 0
  · simp only [h0, if_true]; exact Acts.refl _
  by_cases h1 : svr.MarshalChans < 1
  · simp only [h0, h1, if_true, if_false]; exact Acts.refl _
  simp only [h0, h1, if_false]
  cases hc : svr.Connections.lookup msg.cookie with
  | some conn => exact queueConn_acts msg env hc
  | none =>
    by_cases hs : TCPState_FIN_WAIT1 ≤ msg.InetDiagMsg.IDiagState.toNat
    · simp only [hs, if_true]; exact Acts.refl _
    simp only [hs, if_false]
    exact (@Act.newConn _ _ _ msg.Timestamp env.ConnNow hc rfl
      (Nat.pos_of_ne_zero h0)).acts.trans (queueConn_acts msg env (by simp))

theorem swapAndQueue_acts (classify : ParsedMessage → ParsedMessage → ChangeType) (svr : Saver)
    (pm : ParsedMessage) (env : World) : Acts svr (svr.swapAndQueue classify pm env) := by
  unfold swapAndQueue
  refine (@Act.cache svr (svr.cache.Update pm).2).acts.trans ?_
  dsimp only
  split
  · exact queue_acts _ _ _
  · split
    · exact queue_acts _ _ _
    · exact Acts.refl _

@[simp] theorem endConn_zero {svr : Saver} (c : Nat) (h : svr.MarshalChans = 0) :
    svr.endConn c = .error .divideByZero := by
  simp [endConn, h, bind, Except.bind]

theorem endConn_acts {svr svr' : Saver} {c : Nat} (h : svr.endConn c = .ok svr') :
    Acts svr svr' := by
  have hN : 0 < svr.MarshalChans := by
    apply Nat.pos_of_ne_zero; intro h0; rw [endConn_zero c h0] at h; cases h
  simp only [endConn, goUmod_of_pos hN, bind, Except.bind] at h
  cases hc : svr.Connections.lookup c with
  | none => simp only [hc] at h; cases h; exact Acts.refl _
  | some conn =>
    cases hw : conn.Writer with
    | none => simp only [hc, hw] at h; cases h; exact Acts.refl _
    | some w => simp only [hc, hw] at h; cases h; exact (Act.endConn hc hw).acts

/-- `endConn` faults exactly when there is no channel, whatever the cookie -/
theorem endConn_ok {svr : Saver} (c : Nat) (h : 0 < svr.MarshalChans) :
    ∃ svr', svr.endConn c = .ok svr' := by
  simp only [endConn, goUmod_of_pos h, bind, Except.bind]
  split
  · split <;> exact ⟨_, rfl⟩
  · exact ⟨_, rfl⟩

theorem endConns_acts {svr svr' : Saver} {cookies : List Nat}
    (h : svr.endConns cookies = .ok svr') : Acts svr svr' := by
  induction cookies generalizing svr with
  | nil => cases h; exact Acts.refl _
  | cons c l ih =>
    simp only [endConns, List.foldlM_cons, bind, Except.bind] at h
    split at h
    · cases h
    · exact (endConn_acts ‹_›).trans (ih h)

theorem endConns_ok {svr : Saver} (cookies : List Nat) (h : 0 < svr.MarshalChans) :
    ∃ svr', svr.endConns cookies = .ok svr' := by
  induction cookies generalizing svr with
  | nil => exact ⟨_, rfl⟩
  | cons c l ih =>
    obtain ⟨s1, h1⟩ := endConn_ok c h
    obtain ⟨s2, h2⟩ := @ih s1 ((endConn_acts h1).MarshalChans.symm ▸ h)
    exact ⟨s2, by simpa [endConns, h1, bind, Except.bind] using h2⟩

theorem swapAndQueueAll_acts (classify : ParsedMessage → ParsedMessage → ChangeType)
    (svr : Saver) (msgs : List (Option ParsedMessage × World)) :
    Acts svr (svr.swapAndQueueAll classify msgs) := by
  induction msgs generalizing svr with
  | nil => exact Acts.refl _
  | cons m l ih =>
    refine Acts.trans ?_ (ih _)
    dsimp only
    split
    · exact swapAndQueue_acts _ _ _ _
    · exact Acts.refl _

theorem saveBatch_acts (classify : ParsedMessage → ParsedMessage → ChangeType) {svr svr' : Saver}
    {msgs : List (Option ParsedMessage × World)} (h : svr.saveBatch classify msgs = .ok svr') :
    Acts svr svr' :=
  (swapAndQueueAll_acts classify svr msgs).trans (Act.cache.acts.trans (endConns_acts h))

theorem saveBatch_ok (classify : ParsedMessage → ParsedMessage → ChangeType) {svr : Saver}
    (msgs : List (Option ParsedMessage × World)) (h : 0 < svr.MarshalChans) :
    ∃ svr', svr.saveBatch classify msgs = .ok svr' :=
  endConns_ok _ (by rw [(swapAndQueueAll_acts classify svr msgs).MarshalChans]; exact h)

theorem saveBatches_acts (classify : ParsedMessage → ParsedMessage → ChangeType)
    {svr svr' : Saver} {batches : List (List (Option ParsedMessage × World))}
    (h : svr.saveBatches classify batches = .ok svr') : Acts svr svr' := by
  induction batches generalizing svr with
  | nil => cases h; exact Acts.refl _
  | cons b l ih =>
    simp only [saveBatches, List.foldlM_cons, bind, Except.bind] at h
    split at h
    · cases h
    · exact (saveBatch_acts classify ‹_›).trans (ih h)

/-- with a channel, the batch loop never faults -/
theorem saveBatches_ok (classify : ParsedMessage → ParsedMessage → ChangeType) {svr : Saver}
    (batches : List (List (Option ParsedMessage × World))) (h : 0 < svr.MarshalChans) :
    ∃ svr', svr.saveBatches classify batches = .ok svr' := by
  induction batches generalizing svr with
  | nil => exact ⟨_, rfl⟩
  | cons b l ih =>
    obtain ⟨s1, h1⟩ := saveBatch_ok classify b h
    obtain ⟨s2, h2⟩ := @ih s1 ((saveBatch_acts classify h1).MarshalChans.symm ▸ h)
    exact ⟨s2, by simpa [saveBatches, h1, bind, Except.bind] using h2⟩

/-- `endConn` sends a close task and deletes the record, or does nothing -/
theorem endConn_trace {svr svr' : Saver} {c : Nat} (h : svr.endConn c = .ok svr') :
    svr'.trace = svr.trace ∨
      ∃ q w, svr'.trace = svr.trace ++ [.send q ⟨none, some w⟩, .delete c] := by
  have hN : 0 < svr.MarshalChans := by
    apply Nat.pos_of_ne_zero; intro h0; rw [endConn_zero c h0] at h; cases h
  simp only [endConn, goUmod_of_pos hN, bind, Except.bind] at h
  split at h
  · split at h <;> cases h
    · exact .inr ⟨_, _, rfl⟩
    · exact .inl rfl
  · cases h; exact .inl rfl

/-- what `MessageSaverLoop` is made of: the batch loop, `endConn` on the keys in the range
order, and the channels closed -/
theorem MessageSaverLoop_eq_ok {classify : ParsedMessage → ParsedMessage → ChangeType}
    {rangeOrder : AList (fun _ : Nat => Connection) → List Nat} {svr svr' : Saver}
    {batches : List (List (Option ParsedMessage × World))}
    (h : svr.MessageSaverLoop classify rangeOrder batches = .ok svr') :
    ∃ s0 s1, svr.saveBatches classify batches = .ok s0 ∧
      s0.endConns (rangeOrder s0.Connections) = .ok s1 ∧
      svr' = s1.emit ((List.range s1.MarshalChans).map .closeChan) := by
  simp only [MessageSaverLoop, Close, bind, Except.bind] at h
  split at h
  · cases h
  · split at h
    · cases h
    · cases h; exact ⟨_, _, ‹_›, ‹_›, rfl⟩

end Saver

end TcpInfo
