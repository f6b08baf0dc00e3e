import TcpInfo.Saver.Records

/-!
# saver: the Saver goroutine input by input

The loop of `MessageSaverLoop` handles one input at a time: a message of a batch, or the end of
the batch.  What holds from one message to a later one is stated on the run cut at every input:

* `Saver.Input`, `Saver.feed`      one input, and what the loop does with it;
* `saveBatches_eq_foldlM_feed`     the batch loop is `feed` folded over the inputs of the
                                   batches, so a statement about every prefix of inputs is a
                                   statement about every point of every run;
* `Saver.swapAndQueueError`        the error `swapAndQueue` logs;
* `Saver.sendTask_cases`, `Saver.queue_cases`   what one `queue` can do: nothing, or the record
                                   of the message's cookie found or made, then sent on, failed
                                   in `Rotate` or rotated; the cache and every other record are
                                   left as they are (`queue_frame`);
* `Saver.foldlM_feed_induction`   what holds before every input and is kept by `feed` holds
                                   after a whole run; `Saver.foldlM_feed_acts`: a run is made of
                                   the primitive actions of `Saver.Act`.
-/

set_option linter.unusedVariables false

namespace TcpInfo

/-- what the loop of `MessageSaverLoop` handles, one after the other: a message of a batch, with
the environment's answers while it is handled, or the end of a batch -/
inductive Saver.Input where
  | message (m : Option ParsedMessage) (env : World)
  | endCycle

/-- the loop on one input: `swapAndQueue` on a non-nil message (a nil one is skipped); at the
end of a batch, `EndCycle` and `endConn` on the cookie of every residual snapshot -/
def Saver.feed (classify : ParsedMessage → ParsedMessage → ChangeType) (svr : Saver) :
    Saver.Input → Go Saver
  | .message (some pm) env => .ok (svr.swapAndQueue classify pm env)
  | .message none _ => .ok svr
  | .endCycle =>
    let ec := svr.cache.EndCycle
    { svr with cache := ec.2 }.endConns (ec.1.map ParsedMessage.cookie)

/-- the readings of the clock while an input is handled: `time.Now()` in `newConnection`, then in
the expiry check of `queue` (a message that is not queued still carries them) -/
def Saver.Input.times : Saver.Input → List Time
  | .message _ env => [env.ConnNow, env.Now]
  | .endCycle => []

/-- the inputs of a list of batches, in the order the loop handles them -/
def Saver.inputs (batches : List (List (Option ParsedMessage × World))) : List Saver.Input :=
  batches.flatMap fun b => b.map (fun m => .message m.1 m.2) ++ [.endCycle]

/-- the error `swapAndQueue` logs: the one `queue` returns, when `queue` is called -/
def Saver.swapAndQueueError (classify : ParsedMessage → ParsedMessage → ChangeType)
    (svr : Saver) (pm : ParsedMessage) (env : World) : Option GoError :=
  let u := svr.cache.Update pm
  let svr := { svr with cache := u.2 }
  match u.1 with
  | none => (svr.queue pm env).2
  | some old => if 0 < (classify pm old).toNat then (svr.queue pm env).2 else none

namespace Saver

variable (classify : ParsedMessage → ParsedMessage → ChangeType)

theorem swapAndQueueAll_eq_foldlM_feed (svr : Saver) (msgs : List (Option ParsedMessage × World)) :
    (msgs.map fun m => Input.message m.1 m.2).foldlM (feed classify) svr =
      .ok (svr.swapAndQueueAll classify msgs) := by
  induction msgs generalizing svr with
  | nil => rfl
  | cons m l ih =>
    obtain ⟨_ | pm, env⟩ := m <;> exact ih _

/-- the batch loop is `feed` folded over the inputs of the batches -/
theorem saveBatches_eq_foldlM_feed (svr : Saver)
    (batches : List (List (Option ParsedMessage × World))) :
    svr.saveBatches classify batches = (inputs batches).foldlM (feed classify) svr := by
  induction batches generalizing svr with
  | nil => rfl
  | cons b l ih =>
    simp only [inputs, List.flatMap_cons, List.foldlM_append, swapAndQueueAll_eq_foldlM_feed]
    rw [← inputs, ← funext ih]
    simp only [List.foldlM_cons, List.foldlM_nil, bind_pure]
    rfl

/-! ## what one `queue` can do -/

/-- **What the end of `queue` can do.**  Send on the record's writer; or, the record having no
writer, fail in `Rotate` and store the record as it was; or open the writer named by the length
of the trace, write the header, store the rotated record and send on the new writer. -/
theorem sendTask_cases (svr : Saver) (q c : Nat) (conn : Connection) (msg : ParsedMessage)
    (env : World) :
    (∃ w, conn.Writer = some w ∧
      svr.sendTask q c conn msg env = (svr.emit [.send q ⟨some msg, some w⟩], none)) ∨
    (conn.Writer = none ∧ ∃ e, svr.sendTask q c conn msg env = (svr.setConn c conn, some e)) ∨
    (conn.Writer = none ∧ svr.sendTask q c conn msg env =
      (((svr.emit [.newWriter svr.trace.length conn.outputPath,
          conn.writeHeader svr.trace.length]).setConn c (conn.rotated svr.trace.length)).emit
        [.send q ⟨some msg, some svr.trace.length⟩], none)) := by
  unfold sendTask
  cases hw : conn.Writer with
  | some w => exact .inl ⟨w, rfl, rfl⟩
  | none =>
    rcases Connection.Rotate_cases hw svr.FileAgeLimit env svr.trace.length with ⟨e, hr⟩ | hr
    · exact .inr (.inl ⟨rfl, e, by simp [hr]⟩)
    · exact .inr (.inr ⟨rfl, by simp [hr]⟩)

/-- storing a new record first changes nothing: `queueConn` stores the record again -/
theorem setConn_queueConn (svr : Saver) (q c : Nat) (conn conn' : Connection)
    (msg : ParsedMessage) (env : World) :
    (svr.setConn c conn').queueConn q c conn msg env = svr.queueConn q c conn msg env := by
  have h : ∀ fx, (svr.setConn c conn').emit fx = (svr.emit fx).setConn c conn' := fun _ => rfl
  simp only [queueConn, h, setConn_setConn]

/-- **What `queue` can do.**  Return at once, with the Saver unchanged and an error or none; or
go on to `queueConn` with the record of the message's cookie, found or made by
`newConnection`. -/
theorem queue_cases (svr : Saver) (msg : ParsedMessage) (env : World) :
    ((svr.queue msg env).1 = svr ∧
      (svr.queue msg env).2 ∈ [none, some .cookieZero, some .ErrNoMarshallers]) ∨
    ∃ conn, (svr.Connections.lookup msg.cookie = some conn ∨
        svr.Connections.lookup msg.cookie = none ∧
          conn = newConnection msg.InetDiagMsg msg.Timestamp env.ConnNow) ∧
      svr.queue msg env = svr.queueConn (msg.cookie % svr.MarshalChans) msg.cookie conn msg env := by
  unfold queue
  by_cases h0 : msg.cookie = 0
  · simp [h0]
  by_cases h1 : svr.MarshalChans < 1
  · simp [h0, h1]
  simp only [h0, h1, if_false]
  cases hc : svr.Connections.lookup msg.cookie with
  | some conn => exact .inr ⟨conn, .inl rfl, rfl⟩
  | none =>
    by_cases hs : TCPState_FIN_WAIT1 ≤ msg.InetDiagMsg.IDiagState.toNat
    · simp [hs]
    · simp only [hs, if_false, setConn_queueConn]
      exact .inr ⟨_, .inr ⟨trivial, rfl⟩, rfl⟩

/-- `queueConn` stores the record of its cookie and touches nothing else of the Saver's state -/
theorem queueConn_frame (svr : Saver) (q c : Nat) (conn : Connection) (msg : ParsedMessage)
    (env : World) :
    (svr.queueConn q c conn msg env).1.cache = svr.cache ∧
      (svr.queueConn q c conn msg env).1.FileAgeLimit = svr.FileAgeLimit ∧
      ∀ k, k ≠ c →
        (svr.queueConn q c conn msg env).1.Connections.lookup k = svr.Connections.lookup k := by
  rw [queueConn]
  rcases sendTask_cases ((svr.emit (conn.expire q env.Now).2).setConn c (conn.expire q env.Now).1)
    q c (conn.expire q env.Now).1 msg env with ⟨w, -, h⟩ | ⟨-, e, h⟩ | ⟨-, h⟩ <;>
    rw [h] <;> exact ⟨rfl, rfl, fun k hk => by simp [AList.lookup_insert_ne hk]⟩

/-- `queue` changes at most the record of the message's cookie -/
theorem queue_frame (svr : Saver) (msg : ParsedMessage) (env : World) :
    (svr.queue msg env).1.cache = svr.cache ∧
      (svr.queue msg env).1.FileAgeLimit = svr.FileAgeLimit ∧
      ∀ k, k ≠ msg.cookie →
        (svr.queue msg env).1.Connections.lookup k = svr.Connections.lookup k := by
  rcases queue_cases svr msg env with ⟨h, -⟩ | ⟨conn, -, h⟩
  · rw [h]; exact ⟨rfl, rfl, fun _ _ => rfl⟩
  · rw [h]; exact queueConn_frame svr _ msg.cookie conn msg env

/-- `swapAndQueue` updates the cache and then queues the message, or does not -/
theorem swapAndQueue_cases (svr : Saver) (pm : ParsedMessage) (env : World) :
    svr.swapAndQueue classify pm env = { svr with cache := (svr.cache.Update pm).2 } ∨
      svr.swapAndQueue classify pm env =
        ({ svr with cache := (svr.cache.Update pm).2 }.queue pm env).1 := by
  unfold swapAndQueue
  dsimp only
  split
  · exact .inr rfl
  · split
    · exact .inr rfl
    · exact .inl rfl

/-- `swapAndQueue` changes the cache as `Update` does, and at most the record of the message's
cookie -/
theorem swapAndQueue_frame (svr : Saver) (pm : ParsedMessage) (env : World) :
    (svr.swapAndQueue classify pm env).cache = (svr.cache.Update pm).2 ∧
      (svr.swapAndQueue classify pm env).FileAgeLimit = svr.FileAgeLimit ∧
      ∀ k, k ≠ pm.cookie →
        (svr.swapAndQueue classify pm env).Connections.lookup k = svr.Connections.lookup k := by
  rcases swapAndQueue_cases classify svr pm env with h | h <;> rw [h]
  · exact ⟨rfl, rfl, fun _ _ => rfl⟩
  · exact queue_frame _ pm env

/-! ## what `endConn` can do -/

/-- **What `endConn` can do.**  Nothing to the record map, or delete the record of its cookie,
which had a writer; the cache and the age limit stay. -/
theorem endConn_cases {svr svr' : Saver} {k : Nat} (h : svr.endConn k = .ok svr') :
    svr'.cache = svr.cache ∧ svr'.FileAgeLimit = svr.FileAgeLimit ∧
      (svr'.Connections = svr.Connections ∨
        ∃ conn w, svr.Connections.lookup k = some conn ∧ conn.Writer = some w ∧
          svr'.Connections = svr.Connections.erase k) := by
  have hN : 0 < svr.MarshalChans := by
    apply Nat.pos_of_ne_zero; intro h0; rw [endConn_zero k h0] at h; cases h
  simp only [endConn, goUmod_of_pos hN, bind, Except.bind] at h
  split at h
  · rename_i conn hc
    split at h <;> cases h
    · exact ⟨rfl, rfl, .inr ⟨conn, _, hc, ‹_›, rfl⟩⟩
    · exact ⟨rfl, rfl, .inl rfl⟩
  · cases h; exact ⟨rfl, rfl, .inl rfl⟩

/-- `endConn` on a list of cookies keeps the cache and the age limit, removes records and adds
none, and never removes a record without a writer -/
theorem endConns_frame {svr svr' : Saver} {cookies : List Nat}
    (h : svr.endConns cookies = .ok svr') :
    svr'.cache = svr.cache ∧ svr'.FileAgeLimit = svr.FileAgeLimit ∧
      (∀ c v, svr'.Connections.lookup c = some v → svr.Connections.lookup c = some v) ∧
      ∀ c v, svr.Connections.lookup c = some v → v.Writer = none →
        svr'.Connections.lookup c = some v := by
  induction cookies generalizing svr with
  | nil => cases h; exact ⟨rfl, rfl, fun _ _ h => h, fun _ _ h _ => h⟩
  | cons k l ih =>
    simp only [endConns, List.foldlM_cons, bind, Except.bind] at h
    split at h
    · cases h
    · rename_i s1 h1
      obtain ⟨hc, hf, hl⟩ := endConn_cases h1
      obtain ⟨hc', hf', hsub, hkeep⟩ := ih h
      refine ⟨hc'.trans hc, hf'.trans hf, fun c v hv => ?_, fun c v hv hw => hkeep c v ?_ hw⟩
      · rcases hl with hl | ⟨-, -, -, -, hl⟩
        · rw [← hl]; exact hsub c v hv
        · exact (lookup_erase_some (hl ▸ hsub c v hv)).2
      · rcases hl with hl | ⟨conn, w, hk, hwk, hl⟩
        · rw [hl]; exact hv
        · have hck : c ≠ k := by rintro rfl; rw [hk] at hv; cases hv; rw [hwk] at hw; cases hw
          rw [hl, AList.lookup_erase_ne hck]; exact hv

/-! ## runs of inputs -/

/-- **Run induction.**  A property of the inputs handled so far and the Saver, kept by every
input, holds after every run. -/
theorem foldlM_feed_induction {P : List Input → Saver → Prop}
    (hstep : ∀ pre s i s', P pre s → s.feed classify i = .ok s' → P (pre ++ [i]) s')
    (pre : List Input) {inputs : List Input} {svr svr' : Saver} (hs : P pre svr)
    (h : inputs.foldlM (feed classify) svr = .ok svr') : P (pre ++ inputs) svr' := by
  induction inputs generalizing pre svr with
  | nil => cases h; simpa using hs
  | cons i l ih =>
    simp only [List.foldlM_cons, bind, Except.bind] at h
    split at h
    · cases h
    · simpa using ih _ (hstep pre svr i _ hs ‹_›) h

/-- every input is a run of primitive actions -/
theorem feed_acts {svr svr' : Saver} {i : Input} (h : svr.feed classify i = .ok svr') :
    Acts svr svr' := by
  match i, h with
  | .message (some pm) env, h => cases h; exact swapAndQueue_acts classify svr pm env
  | .message none _, h => cases h; exact Acts.refl _
  | .endCycle, h => exact Act.cache.acts.trans (endConns_acts h)

theorem foldlM_feed_acts {inputs : List Input} {svr svr' : Saver}
    (h : inputs.foldlM (feed classify) svr = .ok svr') : Acts svr svr' :=
  foldlM_feed_induction classify (P := fun _ s => Acts svr s)
    (fun _ _ _ _ hs hf => hs.trans (feed_acts classify hf)) [] (Acts.refl _) h

/-- every input keeps the age limit -/
theorem feed_FileAgeLimit {svr svr' : Saver} {i : Input} (h : svr.feed classify i = .ok svr') :
    svr'.FileAgeLimit = svr.FileAgeLimit := by
  match i, h with
  | .message (some pm) env, h => cases h; exact (swapAndQueue_frame classify svr pm env).2.1
  | .message none _, h => cases h; rfl
  | .endCycle, h => exact (endConns_frame h).2.1

end Saver

end TcpInfo
