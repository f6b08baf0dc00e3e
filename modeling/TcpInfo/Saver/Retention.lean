import TcpInfo.Saver.Files

/-!
# saver: the records and the cache when the file system works

`saveBatches_keeps_unretained_record` shows a record outliving the cache entry of its cookie
after a failed `Rotate`.  With a file system that never fails, that is the only way:

* `Saver.sendTask_rotates`, `Saver.queue_writer`   `Rotate` opens the next file, so `queue`
                                     leaves the record of its cookie with a writer;
* `Saver.endConns_visited`           `endConn` leaves no record it visits holding a writer;
* `Saver.Tracked`                    every record holds a writer and is of a retained cookie;
* `Saver.feed_records_tracked`       it holds at every point of every run in which every
                                     `os.MkdirAll` and `zstd.NewWriter` succeeds;
* `MessageSaverLoop_ends_every_record`   in such a run `Close` leaves no record behind;
* `Saver.Queues`, `Saver.Significant`   `queue` gets past its checks on a snapshot, and the
                                     cache and the classifier find it worth saving;
* `Saver.swapAndQueue_sends`         with such a file system `swapAndQueue` sends a snapshot
                                     exactly when both hold: no significant snapshot is lost.
-/

set_option linter.unusedVariables false

namespace TcpInfo

namespace Saver

/-- with a file system that does not fail, `Rotate` of a record without a writer opens the next
file -/
theorem sendTask_rotates {svr : Saver} {q c : Nat} {conn : Connection} {msg : ParsedMessage}
    {env : World} (henv : env.MkdirAll = true ∧ env.NewWriter = true) (hw : conn.Writer = none) :
    svr.sendTask q c conn msg env =
      (((svr.emit [.newWriter svr.trace.length conn.outputPath,
          conn.writeHeader svr.trace.length]).setConn c (conn.rotated svr.trace.length)).emit
        [.send q ⟨some msg, some svr.trace.length⟩], none) := by
  simp [sendTask, hw, Connection.Rotate, henv.1, henv.2]

/-- with a file system that does not fail, `queue` leaves the record of its cookie with a writer,
when that record had one or `queue` goes past its own checks -/
theorem queue_writer {svr : Saver} {msg : ParsedMessage} {env : World}
    (henv : env.MkdirAll = true ∧ env.NewWriter = true)
    (hold : ∀ conn, svr.Connections.lookup msg.cookie = some conn → ∃ w, conn.Writer = some w)
    (conn : Connection) (hc : (svr.queue msg env).1.Connections.lookup msg.cookie = some conn) :
    ∃ w, conn.Writer = some w := by
  rcases queue_cases svr msg env with ⟨h, -⟩ | ⟨conn0, -, h⟩
  · rw [h] at hc; exact hold conn hc
  rw [h, queueConn] at hc
  set e := conn0.expire (msg.cookie % svr.MarshalChans) env.Now
  cases hw : e.1.Writer with
  | some w =>
    rw [sendTask, hw] at hc
    simp only [emit_Connections, setConn_Connections, AList.lookup_insert, Option.some.injEq] at hc
    exact ⟨w, hc ▸ hw⟩
  | none =>
    rw [sendTask_rotates henv hw] at hc
    simp only [emit_Connections, setConn_Connections, AList.lookup_insert, Option.some.injEq] at hc
    exact ⟨_, by rw [← hc]; rfl⟩

/-- `endConn` on a list leaves every record it visits without a writer, if it leaves it -/
theorem endConns_visited {svr svr' : Saver} {l : List Nat} (h : svr.endConns l = .ok svr')
    {k : Nat} (hk : k ∈ l) (v : Connection) (hv : svr'.Connections.lookup k = some v) :
    v.Writer = none := by
  induction l generalizing svr with
  | nil => cases hk
  | cons c l ih =>
    simp only [endConns, List.foldlM_cons, bind, Except.bind] at h
    split at h
    · cases h
    · rename_i s1 h1
      rcases List.mem_cons.1 hk with rfl | hk
      · exact (endConn_record h1).2 v ((endConns_frame h).2.2.1 k v hv)
      · exact ih h hk

end Saver

/-- every record holds a writer and is of a cookie the cache retains -/
def Saver.Tracked (svr : Saver) : Prop :=
  ∀ c conn, svr.Connections.lookup c = some conn →
    (∃ w, conn.Writer = some w) ∧ c ∈ svr.cache.retained.keys

namespace Saver

variable (classify : ParsedMessage → ParsedMessage → ChangeType)

/-- with a file system that does not fail, `queue` keeps every record tracked when the cache
retains the message's cookie -/
theorem queue_tracked {svr : Saver} (hs : svr.Tracked) {msg : ParsedMessage} {env : World}
    (hret : msg.cookie ∈ svr.cache.retained.keys)
    (henv : env.MkdirAll = true ∧ env.NewWriter = true) : (svr.queue msg env).1.Tracked := by
  intro c conn hc
  obtain ⟨hcache, -, hne⟩ := queue_frame svr msg env
  rw [hcache]
  by_cases hcm : c = msg.cookie
  · rw [hcm] at hc ⊢
    exact ⟨queue_writer henv (fun conn hc => (hs _ conn hc).1) conn hc, hret⟩
  · rw [hne c hcm] at hc
    exact hs c conn hc

/-- `Update` retains the snapshot's cookie and every cookie retained before -/
theorem mem_Update_keys {cache : Cache} {pm : ParsedMessage} {k : Nat} :
    k ∈ (cache.Update pm).2.retained.keys ↔ k = pm.cookie ∨ k ∈ cache.retained.keys := by
  rw [Cache.Update_retained, ← AList.mem_keys, AList.mem_insert, AList.mem_keys]

/-- with a file system that does not fail, every input keeps every record tracked -/
theorem feed_tracked {svr svr' : Saver} {i : Input} (hs : svr.Tracked)
    (henv : ∀ m env, i = .message m env → env.MkdirAll = true ∧ env.NewWriter = true)
    (h : svr.feed classify i = .ok svr') : svr'.Tracked := by
  match i, h with
  | .message (some pm) env, h =>
    cases h
    have hs1 : Tracked { svr with cache := (svr.cache.Update pm).2 } := fun c conn hc =>
      ⟨(hs c conn hc).1, mem_Update_keys.2 (.inr (hs c conn hc).2)⟩
    rcases swapAndQueue_cases classify svr pm env with h | h <;> rw [h]
    · exact hs1
    · exact queue_tracked hs1 (mem_Update_keys.2 (.inl rfl)) (henv _ env rfl)
  | .message none _, h => cases h; exact hs
  | .endCycle, h =>
    intro c conn hc
    obtain ⟨hcache, -, hsub, -⟩ := endConns_frame h
    obtain ⟨⟨w, hw⟩, hret⟩ := hs c conn (hsub c conn hc)
    have hres : c ∉ svr.cache.EndCycle.1.map ParsedMessage.cookie := fun hm => by
      rw [endConns_visited h hm conn hc] at hw; cases hw
    rw [Cache.EndCycle_residual, List.mem_filter] at hres
    have htouched : c ∈ svr.cache.touched := by simpa [hret] using hres
    refine ⟨⟨w, hw⟩, ?_⟩
    rw [hcache, ← AList.mem_keys, ← AList.lookup_isSome]
    change (svr.cache.EndCycle.2.retained.lookup c).isSome
    rw [Cache.EndCycle_lookup, if_pos htouched, AList.lookup_isSome, AList.mem_keys]
    exact hret

/-- every message of the inputs of some batches is a message of the batches -/
theorem mem_inputs {batches : List (List (Option ParsedMessage × World))}
    {m : Option ParsedMessage} {env : World} (h : Input.message m env ∈ inputs batches) :
    (m, env) ∈ batches.flatten := by
  simp only [inputs, List.mem_flatMap, List.mem_append, List.mem_map, List.mem_singleton,
    reduceCtorEq, or_false, Input.message.injEq] at h
  obtain ⟨b, hb, x, hx, rfl, rfl⟩ := h
  exact List.mem_flatten.2 ⟨b, hb, hx⟩

end Saver

theorem NewSaver_tracked (n : Nat) : (NewSaver n).Tracked := fun c conn h => by
  simp [NewSaver] at h

/-- `Tracked` holds after every run whose file system never fails -/
theorem Saver.foldlM_feed_tracked (classify : ParsedMessage → ParsedMessage → ChangeType)
    {n : Nat} {pre : List Saver.Input} {svr : Saver}
    (hfs : ∀ m env, Saver.Input.message m env ∈ pre → env.MkdirAll = true ∧ env.NewWriter = true)
    (h : pre.foldlM (Saver.feed classify) (NewSaver n) = .ok svr) : svr.Tracked :=
  Saver.foldlM_feed_induction classify
    (P := fun l s => (∀ m env, Saver.Input.message m env ∈ l →
      env.MkdirAll = true ∧ env.NewWriter = true) → s.Tracked)
    (fun l s i s' hs hf hl => Saver.feed_tracked classify
      (hs fun m env hm => hl m env (List.mem_append_left _ hm))
      (fun m env hi => hl m env (by simp [hi])) hf) [] (fun _ => NewSaver_tracked n) h hfs

/-- **With a file system that never fails, no record outlives its cache entry.**  At every point
of every run in which every `os.MkdirAll` and `zstd.NewWriter` succeeds, every record of
`svr.Connections` holds a writer and is of a cookie the change cache retains: a record is left
behind only by a failed `Rotate`. -/
theorem Saver.feed_records_tracked (classify : ParsedMessage → ParsedMessage → ChangeType)
    (n : Nat) (pre : List Saver.Input) (svr : Saver)
    (hfs : ∀ m env, Saver.Input.message m env ∈ pre → env.MkdirAll = true ∧ env.NewWriter = true)
    (h : pre.foldlM (Saver.feed classify) (NewSaver n) = .ok svr) (c : Nat) (conn : Connection)
    (hc : svr.Connections.lookup c = some conn) :
    (∃ w, conn.Writer = some w) ∧ c ∈ svr.cache.retained.keys :=
  Saver.foldlM_feed_tracked classify hfs h c conn hc

theorem feed_records_tracked_reopenBatches :
    (∀ m env, Saver.Input.message m env ∈ Saver.inputs reopenBatches →
      env.MkdirAll = true ∧ env.NewWriter = true) ∧
    ∃ svr conn, (Saver.inputs reopenBatches).foldlM (Saver.feed fun _ _ => .Other) (NewSaver 1) =
        .ok svr ∧ svr.Connections.lookup 5 = some conn ∧
      (∃ w, conn.Writer = some w) ∧ 5 ∈ svr.cache.retained.keys := by
  have hfs : ∀ m env, Saver.Input.message m env ∈ Saver.inputs reopenBatches →
      env.MkdirAll = true ∧ env.NewWriter = true := by
    intro m env h
    simp only [Saver.inputs, reopenBatches, List.flatMap_cons, List.flatMap_nil, List.map_cons,
      List.map_nil, List.cons_append, List.nil_append, List.append_nil, List.mem_cons,
      Saver.Input.message.injEq, reduceCtorEq, List.not_mem_nil, or_false, false_or] at h
    rcases h with ⟨-, rfl⟩ | ⟨-, rfl⟩ <;> exact ⟨rfl, rfl⟩
  exact ⟨hfs, _, _, rfl, rfl, Saver.feed_records_tracked (fun _ _ => .Other) 1 _ _ hfs rfl 5 _ rfl⟩

/-- **With a file system that never fails, `Close` ends every record.**  When every
`os.MkdirAll` and `zstd.NewWriter` of the run succeeds and the range loop of `Close` visits every
key, `MessageSaverLoop` returns with no record left in `svr.Connections`. -/
theorem MessageSaverLoop_ends_every_record (classify : ParsedMessage → ParsedMessage → ChangeType)
    (rangeOrder : AList (fun _ : Nat => Connection) → List Nat)
    (hrange : ∀ m, ∀ c ∈ m.keys, c ∈ rangeOrder m) (n : Nat)
    (batches : List (List (Option ParsedMessage × World)))
    (hfs : ∀ m env, (m, env) ∈ batches.flatten → env.MkdirAll = true ∧ env.NewWriter = true)
    (svr : Saver) (h : (NewSaver n).MessageSaverLoop classify rangeOrder batches = .ok svr)
    (c : Nat) : svr.Connections.lookup c = none := by
  obtain ⟨s0, s1, h0, h1, rfl⟩ := Saver.MessageSaverLoop_eq_ok h
  rw [Saver.saveBatches_eq_foldlM_feed] at h0
  rw [Saver.emit_Connections]
  cases hc : s1.Connections.lookup c with
  | none => rfl
  | some v =>
    have hv := (Saver.endConns_frame h1).2.2.1 c v hc
    obtain ⟨⟨w, hw⟩, -⟩ := Saver.foldlM_feed_tracked classify
      (fun m env hm => hfs m env (Saver.mem_inputs hm)) h0 c v hv
    have hk : c ∈ rangeOrder s0.Connections :=
      hrange _ c (AList.mem_keys.1 (AList.lookup_isSome.1 (by simp [hv])))
    rw [Saver.endConns_visited h1 hk v hc] at hw
    cases hw

set_option maxRecDepth 4000 in
theorem MessageSaverLoop_ends_every_record_reopenBatches :
    (∀ m : AList (fun _ : Nat => Connection), ∀ c ∈ m.keys, c ∈ m.keys) ∧
    (∀ m env, (m, env) ∈ reopenBatches.flatten → env.MkdirAll = true ∧ env.NewWriter = true) ∧
    ∃ svr, (NewSaver 1).MessageSaverLoop (fun _ _ => .Other) AList.keys reopenBatches = .ok svr ∧
      svr.Connections.lookup 5 = none := by
  have hfs : ∀ m env, (m, env) ∈ reopenBatches.flatten →
      env.MkdirAll = true ∧ env.NewWriter = true := by
    intro m env h
    simp only [reopenBatches, List.flatten, List.append_nil, List.nil_append, List.cons_append,
      List.mem_cons, Prod.mk.injEq, List.not_mem_nil, or_false] at h
    rcases h with ⟨-, rfl⟩ | ⟨-, rfl⟩ <;> exact ⟨rfl, rfl⟩
  exact ⟨fun _ _ h => h, hfs, _, rfl, MessageSaverLoop_ends_every_record (fun _ _ => .Other)
    AList.keys (fun _ _ h => h) 1 reopenBatches hfs _ rfl 5⟩

/-! ## every significant snapshot is sent -/

/-- `queue` gets past its own checks on `msg`: the cookie is not 0, there is a channel, and the
cookie has a record or the socket is not closing -/
def Saver.Queues (svr : Saver) (msg : ParsedMessage) : Prop :=
  msg.cookie ≠ 0 ∧ 0 < svr.MarshalChans ∧
    ((svr.Connections.lookup msg.cookie).isSome ∨
      msg.InetDiagMsg.IDiagState.toNat < TCPState_FIN_WAIT1)

instance (svr : Saver) (msg : ParsedMessage) : Decidable (svr.Queues msg) := by
  unfold Saver.Queues; infer_instance

/-- `swapAndQueue` finds `pm` significant: the cache held no snapshot of its cookie, or the
classifier ranks `pm` above `NoMajorChange` against the one it held -/
def Saver.Significant (classify : ParsedMessage → ParsedMessage → ChangeType) (svr : Saver)
    (pm : ParsedMessage) : Prop :=
  match (svr.cache.Update pm).1 with
  | none => True
  | some old => 0 < (classify pm old).toNat

instance (classify : ParsedMessage → ParsedMessage → ChangeType) (svr : Saver)
    (pm : ParsedMessage) : Decidable (svr.Significant classify pm) := by
  unfold Saver.Significant; split <;> infer_instance

namespace Saver

section WorkingFileSystem
variable {env : World} (henv : env.MkdirAll = true ∧ env.NewWriter = true)
include henv

theorem sendTask_sends (svr : Saver) (q c : Nat) (conn : Connection) (msg : ParsedMessage) :
    sentMessages (svr.sendTask q c conn msg env).1.trace = sentMessages svr.trace ++ [msg] := by
  cases hw : conn.Writer with
  | some w => simp [sendTask, hw, sentMessages, Effect.message]
  | none => simp [sendTask_rotates henv hw, sentMessages, Effect.message, Connection.writeHeader]

theorem queueConn_sends (svr : Saver) (q c : Nat) (conn : Connection) (msg : ParsedMessage) :
    sentMessages (svr.queueConn q c conn msg env).1.trace = sentMessages svr.trace ++ [msg] := by
  rw [queueConn, sendTask_sends henv]
  rcases Connection.expire_cases conn q env.Now with he | ⟨w, -, he⟩ <;>
    simp [he, sentMessages, Effect.message]

theorem queue_sends (svr : Saver) (msg : ParsedMessage) :
    sentMessages (svr.queue msg env).1.trace =
      sentMessages svr.trace ++ if svr.Queues msg then [msg] else [] := by
  unfold queue Queues
  by_cases h0 : msg.cookie = 0
  · simp [h0]
  by_cases h1 : 0 < svr.MarshalChans
  · simp only [h0, h1, Nat.not_lt_zero, Nat.lt_one_iff, Nat.pos_iff_ne_zero.1 h1, if_false]
    split
    · rename_i conn hc
      simp [queueConn_sends henv, h0, h1, hc]
    · rename_i hc
      by_cases hs : TCPState_FIN_WAIT1 ≤ msg.InetDiagMsg.IDiagState.toNat
      · simp [hs, hc]
      · simp [hs, queueConn_sends henv, h0, h1, hc, Nat.lt_of_not_le hs]
  · simp [h0, h1, Nat.lt_one_iff.2 (Nat.eq_zero_of_not_pos h1)]

end WorkingFileSystem

/-- **With a working file system, every significant snapshot is sent, and no other.**  When
`os.MkdirAll` and `zstd.NewWriter` succeed, `swapAndQueue` adds to the snapshots sent to the
marshallers exactly its own, and only when the cache had none of its cookie or the classifier
ranks it above `NoMajorChange`, and `queue` gets past its checks: a cookie that is not 0, a
channel, and a record of the cookie or a socket that is not closing. -/
theorem swapAndQueue_sends (classify : ParsedMessage → ParsedMessage → ChangeType) (svr : Saver)
    (pm : ParsedMessage) (env : World) (henv : env.MkdirAll = true ∧ env.NewWriter = true) :
    sentMessages (svr.swapAndQueue classify pm env).trace =
      sentMessages svr.trace ++ if svr.Significant classify pm ∧ svr.Queues pm then [pm] else [] := by
  rw [swapAndQueue]
  cases hu : (svr.cache.Update pm).1 with
  | none =>
    have hs : svr.Significant classify pm := by simp only [Significant, hu]
    simp only [hs, true_and]
    exact queue_sends henv _ pm
  | some old =>
    have hs : svr.Significant classify pm ↔ 0 < (classify pm old).toNat := by
      simp only [Significant, hu]
    by_cases hc : 0 < (classify pm old).toNat
    · simp only [hc, if_true, hs, true_and]
      exact queue_sends henv _ pm
    · simp only [hc, if_false, hs, false_and, List.append_nil]

end Saver

theorem swapAndQueue_sends_first :
    (okWorld noon).MkdirAll = true ∧ (okWorld noon).NewWriter = true ∧
      sentMessages ((NewSaver 1).swapAndQueue (fun _ _ => .Other) (establishedSnapshot 1 noon)
        (okWorld noon)).trace =
      sentMessages (NewSaver 1).trace ++
        if (NewSaver 1).Significant (fun _ _ => .Other) (establishedSnapshot 1 noon) ∧
          (NewSaver 1).Queues (establishedSnapshot 1 noon) then [establishedSnapshot 1 noon] else [] :=
  ⟨rfl, rfl, Saver.swapAndQueue_sends _ _ _ _ ⟨rfl, rfl⟩⟩

end TcpInfo
