import TcpInfo.Saver.Inputs

/-!
# saver: what a failed rotation leaves, and when a new file is due

`queue` calls `Rotate` when the record of a cookie has no writer.  What a failure leaves for the
next snapshot of the cookie, and when the file a success opens is due for rotation:

* `Saver.RetryPending`                      after `Rotate` fails on the snapshot `s`, `s` is
                                            the cache's baseline while its cookie is retained,
                                            and the record waits without a writer;
* `swapAndQueue_failed_rotation_baseline`   so the next snapshot of the cookie is compared
                                            with the dropped one, and queued only when the
                                            classifier finds it significant against it;
* `swapAndQueue_skips_unchanged_retry`      an unchanged snapshot after the failure is not
                                            queued, and no file is opened for it;
* `Saver.DueBy`                             with a clock that never goes back, every record
                                            is due at most ten minutes after the last
                                            reading, and by it while it has no writer;
* `queue_rotation_expiration`               a file opened at time `t` is due the age limit
                                            after the record's previous due time, so at
                                            most `t` plus the age limit;
* `queue_rotates_into_expired_file`         after an idle spell of more than one age limit,
                                            the file opened is already due.
-/

set_option linter.unusedVariables false

namespace TcpInfo

namespace Saver

variable (classify : ParsedMessage → ParsedMessage → ChangeType)

/-! ## a failed rotation -/

/-- a `queue` that fails past its own two checks has failed in `Rotate`, and leaves the record
of the message's cookie without a writer -/
theorem queue_rotateError {svr : Saver} {msg : ParsedMessage} {env : World} {e : GoError}
    (he : (svr.queue msg env).2 = some e) (h0 : e ≠ .cookieZero) (h1 : e ≠ .ErrNoMarshallers) :
    ∃ conn, (svr.queue msg env).1.Connections.lookup msg.cookie = some conn ∧
      conn.Writer = none := by
  rcases queue_cases svr msg env with ⟨-, hq⟩ | ⟨conn, -, h⟩
  · rw [he] at hq; simp_all
  · rw [h, queueConn] at he ⊢
    rcases sendTask_cases ((svr.emit (conn.expire _ env.Now).2).setConn msg.cookie
        (conn.expire _ env.Now).1) _ msg.cookie (conn.expire _ env.Now).1 msg env
      with ⟨w, -, hs⟩ | ⟨hw, e', hs⟩ | ⟨-, hs⟩ <;> rw [hs] at he ⊢
    · cases he
    · exact ⟨_, by simp, hw⟩
    · cases he

/-- an error `swapAndQueue` logs comes from its call of `queue` -/
theorem swapAndQueueError_eq {svr : Saver} {pm : ParsedMessage} {env : World} {e : GoError}
    (he : svr.swapAndQueueError classify pm env = some e) :
    svr.swapAndQueue classify pm env = ({ svr with cache := (svr.cache.Update pm).2 }.queue pm env).1 ∧
      ({ svr with cache := (svr.cache.Update pm).2 }.queue pm env).2 = some e := by
  simp only [swapAndQueueError, swapAndQueue] at he ⊢
  cases hu : (svr.cache.Update pm).1 with
  | none => simp only [hu, true_and] at he ⊢; exact he
  | some old =>
    simp only [hu] at he ⊢
    by_cases hc : 0 < (classify pm old).toNat
    · simp only [hc, if_true, true_and] at he ⊢; exact he
    · simp [hc] at he

/-- the same for `swapAndQueue`, whose `queue` error is only logged -/
theorem swapAndQueueError_record {svr : Saver} {pm : ParsedMessage} {env : World} {e : GoError}
    (he : svr.swapAndQueueError classify pm env = some e) (h0 : e ≠ .cookieZero)
    (h1 : e ≠ .ErrNoMarshallers) :
    ∃ conn, (svr.swapAndQueue classify pm env).Connections.lookup pm.cookie = some conn ∧
      conn.Writer = none := by
  obtain ⟨heq, hq⟩ := swapAndQueueError_eq classify he
  rw [heq]
  exact queue_rotateError hq h0 h1

/-- what a failed rotation of cookie `c` on the snapshot `s` leaves: while the cache retains
`c`, its baseline is `s`; and the record of `c` has no writer -/
def RetryPending (c : Nat) (s : ParsedMessage) (svr : Saver) : Prop :=
  (∀ x, svr.cache.retained.lookup c = some x → x = s) ∧
    ∃ conn, svr.Connections.lookup c = some conn ∧ conn.Writer = none

/-- an input without a snapshot of `c` keeps what a failed rotation of `c` left: other cookies'
snapshots touch neither the baseline of `c` nor its record, `EndCycle` drops the baseline or
keeps it, and `endConn` leaves a record without a writer in place -/
theorem feed_retryPending {c : Nat} {s : ParsedMessage} {svr svr' : Saver} {i : Input}
    (hp : svr.RetryPending c s) (hi : ∀ m env, i = .message (some m) env → m.cookie ≠ c)
    (h : svr.feed classify i = .ok svr') : svr'.RetryPending c s := by
  obtain ⟨hbase, conn, hc, hw⟩ := hp
  match i, h with
  | .message (some pm) env, h =>
    cases h
    have hne : c ≠ pm.cookie := (hi pm env rfl).symm
    obtain ⟨hca, -, hl⟩ := swapAndQueue_frame classify svr pm env
    refine ⟨fun x hx => hbase x ?_, conn, by rw [hl c hne]; exact hc, hw⟩
    rwa [hca, Cache.Update_retained, AList.lookup_insert_ne hne] at hx
  | .message none _, h => cases h; exact ⟨hbase, conn, hc, hw⟩
  | .endCycle, h =>
    obtain ⟨hca, -, -, hkeep⟩ := endConns_frame h
    refine ⟨fun x hx => hbase x ?_, conn, hkeep c conn hc hw, hw⟩
    rw [hca, Cache.EndCycle_lookup] at hx
    split at hx
    · exact hx
    · cases hx

theorem foldlM_feed_retryPending {c : Nat} {s : ParsedMessage} {inputs : List Input}
    {svr svr' : Saver} (hp : svr.RetryPending c s)
    (hi : ∀ m env, Input.message (some m) env ∈ inputs → m.cookie ≠ c)
    (h : inputs.foldlM (feed classify) svr = .ok svr') : svr'.RetryPending c s := by
  induction inputs generalizing svr with
  | nil => cases h; exact hp
  | cons i l ih =>
    simp only [List.foldlM_cons, bind, Except.bind] at h
    split at h
    · cases h
    · refine ih (feed_retryPending classify hp (fun m env hm => ?_) ‹_›)
        (fun m env hm => hi m env (List.mem_cons_of_mem _ hm)) h
      exact hi m env (hm ▸ List.mem_cons_self _ _)

/-- **A failed rotation leaves the dropped snapshot as the baseline.**  Suppose
`swapAndQueue(s)` ends with `queue` failing in `Rotate`, and the loop goes on through inputs
without a snapshot of the cookie of `s`.  If the cache still retains the cookie, `Update`
returns `s` for its next snapshot `s'`: so `s'` is queued exactly when the classifier finds it
significant against `s`, and the record, still without a writer, makes that `queue` try
`Rotate` again. -/
theorem swapAndQueue_failed_rotation_baseline (svr : Saver) (s : ParsedMessage) (env : World)
    (hfail : svr.swapAndQueueError classify s env = some .mkdirAll ∨
      svr.swapAndQueueError classify s env = some .newWriter)
    (mid : List Input) (s2 : Saver)
    (hmid : ∀ m env', Input.message (some m) env' ∈ mid → m.cookie ≠ s.cookie)
    (hrun : mid.foldlM (feed classify) (svr.swapAndQueue classify s env) = .ok s2)
    (hret : s.cookie ∈ s2.cache.retained.keys) (s' : ParsedMessage) (hc : s'.cookie = s.cookie)
    (env' : World) :
    (s2.cache.Update s').1 = some s ∧
      s2.swapAndQueue classify s' env' =
        (if 0 < (classify s' s).toNat then
          ({ s2 with cache := (s2.cache.Update s').2 }.queue s' env').1
        else { s2 with cache := (s2.cache.Update s').2 }) ∧
      ∃ conn, s2.Connections.lookup s.cookie = some conn ∧ conn.Writer = none := by
  have h0 : RetryPending s.cookie s (svr.swapAndQueue classify s env) := by
    obtain ⟨e, he, hne0, hne1⟩ : ∃ e, svr.swapAndQueueError classify s env = some e ∧
        e ≠ .cookieZero ∧ e ≠ .ErrNoMarshallers := by
      rcases hfail with h | h <;> exact ⟨_, h, by decide, by decide⟩
    refine ⟨fun x hx => ?_, swapAndQueueError_record classify he hne0 hne1⟩
    rw [(swapAndQueue_frame classify svr s env).1, Cache.Update_retained,
      AList.lookup_insert] at hx
    exact (Option.some.inj hx).symm
  obtain ⟨hbase, hrec⟩ := foldlM_feed_retryPending classify h0 hmid hrun
  obtain ⟨x, hx⟩ := Option.isSome_iff_exists.1 (AList.lookup_isSome.2 (AList.mem_keys.1 hret))
  have hU : (s2.cache.Update s').1 = some s := by rw [Cache.Update_fst, hc, hx, hbase x hx]
  refine ⟨hU, ?_, hrec⟩
  simp only [swapAndQueue, hU]

end Saver

/-- a classifier that finds no change between identical snapshots, as `Compare` does, and a
change between any two others -/
def changedUnlessEqual (pm old : ParsedMessage) : ChangeType :=
  if pm = old then .NoMajorChange else .Other

/-- a snapshot of cookie 1 whose directory cannot be made, then the same snapshot in the next
batch, when the file system works -/
def retryBatches : List (List (Option ParsedMessage × World)) :=
  [[(some (establishedSnapshot 1 noon), mkdirFails noon)],
   [(some (establishedSnapshot 1 noon), okWorld (noon + Minute))]]

theorem swapAndQueue_failed_rotation_baseline_retry :
    ((NewSaver 1).swapAndQueueError changedUnlessEqual (establishedSnapshot 1 noon)
        (mkdirFails noon) = some .mkdirAll ∨
      (NewSaver 1).swapAndQueueError changedUnlessEqual (establishedSnapshot 1 noon)
        (mkdirFails noon) = some .newWriter) ∧
    ∃ s2, [Saver.Input.endCycle].foldlM (Saver.feed changedUnlessEqual)
        ((NewSaver 1).swapAndQueue changedUnlessEqual (establishedSnapshot 1 noon)
          (mkdirFails noon)) = .ok s2 ∧
      (establishedSnapshot 1 noon).cookie ∈ s2.cache.retained.keys ∧
      (s2.cache.Update (establishedSnapshot 1 noon)).1 = some (establishedSnapshot 1 noon) ∧
      s2.swapAndQueue changedUnlessEqual (establishedSnapshot 1 noon) (okWorld (noon + Minute)) =
        (if 0 < (changedUnlessEqual (establishedSnapshot 1 noon)
            (establishedSnapshot 1 noon)).toNat then
          ({ s2 with cache := (s2.cache.Update (establishedSnapshot 1 noon)).2 }.queue
            (establishedSnapshot 1 noon) (okWorld (noon + Minute))).1
        else { s2 with cache := (s2.cache.Update (establishedSnapshot 1 noon)).2 }) ∧
      ∃ conn, s2.Connections.lookup (establishedSnapshot 1 noon).cookie = some conn ∧
        conn.Writer = none :=
  ⟨.inl rfl, _, rfl, by decide,
    Saver.swapAndQueue_failed_rotation_baseline changedUnlessEqual (NewSaver 1)
      (establishedSnapshot 1 noon) (mkdirFails noon) (.inl rfl) [.endCycle] _
      (fun m e h => by simp at h) rfl (by decide) (establishedSnapshot 1 noon) rfl
      (okWorld (noon + Minute))⟩

/-- **An unchanged snapshot is not retried.**  The first snapshot of cookie 1 fails in `Rotate`
(its directory cannot be made); the same snapshot comes again in the next batch, with a working
file system, and is not queued: no file is ever opened and nothing is sent. -/
theorem swapAndQueue_skips_unchanged_retry :
    (NewSaver 1).swapAndQueueError changedUnlessEqual (establishedSnapshot 1 noon)
        (mkdirFails noon) = some .mkdirAll ∧
      ∃ svr, (NewSaver 1).saveBatches changedUnlessEqual retryBatches = .ok svr ∧ svr.trace = [] :=
  ⟨rfl, _, rfl, rfl⟩

/-! ## when a new file is due -/

/-- the record is due at most `T` plus the ten minutes `Rotate` adds, and by `T` while it has no
writer -/
def Connection.DueBy (T : Time) (conn : Connection) : Prop :=
  conn.Expiration ≤ T + 10 * Minute ∧ (conn.Writer = none → conn.Expiration ≤ T)

/-- every record is `DueBy T` -/
def Saver.DueBy (T : Time) (svr : Saver) : Prop :=
  ∀ c conn, svr.Connections.lookup c = some conn → conn.DueBy T

section DueBy

variable {T T' now : Time} {conn : Connection} {svr : Saver}

theorem Connection.DueBy.mono (h : conn.DueBy T) (hT : T ≤ T') : conn.DueBy T' :=
  ⟨h.1.trans (Nat.add_le_add_right hT _), fun hw => (h.2 hw).trans hT⟩

theorem newConnection_dueBy (info : InetDiagMsg) (t now : Time) :
    (newConnection info t now).DueBy now :=
  ⟨Nat.le_add_right _ _, fun _ => le_rfl⟩

/-- the expiry check at `now` leaves a record due by `now` if it has no writer afterwards -/
theorem Connection.DueBy.expire (h : conn.DueBy T) (hT : T ≤ now) (q : Nat) :
    (conn.expire q now).1.DueBy now := by
  refine ⟨by rw [Connection.expire_Expiration]; exact h.1.trans (Nat.add_le_add_right hT _),
    fun hw => ?_⟩
  rw [Connection.expire_Expiration]
  rcases Connection.expire_Writer_none hw with hw | hlt
  exacts [(h.2 hw).trans hT, hlt.le]

theorem Connection.DueBy.rotated (h : conn.DueBy T) (hw : conn.Writer = none) (w : Nat) :
    (conn.rotated w).DueBy T :=
  ⟨by rw [Connection.rotated_Expiration]; exact Nat.add_le_add_right (h.2 hw) _,
    fun h' => by simp at h'⟩

theorem Saver.DueBy.mono (h : svr.DueBy T) (hT : T ≤ T') : svr.DueBy T' :=
  fun c conn hc => (h c conn hc).mono hT

theorem Saver.DueBy.emit (h : svr.DueBy T) (fx : List Effect) : (svr.emit fx).DueBy T := h

theorem Saver.DueBy.setConn (h : svr.DueBy T) {v : Connection} (hv : v.DueBy T) (c : Nat) :
    (svr.setConn c v).DueBy T := by
  intro k conn hk
  rcases lookup_insert_cases hk with ⟨rfl, rfl⟩ | ⟨-, hk⟩
  exacts [hv, h k conn hk]

/-- one `queue`, whose two readings of the clock come no earlier than `T` -/
theorem Saver.DueBy.queue (h : svr.DueBy T) (msg : ParsedMessage) (env : World)
    (h1 : T ≤ env.ConnNow) (h2 : env.ConnNow ≤ env.Now) :
    (svr.queue msg env).1.DueBy env.Now := by
  rcases Saver.queue_cases svr msg env with ⟨hq, -⟩ | ⟨conn, hconn, hq⟩
  · rw [hq]; exact h.mono (h1.trans h2)
  -- the record found, or made by `newConnection`, then the expiry check
  have hc : conn.DueBy env.Now := by
    rcases hconn with hc | ⟨-, rfl⟩
    · exact (h _ conn hc).mono (h1.trans h2)
    · exact (newConnection_dueBy _ _ _).mono h2
  have he := hc.expire le_rfl (msg.cookie % svr.MarshalChans)
  have hs1 := ((h.mono (h1.trans h2)).emit
    (conn.expire (msg.cookie % svr.MarshalChans) env.Now).2).setConn he msg.cookie
  rw [hq, Saver.queueConn]
  rcases Saver.sendTask_cases _ _ msg.cookie _ msg env with ⟨w, -, hs⟩ | ⟨-, e, hs⟩ | ⟨hw, hs⟩ <;>
    rw [hs]
  · exact hs1.emit _
  · exact hs1.setConn he _
  · exact ((hs1.emit _).setConn (he.rotated hw _) _).emit _

theorem Saver.DueBy.endConns (h : svr.DueBy T) {svr' : Saver} {cookies : List Nat}
    (hs : svr.endConns cookies = .ok svr') : svr'.DueBy T :=
  fun c conn hc => h c conn ((Saver.endConns_frame hs).2.2.1 c conn hc)

end DueBy

namespace Saver

variable (classify : ParsedMessage → ParsedMessage → ChangeType)

/-- one input after readings `pre` of the clock: a record bound by every later reading stays
bound by every reading once the input is handled -/
theorem feed_dueBy {svr svr' : Saver} {pre : List Time} {i : Input}
    (hs : ∀ T, (∀ t ∈ pre, t ≤ T) → svr.DueBy T)
    (hsort : (pre ++ i.times).Pairwise (· ≤ ·)) (h : svr.feed classify i = .ok svr') :
    ∀ T, (∀ t ∈ pre ++ i.times, t ≤ T) → svr'.DueBy T := by
  intro T hT
  have hpre : ∀ t ∈ pre, t ≤ T := fun t ht => hT t (List.mem_append_left _ ht)
  match i, h with
  | .message (some pm) env, h =>
    cases h
    obtain ⟨-, hnow, hcross⟩ := List.pairwise_append.1 hsort
    have hc : svr.DueBy env.ConnNow := hs _ fun t ht => hcross t ht _ (by simp [Input.times])
    have h12 : env.ConnNow ≤ env.Now := by simpa [Input.times] using hnow
    have hN : env.Now ≤ T := hT _ (by simp [Input.times])
    rcases swapAndQueue_cases classify svr pm env with hq | hq <;> rw [hq]
    · exact hc.mono (h12.trans hN)
    · exact ((show DueBy env.ConnNow { svr with cache := (svr.cache.Update pm).2 } from hc).queue
        pm env le_rfl h12).mono hN
  | .message none _, h => cases h; exact hs T hpre
  | .endCycle, h =>
    simp only [feed] at h
    exact (show DueBy T { svr with cache := svr.cache.EndCycle.2 } from hs T hpre).endConns h

/-- **The expiration bound over a run.**  After any run whose readings of the clock never go
back, every record is `DueBy` every time no earlier than the readings so far. -/
theorem foldlM_feed_dueBy {inputs : List Input} {svr svr' : Saver} {pre : List Time}
    (hs : ∀ T, (∀ t ∈ pre, t ≤ T) → svr.DueBy T)
    (hsort : (pre ++ inputs.flatMap Input.times).Pairwise (· ≤ ·))
    (h : inputs.foldlM (feed classify) svr = .ok svr') :
    ∀ T, (∀ t ∈ pre ++ inputs.flatMap Input.times, t ≤ T) → svr'.DueBy T := by
  induction inputs generalizing svr pre with
  | nil => cases h; simpa only [List.flatMap_nil, List.append_nil] using hs
  | cons i l ih =>
    simp only [List.foldlM_cons, bind, Except.bind] at h
    split at h
    · cases h
    · rw [List.flatMap_cons, ← List.append_assoc] at hsort ⊢
      exact ih (feed_dueBy classify hs (List.pairwise_append.1 hsort).1 ‹_›) hsort h

theorem foldlM_feed_FileAgeLimit {inputs : List Input} {svr svr' : Saver}
    (h : inputs.foldlM (feed classify) svr = .ok svr') : svr'.FileAgeLimit = svr.FileAgeLimit := by
  induction inputs generalizing svr with
  | nil => cases h; rfl
  | cons i l ih =>
    simp only [List.foldlM_cons, bind, Except.bind] at h
    split at h
    · cases h
    · exact (ih h).trans (feed_FileAgeLimit classify ‹_›)

/-- a `queue` that opens a writer has rotated the record of the message's cookie, found or made,
which had no writer or whose writer the expiry check closed -/
theorem queue_newWriter {svr : Saver} {msg : ParsedMessage} {env : World} {w : Nat}
    {p : OutputPath} (hin : Effect.newWriter w p ∈ (svr.queue msg env).1.trace)
    (hout : Effect.newWriter w p ∉ svr.trace) :
    ∃ conn conn', (svr.Connections.lookup msg.cookie = some conn ∨
        svr.Connections.lookup msg.cookie = none ∧
          conn = newConnection msg.InetDiagMsg msg.Timestamp env.ConnNow) ∧
      (conn.Writer = none ∨ conn.Expiration < env.Now) ∧
      (svr.queue msg env).1.Connections.lookup msg.cookie = some conn' ∧
      conn'.Expiration = conn.Expiration + 10 * Minute := by
  rcases queue_cases svr msg env with ⟨hq, -⟩ | ⟨conn, hconn, hq⟩
  · rw [hq] at hin; exact absurd hin hout
  have hfx : Effect.newWriter w p ∉ (conn.expire (msg.cookie % svr.MarshalChans) env.Now).2 := by
    rcases Connection.expire_cases conn (msg.cookie % svr.MarshalChans) env.Now
      with he | ⟨_, -, he⟩ <;> simp [he]
  rw [hq, queueConn] at hin ⊢
  rcases sendTask_cases _ _ msg.cookie _ msg env with ⟨_, -, hs⟩ | ⟨-, e, hs⟩ | ⟨hw, hs⟩ <;>
    rw [hs] at hin ⊢
  · simp [hfx, hout] at hin
  · simp [hfx, hout] at hin
  · exact ⟨conn, _, hconn, Connection.expire_Writer_none hw, AList.lookup_insert _, by simp⟩

/-- **A new file is due the age limit after the previous one.**  In a run of a Saver made by
`NewSaver`, whose clock never goes back, let `swapAndQueue` handle a message at time
`t = env.Now` and open a writer: `Rotate` succeeded.  The record of the cookie is then due
`FileAgeLimit` after its previous due time (`newConnection`'s reading of the clock for a new
record), and so at most `t + FileAgeLimit`.  Nothing bounds it from below by `t`: a record
idle for longer than the age limit gets a file that is already due. -/
theorem queue_rotation_expiration (n : Nat) (pre : List Input) (svr : Saver)
    (hrun : pre.foldlM (feed classify) (NewSaver n) = .ok svr) (pm : ParsedMessage) (env : World)
    (hclock : ((pre ++ [Input.message (some pm) env]).flatMap Input.times).Pairwise (· ≤ ·))
    (w : Nat) (p : OutputPath)
    (hrot : Effect.newWriter w p ∈ (svr.swapAndQueue classify pm env).trace)
    (hnew : Effect.newWriter w p ∉ svr.trace) :
    ∃ conn, (svr.swapAndQueue classify pm env).Connections.lookup pm.cookie = some conn ∧
      conn.Expiration =
        ((svr.Connections.lookup pm.cookie).map Connection.Expiration).getD env.ConnNow +
          svr.FileAgeLimit ∧
      conn.Expiration ≤ env.Now + svr.FileAgeLimit := by
  have hlim : svr.FileAgeLimit = 10 * Minute := foldlM_feed_FileAgeLimit classify hrun
  rw [List.flatMap_append] at hclock
  obtain ⟨hpre, hnow, hcross⟩ := List.pairwise_append.1 hclock
  have h12 : env.ConnNow ≤ env.Now := by simpa [Input.times] using hnow
  have h0 : ∀ T, (∀ t ∈ ([] : List Time), t ≤ T) → (NewSaver n).DueBy T :=
    fun _ _ c conn h => by simp [NewSaver] at h
  have hdue : svr.DueBy env.ConnNow :=
    foldlM_feed_dueBy classify h0 (by simpa using hpre) hrun _
      fun t ht => hcross t (by simpa using ht) _ (by simp [Input.times])
  rcases swapAndQueue_cases classify svr pm env with hq | hq <;> rw [hq] at hrot ⊢
  · exact absurd hrot hnew
  obtain ⟨conn, conn', hconn, hwx, hl, he⟩ := queue_newWriter hrot hnew
  have hE : conn.Expiration ≤ env.Now := by
    rcases hconn with hc | ⟨hc, rfl⟩
    · rcases hwx with hw | hlt
      exacts [((hdue _ conn hc).2 hw).trans h12, hlt.le]
    · exact h12
  have hprev : ((svr.Connections.lookup pm.cookie).map Connection.Expiration).getD env.ConnNow =
      conn.Expiration := by
    rcases hconn with hc | ⟨hc, rfl⟩ <;> rw [hc] <;> rfl
  exact ⟨conn', hl, by rw [hprev, hlim, he], by rw [hlim, he]; exact Nat.add_le_add_right hE _⟩

end Saver

theorem queue_rotation_expiration_firstFile :
    ([] : List Saver.Input).foldlM (Saver.feed changedUnlessEqual) (NewSaver 1) =
        .ok (NewSaver 1) ∧
      (([] ++ [Saver.Input.message (some (establishedSnapshot 5 noon)) (okWorld noon)]).flatMap
        Saver.Input.times).Pairwise (· ≤ ·) ∧
      Effect.newWriter 0 ⟨(2019, 1, 1), 5, 0⟩ ∈ ((NewSaver 1).swapAndQueue changedUnlessEqual
        (establishedSnapshot 5 noon) (okWorld noon)).trace ∧
      Effect.newWriter 0 ⟨(2019, 1, 1), 5, 0⟩ ∉ (NewSaver 1).trace ∧
      ∃ conn, ((NewSaver 1).swapAndQueue changedUnlessEqual (establishedSnapshot 5 noon)
          (okWorld noon)).Connections.lookup (establishedSnapshot 5 noon).cookie = some conn ∧
        conn.Expiration = (((NewSaver 1).Connections.lookup (establishedSnapshot 5 noon).cookie).map
          Connection.Expiration).getD (okWorld noon).ConnNow + (NewSaver 1).FileAgeLimit ∧
        conn.Expiration ≤ (okWorld noon).Now + (NewSaver 1).FileAgeLimit :=
  ⟨rfl, by decide, by decide, by decide,
    Saver.queue_rotation_expiration changedUnlessEqual 1 [] (NewSaver 1) rfl _ _ (by decide) 0
      ⟨(2019, 1, 1), 5, 0⟩ (by decide) (by decide)⟩

/-- cookie 5 seen at noon, then changed 25 minutes later, more than one age limit on -/
def idleBatches : List (List (Option ParsedMessage × World)) :=
  [[(some (establishedSnapshot 5 noon), okWorld noon)],
   [(some (establishedSnapshot 5 (noon + 25 * Minute)), okWorld (noon + 25 * Minute))]]

/-- **A fresh file can be already due.**  With a clock that never goes back, the first snapshot
opens the file of sequence 0 at noon, due at 12:10; the changed snapshot at 12:25 finds it due,
closes it and opens the file of sequence 1 at `t` = 12:25, which is due at 12:20, before `t`. -/
theorem queue_rotates_into_expired_file :
    ((Saver.inputs idleBatches).flatMap Saver.Input.times).Pairwise (· ≤ ·) ∧
      ∃ svr, (NewSaver 1).saveBatches changedUnlessEqual idleBatches = .ok svr ∧
        openedPaths svr.trace = [⟨(2019, 1, 1), 5, 0⟩, ⟨(2019, 1, 1), 5, 1⟩] ∧
        ∃ conn, svr.Connections.lookup 5 = some conn ∧ conn.Expiration = noon + 20 * Minute :=
  ⟨by decide, _, rfl, rfl, _, rfl, rfl⟩

end TcpInfo
