import TcpInfo.Saver.Saver

/-!
# saver: the connection records over whole runs

What the map `svr.Connections` looks like after any run of the Saver, and where the source
departs from what its records are meant to be:

* `Saver.Keyed`                    every record is stored under its own non-zero cookie; it
                                   holds after every run (`Acts.keyed`);
* `saveBatches_keeps_unretained_record`   a record can outlive the cache entry of its cookie:
                                   `endConn` deletes a record only when it has a writer, and a
                                   failed `Rotate` leaves the record without one;
* `MessageSaverLoop_divides_by_zero`     with no marshaller, `endConn` computes
                                   `cookie % 0` for the first residual cookie;
* `Saver.PathsOk`, `MessageSaverLoop_paths_fresh`   within the life of one record no output
                                   path is opened twice; `MessageSaverLoop_reopens_path` shows
                                   the same path opened again after the record was ended.
-/

set_option linter.unusedVariables false

namespace TcpInfo

/-! ## how a primitive action changes the record map -/

section Lookup
variable {s : AList (fun _ : Nat => Connection)} {c k : Nat} {v v' : Connection}

theorem lookup_insert_cases (h : (s.insert c v).lookup k = some v') :
    (k = c ∧ v' = v) ∨ (k ≠ c ∧ s.lookup k = some v') := by
  by_cases hk : k = c
  · subst hk; simp only [AList.lookup_insert, Option.some.injEq] at h; exact .inl ⟨rfl, h.symm⟩
  · rw [AList.lookup_insert_ne hk] at h; exact .inr ⟨hk, h⟩

theorem lookup_erase_some (h : (s.erase c).lookup k = some v') :
    k ≠ c ∧ s.lookup k = some v' := by
  by_cases hk : k = c
  · subst hk; simp [AList.lookup_erase] at h
  · rw [AList.lookup_erase_ne hk] at h; exact ⟨hk, h⟩

end Lookup

/-! ## every record is stored under its own cookie -/

/-- every record is stored under its own cookie, and no record has cookie 0 -/
def Saver.Keyed (svr : Saver) : Prop :=
  ∀ c conn, svr.Connections.lookup c = some conn → conn.ID.Cookie = c ∧ 0 < c

theorem NewSaver_keyed (n : Nat) : (NewSaver n).Keyed := by
  intro c conn h; simp [NewSaver] at h

theorem Saver.Act.keyed {s s' : Saver} (h : Act s s') (hk : s.Keyed) : s'.Keyed := by
  intro k v hl
  cases h with
  | @newConn c _ _ _ _ hc h0 =>
    rcases lookup_insert_cases hl with ⟨rfl, rfl⟩ | ⟨-, hl⟩
    · exact ⟨hc, h0⟩
    · exact hk k v hl
  | @touch c conn hs =>
    rcases lookup_insert_cases hl with ⟨rfl, rfl⟩ | ⟨-, hl⟩
    exacts [hk k v hs, hk k v hl]
  | @close c conn _ hs _ =>
    rcases lookup_insert_cases hl with ⟨rfl, rfl⟩ | ⟨-, hl⟩
    exacts [hk k conn hs, hk k v hl]
  | @rotate c conn hs _ =>
    rcases lookup_insert_cases hl with ⟨rfl, rfl⟩ | ⟨-, hl⟩
    exacts [hk k conn hs, hk k v hl]
  | send => exact hk k v hl
  | endConn => exact hk k v (lookup_erase_some hl).2
  | cache => exact hk k v hl

theorem Saver.Acts.keyed {s s' : Saver} (h : Acts s s') (hk : s.Keyed) : s'.Keyed :=
  h.preserve (fun _ _ ha => ha.keyed) hk

/-! ## concrete runs -/

/-- noon, 1 January 2019 (UTC) -/
def noon : Time := 1546344000 * 1000000000

/-- a snapshot of an established IPv4 socket with cookie `k`, taken at `t`; the Saver reads only
its head -/
def establishedSnapshot (k : UInt8) (t : Time) : ParsedMessage :=
  ⟨t, [2, 1, 0, 0] ++ List.replicate 40 0 ++ [k] ++ List.replicate 27 0, []⟩

/-- a world in which the clock reads `t` and every file operation succeeds -/
def okWorld (t : Time) : World := ⟨t, t, true, true⟩

/-- a world in which the clock reads `t` and `os.MkdirAll` fails -/
def mkdirFails (t : Time) : World := ⟨t, t, false, true⟩

example : (establishedSnapshot 1 noon).cookie = 1 ∧
    (establishedSnapshot 1 noon).InetDiagMsg.IDiagState.toNat < TCPState_FIN_WAIT1 := by decide

/-! ## records that outlive their cache entry -/

set_option maxRecDepth 4000 in
/-- After a batch in which `Rotate` fails for cookie 1 and an empty batch, the cache has
reported cookie 1 residual and no longer retains it, but its record is still in the map:
`endConn` found it without a writer and deleted nothing. -/
theorem saveBatches_keeps_unretained_record
    (classify : ParsedMessage → ParsedMessage → ChangeType) :
    ∃ svr, (NewSaver 1).saveBatches classify
        [[(some (establishedSnapshot 1 noon), mkdirFails noon)], []] = .ok svr ∧
      svr.Connections.keys = [1] ∧ svr.cache.retained.lookup 1 = none :=
  ⟨_, rfl, rfl, rfl⟩

/-! ## no marshaller -/

/-- with no channel, `queue` refuses every message with a non-zero cookie -/
theorem queue_noMarshallers {svr : Saver} (h : svr.MarshalChans = 0) (msg : ParsedMessage)
    (hc : msg.cookie ≠ 0) (env : World) : svr.queue msg env = (svr, some .ErrNoMarshallers) := by
  simp [Saver.queue, h, hc]

set_option maxRecDepth 4000 in
/-- With no marshaller, a cookie seen in one batch and absent from the next is residual, and
`endConn` divides by `len(svr.MarshalChans) = 0` before it looks the cookie up. -/
theorem MessageSaverLoop_divides_by_zero
    (classify : ParsedMessage → ParsedMessage → ChangeType)
    (rangeOrder : AList (fun _ : Nat => Connection) → List Nat) :
    (NewSaver 0).MessageSaverLoop classify rangeOrder
      [[(some (establishedSnapshot 1 noon), okWorld noon)], []] = .error .divideByZero :=
  rfl

theorem saveBatches_keyed {classify : ParsedMessage → ParsedMessage → ChangeType} {n : Nat}
    {batches : List (List (Option ParsedMessage × World))} {svr : Saver}
    (h : (NewSaver n).saveBatches classify batches = .ok svr) : svr.Keyed :=
  (Saver.saveBatches_acts classify h).keyed (NewSaver_keyed n)

/-! ## output paths -/

section Index
variable {α : Type} {E F : List α} {i : Nat} {x : α}

theorem getElem?_append_of_some (h : E[i]? = some x) : (E ++ F)[i]? = some x := by
  rw [List.getElem?_append_left (List.getElem?_eq_some_iff.1 h).1, h]

theorem getElem?_append_some (h : (E ++ F)[i]? = some x) :
    E[i]? = some x ∨ (E.length ≤ i ∧ F[i - E.length]? = some x) := by
  by_cases hi : i < E.length
  · exact .inl (by rwa [List.getElem?_append_left hi] at h)
  · exact .inr ⟨by omega, by rwa [List.getElem?_append_right (by omega)] at h⟩

end Index

/-- the paths the trace's writers were opened on, in order -/
def openedPaths (E : List Effect) : List OutputPath :=
  E.filterMap fun e =>
    match e with
    | .newWriter _ p => some p
    | _ => none

/-- between two openings of one path stands the deletion of its cookie's record -/
def ReopensOnlyAfterDelete (E : List Effect) : Prop :=
  ∀ (i j w w' : Nat) (p : OutputPath), i < j →
    E[i]? = some (.newWriter w p) → E[j]? = some (.newWriter w' p) →
    ∃ k, i < k ∧ k < j ∧ E[k]? = some (.delete p.cookie)

/-- every path opened since its cookie's record was last deleted has a smaller sequence number
than that record -/
def Saver.PathsBehind (svr : Saver) : Prop :=
  ∀ (i w : Nat) (p : OutputPath), svr.trace[i]? = some (.newWriter w p) →
    (∃ k, i < k ∧ svr.trace[k]? = some (.delete p.cookie)) ∨
    ∃ conn, svr.Connections.lookup p.cookie = some conn ∧ p.Sequence < conn.Sequence

/-- the invariant of the output paths -/
structure Saver.PathsOk (svr : Saver) : Prop where
  keyed : svr.Keyed
  behind : svr.PathsBehind
  fresh : ReopensOnlyAfterDelete svr.trace

theorem NewSaver_pathsOk (n : Nat) : (NewSaver n).PathsOk := by
  refine ⟨NewSaver_keyed n, fun i w p h => ?_, fun i j w w' p _ h => ?_⟩ <;>
    simp [NewSaver] at h

/-- an action that opens nothing and keeps or advances every record's sequence number, unless
it deletes the record, keeps the path invariant -/
theorem Saver.PathsOk.step {s s' : Saver} (hs : s.PathsOk) (F : List Effect)
    (htr : s'.trace = s.trace ++ F) (hF : ∀ w p, Effect.newWriter w p ∉ F)
    (hmono : ∀ c conn, s.Connections.lookup c = some conn →
      (∃ conn', s'.Connections.lookup c = some conn' ∧ conn.Sequence ≤ conn'.Sequence) ∨
        Effect.delete c ∈ F)
    (hk : s'.Keyed) : s'.PathsOk := by
  have old : ∀ {i w : Nat} {p : OutputPath}, s'.trace[i]? = some (.newWriter w p) →
      s.trace[i]? = some (.newWriter w p) := fun {i w p} h => by
    rw [htr] at h
    rcases getElem?_append_some h with h | ⟨-, h⟩
    exacts [h, absurd (List.getElem?_mem h) (hF w p)]
  refine ⟨hk, fun i w p h => ?_, fun i j w w' p hij hi hj => ?_⟩
  · rcases hs.behind i w p (old h) with ⟨k, hik, hk⟩ | ⟨conn, hc, hlt⟩
    · exact .inl ⟨k, hik, htr ▸ getElem?_append_of_some hk⟩
    · rcases hmono _ conn hc with ⟨conn', hc', hle⟩ | hd
      · exact .inr ⟨conn', hc', by omega⟩
      · obtain ⟨m, hm⟩ := List.getElem?_of_mem hd
        have hi := (List.getElem?_eq_some_iff.1 (old h)).1
        refine .inl ⟨s.trace.length + m, by omega, ?_⟩
        rw [htr, List.getElem?_append_right (by omega)]
        simpa using hm
  · obtain ⟨k, hik, hkj, hk⟩ := hs.fresh i j w w' p hij (old hi) (old hj)
    exact ⟨k, hik, hkj, htr ▸ getElem?_append_of_some hk⟩

/-- storing a record whose sequence number is not behind the stored one -/
theorem lookup_insert_mono {m : AList (fun _ : Nat => Connection)} {c : Nat} {conn v : Connection}
    (hc : m.lookup c = some conn) (hv : conn.Sequence ≤ v.Sequence) (k : Nat) (conn' : Connection)
    (hk : m.lookup k = some conn') :
    ∃ conn'', (m.insert c v).lookup k = some conn'' ∧ conn'.Sequence ≤ conn''.Sequence := by
  by_cases hkc : k = c
  · subst hkc; rw [hc] at hk; cases hk; exact ⟨v, by simp, hv⟩
  · exact ⟨conn', by rw [AList.lookup_insert_ne hkc]; exact hk, le_rfl⟩

/-- a successful `Rotate` opens the record's current path, which no path opened since the
record was made has, and moves the record past it -/
theorem Saver.PathsOk.rotate {s : Saver} {c : Nat} {conn : Connection} (hs : s.PathsOk)
    (hc : s.Connections.lookup c = some conn) (hk : Keyed ((s.emit
      [.newWriter s.trace.length conn.outputPath, conn.writeHeader s.trace.length]).setConn c
        (conn.rotated s.trace.length))) :
    PathsOk ((s.emit [.newWriter s.trace.length conn.outputPath,
      conn.writeHeader s.trace.length]).setConn c (conn.rotated s.trace.length)) := by
  have hpc : conn.outputPath.cookie = c := (hs.keyed c conn hc).1
  have new : ∀ {i w p}, (s.trace ++ [.newWriter s.trace.length conn.outputPath,
      conn.writeHeader s.trace.length])[i]? = some (.newWriter w p) →
      s.trace[i]? = some (.newWriter w p) ∨ (i = s.trace.length ∧ p = conn.outputPath) :=
    fun {i w p} h => by
      rcases getElem?_append_some h with h | ⟨hi, h⟩
      · exact .inl h
      · obtain ⟨j, rfl⟩ : ∃ j, i = s.trace.length + j := ⟨i - s.trace.length, by omega⟩
        rcases j with _ | _ | j
        · simp only [Nat.add_zero, Nat.sub_self, List.getElem?_cons_zero, Option.some.injEq,
            Effect.newWriter.injEq] at h
          exact .inr ⟨rfl, h.2.symm⟩
        · simp [Connection.writeHeader] at h
        · simp at h
  refine ⟨hk, fun i w p h => ?_, fun i j w w' p hij hi hj => ?_⟩
  · rcases new h with h | ⟨-, rfl⟩
    · rcases hs.behind i w p h with ⟨k, hik, hk⟩ | ⟨conn', hc', hlt⟩
      · exact .inl ⟨k, hik, getElem?_append_of_some hk⟩
      · obtain ⟨v, hv, hle⟩ := lookup_insert_mono (v := conn.rotated s.trace.length) hc
          (by simp) _ _ hc'
        exact .inr ⟨v, hv, by omega⟩
    · exact .inr ⟨conn.rotated s.trace.length, by rw [hpc]; simp,
        by simp [Connection.outputPath]⟩
  · rcases new hj with hj | ⟨rfl, rfl⟩
    · rcases new hi with hi | ⟨rfl, -⟩
      · obtain ⟨k, hik, hkj, hk⟩ := hs.fresh i j w w' _ hij hi hj
        exact ⟨k, hik, hkj, getElem?_append_of_some hk⟩
      · exact absurd (List.getElem?_eq_some_iff.1 hj).1 (by omega)
    · rcases new hi with hi | ⟨rfl, -⟩
      · rcases hs.behind i w _ hi with ⟨k, hik, hk⟩ | ⟨conn', hc', hlt⟩
        · exact ⟨k, hik, (List.getElem?_eq_some_iff.1 hk).1, getElem?_append_of_some hk⟩
        · rw [hpc, hc] at hc'; cases hc'
          simp [Connection.outputPath] at hlt
      · omega

theorem Saver.Act.pathsOk {s s' : Saver} (h : Act s s') (hs : s.PathsOk) : s'.PathsOk := by
  have hk := h.keyed hs.keyed
  cases h with
  | @newConn c _ _ _ hn _ _ =>
    refine hs.step [] (by simp) (by simp) (fun k conn hl => .inl ⟨conn, ?_, le_rfl⟩) hk
    have hkc : k ≠ c := by rintro rfl; rw [hn] at hl; cases hl
    simpa [AList.lookup_insert_ne hkc] using hl
  | touch hc =>
    exact hs.step [] (by simp) (by simp)
      (fun k conn hl => .inl (lookup_insert_mono hc le_rfl k conn hl)) hk
  | @close _ conn _ hc _ =>
    exact hs.step _ rfl (by simp)
      (fun k v hl => .inl (lookup_insert_mono (v := { conn with Writer := none }) hc le_rfl k v hl))
      hk
  | rotate hc _ => exact hs.rotate hc hk
  | send => exact hs.step _ rfl (by simp) (fun k conn hl => .inl ⟨conn, hl, le_rfl⟩) hk
  | @endConn c _ _ _ _ =>
    refine hs.step _ rfl (by simp) (fun k conn hl => ?_) hk
    by_cases hkc : k = c
    · exact .inr (by simp [hkc])
    · exact .inl ⟨conn, by simpa [AList.lookup_erase_ne hkc] using hl, le_rfl⟩
  | cache => exact hs.step [] (by simp) (by simp) (fun k conn hl => .inl ⟨conn, hl, le_rfl⟩) hk

theorem Saver.Acts.pathsOk {s s' : Saver} (h : Acts s s') (hs : s.PathsOk) : s'.PathsOk :=
  h.preserve (fun _ _ ha => ha.pathsOk) hs

/-- **Within the life of one record no output path is opened twice.**  In every run of
`MessageSaverLoop`, two successful `Rotate` calls that open the same path have between them the
deletion of the record of the path's cookie. -/
theorem MessageSaverLoop_paths_fresh {classify : ParsedMessage → ParsedMessage → ChangeType}
    {rangeOrder : AList (fun _ : Nat => Connection) → List Nat} {n : Nat}
    {batches : List (List (Option ParsedMessage × World))} {svr : Saver}
    (h : (NewSaver n).MessageSaverLoop classify rangeOrder batches = .ok svr) :
    ReopensOnlyAfterDelete svr.trace := by
  obtain ⟨s0, s1, h0, h1, rfl⟩ := Saver.MessageSaverLoop_eq_ok h
  have hs := (Saver.endConns_acts h1).pathsOk
    ((Saver.saveBatches_acts classify h0).pathsOk (NewSaver_pathsOk n))
  have hc : (s1.emit ((List.range s1.MarshalChans).map .closeChan)).PathsOk :=
    hs.step _ rfl (by simp) (fun k conn hl => .inl ⟨conn, hl, le_rfl⟩) hs.keyed
  exact hc.fresh

/-- cookie 5 at noon, an empty batch, and cookie 5 again two minutes later -/
def reopenBatches : List (List (Option ParsedMessage × World)) :=
  [[(some (establishedSnapshot 5 noon), okWorld noon)], [],
    [(some (establishedSnapshot 5 (noon + 2 * Minute)), okWorld (noon + 2 * Minute))]]

set_option maxRecDepth 4000 in
theorem MessageSaverLoop_paths_fresh_reopenBatches :
    ∃ svr, (NewSaver 1).MessageSaverLoop (fun _ _ => .Other) AList.keys reopenBatches = .ok svr ∧
      ReopensOnlyAfterDelete svr.trace :=
  ⟨_, rfl, @MessageSaverLoop_paths_fresh (fun _ _ => .Other) AList.keys 1 reopenBatches _ rfl⟩

set_option maxRecDepth 4000 in
/-- The record of cookie 5 is ended when the cookie is residual after the empty batch; the
cookie's next snapshot, the same day, makes a record with `Sequence = 0`, and `Rotate` opens
`2019/01/01/<uuid(5)>.00000.jsonl.zst` a second time. -/
theorem MessageSaverLoop_reopens_path :
    ∃ svr, (NewSaver 1).MessageSaverLoop (fun _ _ => .Other) AList.keys reopenBatches = .ok svr ∧
      openedPaths svr.trace = [⟨(2019, 1, 1), 5, 0⟩, ⟨(2019, 1, 1), 5, 0⟩] :=
  ⟨_, rfl, rfl⟩

end TcpInfo
