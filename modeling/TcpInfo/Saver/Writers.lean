import TcpInfo.Saver.Records

/-!
# saver: the life of every writer in the Saver's trace

Projected on one writer `w`, the Saver's trace is the writer's life: `Rotate` opens it on a
path of some cookie `c` and writes its header, `queue` sends message tasks carrying it on
channel `c % N`, and one close task on the same channel ends it, sent by the expiry check of
`queue` or by `endConn`.  `Saver.WritersOk` states this for the trace so far and ties every open
writer to the record that holds it; every primitive action keeps it (`Act.writersOk`).

* `writerLog E w`            the effects of `E` that concern `w`, in order;
* `Opened`, `Closed`          the two shapes of a writer's life, before and after its close;
* `Saver.WritersOk`           the invariant;
* `MessageSaverLoop_trace`    after `MessageSaverLoop`, every writer's life is closed, every
                              task carries a writer, and the channels are closed last.
-/

set_option linter.unusedVariables false

namespace TcpInfo

/-! ## a writer's effects -/

/-- the effects of a trace that concern writer `w`, in order -/
def writerLog (E : List Effect) (w : Nat) : List Effect := E.filter (fun e => e.writer = some w)

/-- a message task for writer `w` on channel `q` -/
def msgTask (q w : Nat) (m : ParsedMessage) : Effect := .send q ⟨some m, some w⟩

/-- the close task for writer `w` on channel `q` -/
def closeTask (q w : Nat) : Effect := .send q ⟨none, some w⟩

@[simp] theorem writerLog_nil (w : Nat) : writerLog [] w = [] := rfl

@[simp] theorem writerLog_append (E F : List Effect) (w : Nat) :
    writerLog (E ++ F) w = writerLog E w ++ writerLog F w := List.filter_append _ _

@[simp] theorem writerLog_cons (e : Effect) (E : List Effect) (w : Nat) :
    writerLog (e :: E) w = if e.writer = some w then e :: writerLog E w else writerLog E w := by
  by_cases h : e.writer = some w <;> simp [writerLog, List.filter_cons, h]

@[simp] theorem Effect.writer_newWriter (w : Nat) (p : OutputPath) :
    (Effect.newWriter w p).writer = some w := rfl
@[simp] theorem Effect.writer_writeHeader (w : Nat) (md : Metadata) :
    (Effect.writeHeader w md).writer = some w := rfl
@[simp] theorem Effect.writer_send (q : Nat) (t : Task) : (Effect.send q t).writer = t.Writer := rfl
@[simp] theorem Effect.writer_closeChan (q : Nat) : (Effect.closeChan q).writer = none := rfl
@[simp] theorem Effect.writer_delete (c : Nat) : (Effect.delete c).writer = none := rfl

/-- writer `w`'s effects while a record holds it: opened on a path of cookie `c`, its header,
then message tasks on channel `c % N` -/
def Opened (N c w : Nat) (l : List Effect) : Prop :=
  ∃ (p : OutputPath) (md : Metadata) (ms : List ParsedMessage),
    p.cookie = c ∧ l = .newWriter w p :: .writeHeader w md :: ms.map (msgTask (c % N) w)

/-- writer `w`'s whole life: its effects while open, then its close task -/
def Closed (N c w : Nat) (l : List Effect) : Prop :=
  ∃ l' : List Effect, Opened N c w l' ∧ l = l' ++ [closeTask (c % N) w]

@[simp] theorem msgTask_writer (q w : Nat) (m : ParsedMessage) : (msgTask q w m).writer = some w :=
  rfl
@[simp] theorem closeTask_writer (q w : Nat) : (closeTask q w).writer = some w := rfl

/-- deletions concern no writer -/
theorem writerLog_deletes {G : List Effect} (hG : ∀ e ∈ G, ∃ k, e = .delete k) (w : Nat) :
    writerLog G w = [] :=
  List.filter_eq_nil_iff.2 fun e he => by obtain ⟨k, rfl⟩ := hG e he; simp

theorem Opened.ne_nil {N c w : Nat} {l : List Effect} (h : Opened N c w l) : l ≠ [] := by
  obtain ⟨p, md, ms, -, rfl⟩ := h; simp

/-- a writer is opened for one cookie only -/
theorem Opened.cookie_eq {N c c' w : Nat} {l : List Effect} (h : Opened N c w l)
    (h' : Opened N c' w l) : c = c' := by
  obtain ⟨p, md, ms, rfl, rfl⟩ := h
  obtain ⟨p', md', ms', rfl, h'⟩ := h'
  simp only [List.cons.injEq, Effect.newWriter.injEq] at h'
  rw [h'.1.2]

theorem Opened.snoc {N c w : Nat} {l : List Effect} (h : Opened N c w l) (m : ParsedMessage) :
    Opened N c w (l ++ [msgTask (c % N) w m]) := by
  obtain ⟨p, md, ms, hp, rfl⟩ := h
  exact ⟨p, md, ms ++ [m], hp, by simp⟩

/-! ## the invariant -/

/-- the writers of the trace so far: every writer a record holds is open for that record's
cookie, every other writer that was opened is closed, and names past the trace are unused -/
structure Saver.WritersOk (svr : Saver) : Prop where
  keyed : svr.Keyed
  fresh : ∀ w, svr.trace.length ≤ w → writerLog svr.trace w = []
  live : ∀ c conn w, svr.Connections.lookup c = some conn → conn.Writer = some w →
    Opened svr.MarshalChans c w (writerLog svr.trace w)
  ended : ∀ w, writerLog svr.trace w ≠ [] →
    (∃ c conn, svr.Connections.lookup c = some conn ∧ conn.Writer = some w) ∨
    ∃ c, Closed svr.MarshalChans c w (writerLog svr.trace w)
  sends : ∀ q t, Effect.send q t ∈ svr.trace → ∃ w, t.Writer = some w
  noClose : ∀ q, Effect.closeChan q ∉ svr.trace

namespace Saver.WritersOk

variable {s : Saver} (hs : s.WritersOk)
include hs

/-- two records never hold the same writer -/
theorem unique {c k : Nat} {conn conn' : Connection} {w : Nat}
    (hc : s.Connections.lookup c = some conn) (hw : conn.Writer = some w)
    (hk : s.Connections.lookup k = some conn') (hw' : conn'.Writer = some w) : k = c :=
  (hs.live k conn' w hk hw').cookie_eq (hs.live c conn w hc hw)

/-- a writer a record holds is named before the end of the trace -/
theorem lt {c : Nat} {conn : Connection} {w : Nat}
    (hc : s.Connections.lookup c = some conn) (hw : conn.Writer = some w) : w < s.trace.length :=
  Nat.lt_of_not_le fun h => (hs.live c conn w hc hw).ne_nil (hs.fresh w h)

/-- a state with the same trace and channels and the same records keeps the invariant -/
theorem of_lookup {s' : Saver} (htr : s'.trace = s.trace) (hN : s'.MarshalChans = s.MarshalChans)
    (hl : ∀ k, s'.Connections.lookup k = s.Connections.lookup k) : s'.WritersOk where
  keyed k v h := hs.keyed k v (by rwa [← hl])
  fresh w h := by rw [htr] at h ⊢; exact hs.fresh w h
  live k v w h hw := by rw [htr, hN]; exact hs.live k v w (by rwa [← hl]) hw
  ended w h := by
    simp only [htr, hN, hl] at h ⊢; exact hs.ended w h
  sends q t h := hs.sends q t (htr ▸ h)
  noClose q := htr ▸ hs.noClose q

/-- a message task on the writer of record `c` -/
theorem send {c : Nat} {conn : Connection} {w : Nat} (hc : s.Connections.lookup c = some conn)
    (hw : conn.Writer = some w) (m : ParsedMessage) :
    (s.emit [msgTask (c % s.MarshalChans) w m]).WritersOk := by
  have hlt := hs.lt hc hw
  have hlog : ∀ w', w' ≠ w →
      writerLog (s.emit [msgTask (c % s.MarshalChans) w m]).trace w' = writerLog s.trace w' :=
    fun w' h => by simp [Ne.symm h]
  refine ⟨hs.keyed, fun w' h => ?_, fun k v w' hk hw' => ?_, fun w' h => ?_, ?_, ?_⟩
  · simp only [emit_trace, List.length_append, List.length_singleton] at h
    rw [hlog w' (by omega)]; exact hs.fresh w' (by omega)
  · by_cases h' : w' = w
    · subst h'; obtain rfl := hs.unique hc hw hk hw'
      simpa using (hs.live k conn w' hc hw).snoc m
    · rw [hlog w' h']; exact hs.live k v w' hk hw'
  · by_cases h' : w' = w
    · exact .inl ⟨c, conn, hc, h' ▸ hw⟩
    · rw [hlog w' h'] at h ⊢; exact hs.ended w' h
  · intro q t ht
    simp only [emit_trace, List.mem_append, List.mem_singleton, msgTask] at ht
    rcases ht with ht | ht
    · exact hs.sends q t ht
    · cases ht; exact ⟨w, rfl⟩
  · intro q; simp [msgTask, hs.noClose q]

/-- the close task of the writer of record `c`, after which no record holds the writer: the
record loses its writer or is deleted -/
theorem closeWriter {c : Nat} {conn : Connection} {w : Nat}
    (hc : s.Connections.lookup c = some conn) (hw : conn.Writer = some w) {s' : Saver}
    (G : List Effect) (hG : ∀ e ∈ G, ∃ k, e = .delete k)
    (htr : s'.trace = s.trace ++ closeTask (c % s.MarshalChans) w :: G)
    (hN : s'.MarshalChans = s.MarshalChans) (hk : s'.Keyed)
    (hne : ∀ k, k ≠ c → s'.Connections.lookup k = s.Connections.lookup k)
    (hcw : ∀ v, s'.Connections.lookup c = some v → v.Writer = none) : s'.WritersOk := by
  have hlt := hs.lt hc hw
  have hlog : ∀ w', writerLog s'.trace w' =
      writerLog s.trace w' ++ if w = w' then [closeTask (c % s.MarshalChans) w] else [] := by
    intro w'; by_cases h : w = w' <;> simp [htr, h, writerLog_deletes hG]
  have old : ∀ k v w', s'.Connections.lookup k = some v → v.Writer = some w' →
      k ≠ c ∧ s.Connections.lookup k = some v := fun k v w' hk hw' => by
    by_cases hkc : k = c
    · subst hkc; rw [hcw v hk] at hw'; cases hw'
    · exact ⟨hkc, hne k hkc ▸ hk⟩
  refine ⟨hk, fun w' h => ?_, fun k v w' hk hw' => ?_, fun w' h => ?_, ?_, ?_⟩
  · rw [htr, List.length_append] at h
    rw [hlog, if_neg (by simp at h; omega)]; simpa using hs.fresh w' (by simp at h; omega)
  · obtain ⟨hkc, hk⟩ := old k v w' hk hw'
    have hww : w ≠ w' := fun h => hkc (hs.unique hc hw hk (h ▸ hw'))
    rw [hlog, if_neg hww, hN, List.append_nil]; exact hs.live k v w' hk hw'
  · rw [hN]
    by_cases hww : w = w'
    · subst hww
      exact .inr ⟨c, _, hs.live c conn w hc hw, by rw [hlog, if_pos rfl]⟩
    · rw [hlog, if_neg hww, List.append_nil] at h ⊢
      rcases hs.ended w' h with ⟨k, v, hk, hw'⟩ | hcl
      · have hkc : k ≠ c := fun hkc => hww (by
          subst hkc; rw [hc] at hk; cases hk; exact Option.some.inj (hw.symm.trans hw'))
        exact .inl ⟨k, v, by rw [hne k hkc]; exact hk, hw'⟩
      · exact .inr hcl
  · intro q t ht
    rw [htr, List.mem_append, List.mem_cons] at ht
    rcases ht with ht | ht | ht
    · exact hs.sends q t ht
    · cases ht; exact ⟨w, rfl⟩
    · obtain ⟨k, hk⟩ := hG _ ht; cases hk
  · intro q ht
    rw [htr, List.mem_append, List.mem_cons] at ht
    rcases ht with ht | ht | ht
    · exact hs.noClose q ht
    · cases ht
    · obtain ⟨k, hk⟩ := hG _ ht; cases hk

/-- a successful `Rotate` of record `c`, which has no writer: the new writer is named by the
length of the trace, which no effect concerns yet -/
theorem rotate {c : Nat} {conn : Connection} (hc : s.Connections.lookup c = some conn)
    (hw : conn.Writer = none) :
    ((s.emit [.newWriter s.trace.length conn.outputPath, conn.writeHeader s.trace.length]).setConn
      c (conn.rotated s.trace.length)).WritersOk := by
  have hpc : conn.outputPath.cookie = c := (hs.keyed c conn hc).1
  set L := s.trace.length
  have hlog : ∀ w', w' ≠ L → writerLog (s.trace ++ [.newWriter L conn.outputPath,
      conn.writeHeader L]) w' = writerLog s.trace w' :=
    fun w' h => by simp [Connection.writeHeader, Ne.symm h]
  refine ⟨(Act.rotate hc hw).keyed hs.keyed, fun w' h => ?_, fun k v w' hk hw' => ?_,
    fun w' h => ?_, ?_, ?_⟩
  · simp only [setConn_trace, emit_trace, List.length_append] at h
    rw [setConn_trace, emit_trace, hlog w' (by simp at h; omega)]
    exact hs.fresh w' (by simp at h; omega)
  · simp only [setConn_Connections, emit_Connections] at hk
    rcases lookup_insert_cases hk with ⟨rfl, rfl⟩ | ⟨hkc, hk⟩
    · simp only [Connection.rotated_Writer, Option.some.injEq] at hw'
      subst hw'
      refine ⟨conn.outputPath, ⟨conn.ID.Cookie, conn.Sequence, conn.StartTime⟩, [], hpc, ?_⟩
      simp [hs.fresh L le_rfl, Connection.writeHeader]
    · have hne : w' ≠ L := fun h => by have := hs.lt hk hw'; omega
      simp only [setConn_trace, emit_trace, setConn_MarshalChans, emit_MarshalChans]
      rw [hlog w' hne]; exact hs.live k v w' hk hw'
  · simp only [setConn_trace, emit_trace, setConn_MarshalChans, emit_MarshalChans,
      setConn_Connections, emit_Connections] at h ⊢
    by_cases hwL : w' = L
    · exact .inl ⟨c, _, AList.lookup_insert _, by simp [hwL]⟩
    · rw [hlog w' hwL] at h ⊢
      rcases hs.ended w' h with ⟨k, v, hk, hw'⟩ | hcl
      · have hkc : k ≠ c := by rintro rfl; rw [hc] at hk; cases hk; rw [hw] at hw'; cases hw'
        exact .inl ⟨k, v, by rw [AList.lookup_insert_ne hkc]; exact hk, hw'⟩
      · exact .inr hcl
  · intro q t ht
    simp only [setConn_trace, emit_trace, List.mem_append, List.mem_cons,
      Connection.writeHeader, List.mem_singleton, reduceCtorEq, or_false, List.not_mem_nil] at ht
    exact hs.sends q t ht
  · intro q ht
    simp only [setConn_trace, emit_trace, List.mem_append, List.mem_cons,
      Connection.writeHeader, List.mem_singleton, reduceCtorEq, or_false, List.not_mem_nil] at ht
    exact hs.noClose q ht

/-- a new record, without a writer, for a cookie that has none -/
theorem newConn {c : Nat} (hn : s.Connections.lookup c = none) {s' : Saver} (hk : s'.Keyed)
    (htr : s'.trace = s.trace) (hN : s'.MarshalChans = s.MarshalChans)
    (hl : ∀ k v, s'.Connections.lookup k = some v →
      (k = c ∧ v.Writer = none) ∨ s.Connections.lookup k = some v)
    (hne : ∀ k, k ≠ c → s'.Connections.lookup k = s.Connections.lookup k) : s'.WritersOk where
  keyed := hk
  fresh w h := by rw [htr] at h ⊢; exact hs.fresh w h
  live k v w h hw := by
    rcases hl k v h with ⟨-, hv⟩ | h
    · rw [hv] at hw; cases hw
    · rw [htr, hN]; exact hs.live k v w h hw
  ended w h := by
    rw [htr, hN] at *
    rcases hs.ended w h with ⟨k, v, hk, hw⟩ | hcl
    · have hkc : k ≠ c := by rintro rfl; rw [hn] at hk; cases hk
      exact .inl ⟨k, v, by rw [hne k hkc]; exact hk, hw⟩
    · exact .inr hcl
  sends q t h := hs.sends q t (htr ▸ h)
  noClose q := htr ▸ hs.noClose q

end Saver.WritersOk

theorem NewSaver_writersOk (n : Nat) : (NewSaver n).WritersOk where
  keyed := NewSaver_keyed n
  fresh _ _ := rfl
  live c conn w h := by simp [NewSaver] at h
  ended w h := absurd rfl h
  sends q t h := by simp [NewSaver] at h
  noClose q h := by simp [NewSaver] at h

theorem Saver.Act.writersOk {s s' : Saver} (h : Act s s') (hs : s.WritersOk) : s'.WritersOk := by
  have hk := h.keyed hs.keyed
  cases h with
  | @newConn c _ _ _ hn _ _ =>
    refine hs.newConn hn hk rfl rfl (fun k v hl => ?_) (fun k hkc => AList.lookup_insert_ne hkc)
    rcases lookup_insert_cases hl with ⟨rfl, rfl⟩ | ⟨-, hl⟩
    exacts [.inl ⟨rfl, rfl⟩, .inr hl]
  | @touch c conn hc =>
    refine hs.of_lookup rfl rfl (fun k => ?_)
    by_cases hkc : k = c
    · subst hkc; simp [hc]
    · simp [AList.lookup_insert_ne hkc]
  | @close c conn w hc hw =>
    exact hs.closeWriter hc hw [] (by simp) rfl rfl hk (fun k hkc => AList.lookup_insert_ne hkc)
      (fun v hv => by
        simp only [setConn_Connections, AList.lookup_insert] at hv; rw [← Option.some.inj hv])
  | rotate hc hw => exact hs.rotate hc hw
  | @send c conn w msg hc hw => exact hs.send hc hw msg
  | @endConn c conn w hc hw =>
    exact hs.closeWriter hc hw [.delete c] (by simp) (by simp [closeTask]) rfl hk
      (fun k hkc => AList.lookup_erase_ne hkc) (fun v hv => by simp [AList.lookup_erase] at hv)
  | cache => exact hs.of_lookup rfl rfl (fun _ => rfl)

theorem Saver.Acts.writersOk {s s' : Saver} (h : Acts s s') (hs : s.WritersOk) : s'.WritersOk :=
  h.preserve (fun _ _ ha => ha.writersOk) hs

/-! ## after `Close` -/

/-- `endConn` leaves its cookie's record without a writer and changes no other record -/
theorem Saver.endConn_record {s s' : Saver} {c : Nat} (h : s.endConn c = .ok s') :
    (∀ k, k ≠ c → s'.Connections.lookup k = s.Connections.lookup k) ∧
    ∀ v, s'.Connections.lookup c = some v → v.Writer = none := by
  have hN : 0 < s.MarshalChans := by
    apply Nat.pos_of_ne_zero; intro h0; rw [endConn_zero c h0] at h; cases h
  simp only [endConn, goUmod_of_pos hN, bind, Except.bind] at h
  cases hc : s.Connections.lookup c with
  | none =>
    simp only [hc] at h; cases h; exact ⟨fun _ _ => rfl, fun v hv => by rw [hc] at hv; cases hv⟩
  | some conn =>
    cases hw : conn.Writer with
    | none =>
      simp only [hc, hw] at h; cases h
      exact ⟨fun _ _ => rfl, fun v hv => by rw [hc] at hv; cases hv; exact hw⟩
    | some w =>
      simp only [hc, hw] at h; cases h
      exact ⟨fun k hk => AList.lookup_erase_ne hk,
        fun v hv => by simp [AList.lookup_erase] at hv⟩

/-- `endConn` over a list that covers every record holding a writer leaves no writer held -/
theorem Saver.endConns_noWriter {s s' : Saver} {l : List Nat} (h : s.endConns l = .ok s')
    (hl : ∀ c conn w, s.Connections.lookup c = some conn → conn.Writer = some w → c ∈ l) :
    ∀ c conn, s'.Connections.lookup c = some conn → conn.Writer = none := by
  induction l generalizing s with
  | nil =>
    cases h; intro c conn hc
    cases hw : conn.Writer with
    | none => rfl
    | some w => exact absurd (hl c conn w hc hw) (List.not_mem_nil c)
  | cons c0 l ih =>
    simp only [endConns, List.foldlM_cons, bind, Except.bind] at h
    split at h
    · cases h
    · rename_i s1 h1
      obtain ⟨hne, hc0⟩ := endConn_record h1
      refine ih h fun k conn w hk hw => ?_
      by_cases hkc : k = c0
      · subst hkc; rw [hc0 conn hk] at hw; cases hw
      · rw [hne k hkc] at hk
        exact (List.mem_cons.1 (hl k conn w hk hw)).resolve_left hkc

/-- what the marshallers rely on in the trace of a finished Saver: every writer's life is
closed, every task carries a writer, and the channels are closed after everything else -/
structure FinishedTrace (N : Nat) (E : List Effect) : Prop where
  closed : ∀ w, writerLog E w ≠ [] → ∃ c, Closed N c w (writerLog E w)
  sends : ∀ q t, Effect.send q t ∈ E → ∃ w, t.Writer = some w
  closesLast : ∃ E0, E = E0 ++ (List.range N).map .closeChan ∧ ∀ q, Effect.closeChan q ∉ E0

/-- **The Saver's side of the writer lifecycle.**  When the range loop of `Close` visits every
key, `MessageSaverLoop` leaves a finished trace: every writer it opened is closed. -/
theorem MessageSaverLoop_trace {classify : ParsedMessage → ParsedMessage → ChangeType}
    {rangeOrder : AList (fun _ : Nat => Connection) → List Nat}
    (hrange : ∀ m, ∀ c ∈ m.keys, c ∈ rangeOrder m) {n : Nat}
    {batches : List (List (Option ParsedMessage × World))} {svr : Saver}
    (h : (NewSaver n).MessageSaverLoop classify rangeOrder batches = .ok svr) :
    FinishedTrace n svr.trace := by
  obtain ⟨s0, s1, h0, h1, rfl⟩ := Saver.MessageSaverLoop_eq_ok h
  have hacts := (Saver.saveBatches_acts classify h0).trans (Saver.endConns_acts h1)
  have hs := hacts.writersOk (NewSaver_writersOk n)
  have hN : s1.MarshalChans = n := hacts.MarshalChans
  have hnone := Saver.endConns_noWriter h1 fun c conn w hc _ =>
    hrange _ c (AList.mem_keys.1 (AList.lookup_isSome.1 (by simp [hc])))
  have hlog : ∀ w, writerLog (s1.emit ((List.range s1.MarshalChans).map .closeChan)).trace w =
      writerLog s1.trace w := fun w => by
    simp only [Saver.emit_trace, writerLog_append, List.append_right_eq_self]
    exact List.filter_eq_nil_iff.2 fun e he => by
      obtain ⟨q, -, rfl⟩ := List.mem_map.1 he; simp
  refine ⟨fun w hw => ?_, fun q t ht => ?_, ⟨s1.trace, by simp [hN], hs.noClose⟩⟩
  · rw [hlog] at hw ⊢
    rcases hs.ended w hw with ⟨c, conn, hc, hw'⟩ | ⟨c, hcl⟩
    · rw [hnone c conn hc] at hw'; cases hw'
    · exact ⟨c, hN ▸ hcl⟩
  · simp only [Saver.emit_trace, List.mem_append, List.mem_map] at ht
    rcases ht with ht | ⟨q, -, hq⟩
    · exact hs.sends q t ht
    · cases hq

end TcpInfo
