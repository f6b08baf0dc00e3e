import TcpInfo.Saver.Inputs
import TcpInfo.Saver.Writers

/-!
# saver: what the files hold

Every file the Saver opens belongs to one connection record, and the snapshots it writes are the
ones it received.  Over every run:

* `sentMessages`, `Input.snapshot`   the snapshots of the message tasks of a trace, and the
                                     snapshot an input carries;
* `Saver.queue_trace`                what one `queue` adds to the trace: at most a close task,
                                     then nothing, a message task on the record's writer, or a
                                     new writer, its header and a message task on it;
* `MessageSaverLoop_sends_sublist`   the snapshots sent to the marshallers are a sublist of the
                                     snapshots received: none made up, repeated or reordered;
* `Effect.OwnedBy`, `FilesOwned`     an effect on a writer belongs in the file it was opened on;
* `MessageSaverLoop_files_owned`     every file's header names the file's cookie, sequence
                                     number and date, and every snapshot sent to it is of that
                                     cookie;
* `Saver.feed_one_open_file`         a connection never has two files open at once;
* `seqsSince`, `Saver.SeqsOk`        the sequence numbers opened for a cookie since its record
                                     was last deleted;
* `Saver.feed_sequences`             they are `0, 1, ..., k - 1` for a record at sequence `k`:
                                     no file of a record's life is skipped or opened twice.
-/

set_option linter.unusedVariables false

namespace TcpInfo

/-! ## the snapshots a trace sends -/

/-- the snapshot of a message task -/
def Effect.message : Effect → Option ParsedMessage
  | .send _ t => t.Message
  | _ => none

/-- the snapshots the effects `E` send to the marshallers, in order -/
def sentMessages (E : List Effect) : List ParsedMessage := E.filterMap Effect.message

@[simp] theorem sentMessages_append (E F : List Effect) :
    sentMessages (E ++ F) = sentMessages E ++ sentMessages F := List.filterMap_append _ _ _

/-- the snapshot an input carries -/
def Saver.Input.snapshot : Saver.Input → Option ParsedMessage
  | .message m _ => m
  | .endCycle => none

/-- the snapshots of the inputs of some batches are the non-nil messages of the batches -/
theorem Saver.inputs_snapshot (batches : List (List (Option ParsedMessage × World))) :
    (Saver.inputs batches).filterMap Saver.Input.snapshot = batches.flatten.filterMap Prod.fst := by
  induction batches with
  | nil => rfl
  | cons b l ih =>
    rw [Saver.inputs, List.flatMap_cons, ← Saver.inputs, List.filterMap_append,
      List.filterMap_append, ih, List.flatten_cons, List.filterMap_append, List.filterMap_map]
    simp [Function.comp_def, Saver.Input.snapshot]

/-! ## effects that concern no file's content -/

/-- a close task, a deletion or a channel close: an effect that opens no writer, writes no header
and sends no snapshot -/
def Effect.Inert : Effect → Prop
  | .send _ ⟨none, _⟩ => True
  | .delete _ => True
  | .closeChan _ => True
  | _ => False

theorem sentMessages_inert {F : List Effect} (hF : ∀ e ∈ F, e.Inert) : sentMessages F = [] :=
  List.filterMap_eq_nil_iff.2 fun e he => by
    have := hF e he
    rcases e with _ | _ | ⟨_, _ | _, _⟩ | _ | _ <;> first | rfl | exact this.elim

namespace Saver

/-- `endConn` on a list adds close tasks and deletions only -/
theorem endConns_inert {svr svr' : Saver} {l : List Nat} (h : svr.endConns l = .ok svr') :
    ∃ F, svr'.trace = svr.trace ++ F ∧ ∀ e ∈ F, e.Inert := by
  induction l generalizing svr with
  | nil => cases h; exact ⟨[], by simp, by simp⟩
  | cons c l ih =>
    simp only [endConns, List.foldlM_cons, bind, Except.bind] at h
    split at h
    · cases h
    · obtain ⟨F, hF, hi⟩ := ih h
      rcases endConn_trace ‹_› with h1 | ⟨q, w, h1⟩
      · exact ⟨F, by rw [hF, h1], hi⟩
      · refine ⟨[.send q ⟨none, some w⟩, .delete c] ++ F, by rw [hF, h1, List.append_assoc],
          fun e he => ?_⟩
        rcases List.mem_append.1 he with he | he
        · simp only [List.mem_cons, List.mem_singleton, List.not_mem_nil, or_false] at he
          rcases he with rfl | rfl <;> trivial
        · exact hi e he

/-- `MessageSaverLoop` is `feed` over the inputs of its batches, then inert effects: the close
tasks and deletions of the range loop of `Close`, and the channels closed -/
theorem MessageSaverLoop_inputs {classify : ParsedMessage → ParsedMessage → ChangeType}
    {rangeOrder : AList (fun _ : Nat => Connection) → List Nat} {svr svr' : Saver}
    {batches : List (List (Option ParsedMessage × World))}
    (h : svr.MessageSaverLoop classify rangeOrder batches = .ok svr') :
    ∃ s0 F, (inputs batches).foldlM (feed classify) svr = .ok s0 ∧ svr'.trace = s0.trace ++ F ∧
      ∀ e ∈ F, e.Inert := by
  obtain ⟨s0, s1, h0, h1, rfl⟩ := MessageSaverLoop_eq_ok h
  obtain ⟨F, hF, hi⟩ := endConns_inert h1
  refine ⟨s0, F ++ (List.range s1.MarshalChans).map .closeChan,
    by rw [← saveBatches_eq_foldlM_feed]; exact h0, by simp [hF], fun e he => ?_⟩
  rcases List.mem_append.1 he with he | he
  · exact hi e he
  · obtain ⟨q, -, rfl⟩ := List.mem_map.1 he; trivial

/-! ## what one `queue` sends -/

/-- **What `queue` adds to the trace.**  At most the close task of the writer the record of the
message's cookie holds; then nothing, or a message task carrying the message on the writer that
record holds, or a writer named by the length of the trace so far opened on the path of a record
of the cookie, its header, and a message task carrying the message on it. -/
theorem queue_trace (svr : Saver) (msg : ParsedMessage) (env : World) (hk : svr.Keyed) :
    ∃ F G, (svr.queue msg env).1.trace = svr.trace ++ F ++ G ∧
      (F = [] ∨ ∃ q conn w, svr.Connections.lookup msg.cookie = some conn ∧
        conn.Writer = some w ∧ F = [.send q ⟨none, some w⟩]) ∧
      (G = [] ∨
        (∃ q conn w, svr.Connections.lookup msg.cookie = some conn ∧ conn.Writer = some w ∧
          G = [.send q ⟨some msg, some w⟩]) ∨
        ∃ (q : Nat) (conn : Connection), conn.ID.Cookie = msg.cookie ∧
          G = [.newWriter (svr.trace ++ F).length conn.outputPath,
            conn.writeHeader (svr.trace ++ F).length,
            .send q ⟨some msg, some (svr.trace ++ F).length⟩]) := by
  rcases queue_cases svr msg env with ⟨h, -⟩ | ⟨conn, hconn, h⟩
  · exact ⟨[], [], by rw [h]; simp, .inl rfl, .inl rfl⟩
  have hid : conn.ID.Cookie = msg.cookie := by
    rcases hconn with hc | ⟨-, rfl⟩
    · exact (hk _ _ hc).1
    · rfl
  have hfound : ∀ w, conn.Writer = some w → svr.Connections.lookup msg.cookie = some conn := by
    rintro w hw
    rcases hconn with hc | ⟨-, rfl⟩
    · exact hc
    · cases hw
  rw [h, queueConn]
  set q := msg.cookie % svr.MarshalChans
  rcases Connection.expire_cases conn q env.Now with he | ⟨w, hw, he⟩
  · rw [he]
    rcases sendTask_cases ((svr.emit []).setConn msg.cookie conn) q msg.cookie conn msg env with
      ⟨w', hw', hs⟩ | ⟨-, e, hs⟩ | ⟨-, hs⟩ <;> rw [hs]
    · exact ⟨[], [.send q ⟨some msg, some w'⟩], by simp, .inl rfl,
        .inr (.inl ⟨q, conn, w', hfound w' hw', hw', rfl⟩)⟩
    · exact ⟨[], [], by simp, .inl rfl, .inl rfl⟩
    · exact ⟨[], _, by simp, .inl rfl, .inr (.inr ⟨q, conn, hid, rfl⟩)⟩
  · rw [he]
    set conn' := { conn with Writer := none }
    rcases sendTask_cases ((svr.emit [.send q ⟨none, some w⟩]).setConn msg.cookie conn') q
        msg.cookie conn' msg env with ⟨w', hw', hs⟩ | ⟨-, e, hs⟩ | ⟨-, hs⟩ <;> rw [hs]
    · cases hw'
    · exact ⟨_, [], by simp, .inr ⟨q, conn, w, hfound w hw, hw, rfl⟩, .inl rfl⟩
    · exact ⟨_, _, by simp, .inr ⟨q, conn, w, hfound w hw, hw, rfl⟩,
        .inr (.inr ⟨q, conn', hid, rfl⟩)⟩

variable (classify : ParsedMessage → ParsedMessage → ChangeType)

/-! ## the snapshots sent are a sublist of those received -/

/-- `queue` sends at most its message -/
theorem queue_sentMessages (svr : Saver) (msg : ParsedMessage) (env : World) (hk : svr.Keyed) :
    ∃ X, sentMessages (svr.queue msg env).1.trace = sentMessages svr.trace ++ X ∧ X.Sublist [msg] := by
  obtain ⟨F, G, htr, hF, hG⟩ := queue_trace svr msg env hk
  have hF' : sentMessages F = [] := by rcases hF with rfl | ⟨q, conn, w, -, -, rfl⟩ <;> rfl
  rw [htr, sentMessages_append, sentMessages_append, hF', List.append_nil]
  rcases hG with rfl | ⟨q, conn, w, -, -, rfl⟩ | ⟨q, conn, -, rfl⟩
  · exact ⟨[], rfl, List.nil_sublist _⟩
  · exact ⟨[msg], rfl, List.Sublist.refl _⟩
  · exact ⟨[msg], rfl, List.Sublist.refl _⟩

/-- one input sends at most the snapshot it carries -/
theorem feed_sentMessages {svr svr' : Saver} {i : Input} (hk : svr.Keyed)
    (h : svr.feed classify i = .ok svr') :
    ∃ X, sentMessages svr'.trace = sentMessages svr.trace ++ X ∧
      X.Sublist ([i].filterMap Input.snapshot) := by
  match i, h with
  | .message (some pm) env, h =>
    cases h
    rcases swapAndQueue_cases classify svr pm env with h | h <;> rw [h]
    · exact ⟨[], by simp, List.nil_sublist _⟩
    · exact queue_sentMessages _ pm env hk
  | .message none _, h => cases h; exact ⟨[], by simp, List.nil_sublist _⟩
  | .endCycle, h =>
    obtain ⟨F, hF, hi⟩ := endConns_inert h
    exact ⟨[], by rw [hF, sentMessages_append, sentMessages_inert hi], List.nil_sublist _⟩

/-- at every point of every run, the snapshots sent are a sublist of the snapshots received -/
theorem foldlM_feed_sentMessages (n : Nat) {pre : List Input} {svr : Saver}
    (h : pre.foldlM (feed classify) (NewSaver n) = .ok svr) :
    (sentMessages svr.trace).Sublist (pre.filterMap Input.snapshot) := by
  have := foldlM_feed_induction classify
    (P := fun pre s => s.Keyed ∧ (sentMessages s.trace).Sublist (pre.filterMap Input.snapshot))
    (fun pre s i s' hs hf => ⟨(feed_acts classify hf).keyed hs.1, by
      obtain ⟨X, hX, hXs⟩ := feed_sentMessages classify hs.1 hf
      rw [hX, List.filterMap_append]
      exact hs.2.append hXs⟩) [] ⟨NewSaver_keyed n, List.nil_sublist _⟩ h
  simpa using this.2

end Saver

/-- **The snapshots sent are a sublist of the snapshots received.**  In every run of
`MessageSaverLoop`, the snapshots of the tasks sent to the marshallers, in the order sent, are a
sublist of the non-nil snapshots of the batches, in the order received: the Saver sends no
snapshot it did not receive, none twice, and none out of order. -/
theorem MessageSaverLoop_sends_sublist (classify : ParsedMessage → ParsedMessage → ChangeType)
    (rangeOrder : AList (fun _ : Nat => Connection) → List Nat) (n : Nat)
    (batches : List (List (Option ParsedMessage × World))) (svr : Saver)
    (h : (NewSaver n).MessageSaverLoop classify rangeOrder batches = .ok svr) :
    (sentMessages svr.trace).Sublist (batches.flatten.filterMap Prod.fst) := by
  obtain ⟨s0, F, h0, htr, hF⟩ := Saver.MessageSaverLoop_inputs h
  rw [htr, sentMessages_append, sentMessages_inert hF, List.append_nil, ← Saver.inputs_snapshot]
  exact Saver.foldlM_feed_sentMessages classify n h0

set_option maxRecDepth 4000 in
theorem MessageSaverLoop_sends_sublist_reopenBatches :
    ∃ svr, (NewSaver 1).MessageSaverLoop (fun _ _ => .Other) AList.keys reopenBatches = .ok svr ∧
      (sentMessages svr.trace).Sublist (reopenBatches.flatten.filterMap Prod.fst) :=
  ⟨_, rfl, MessageSaverLoop_sends_sublist (fun _ _ => .Other) AList.keys 1 reopenBatches _ rfl⟩

/-! ## every file belongs to one connection -/

/-- an effect on a writer that belongs in the file opened on path `p`: a header naming the
path's cookie, sequence number and date, or a snapshot of the path's cookie -/
def Effect.OwnedBy (p : OutputPath) : Effect → Prop
  | .writeHeader _ md =>
    md.UUID = p.cookie ∧ md.Sequence = p.Sequence ∧ civilDate md.StartTime = p.datePath
  | .send _ ⟨some m, _⟩ => m.cookie = p.cookie
  | _ => True

theorem Effect.ownedBy_of_inert {e : Effect} (h : e.Inert) (p : OutputPath) : e.OwnedBy p := by
  match e, h with
  | .send _ ⟨none, _⟩, _ => trivial
  | .delete _, _ => trivial
  | .closeChan _, _ => trivial

/-- every effect on a writer belongs in the file the writer was opened on -/
def FilesOwned (E : List Effect) : Prop :=
  ∀ w p, Effect.newWriter w p ∈ E → ∀ e ∈ E, e.writer = some w → e.OwnedBy p

theorem FilesOwned.append {E F : List Effect} (hE : FilesOwned E)
    (hnew : ∀ w p, Effect.newWriter w p ∈ F → ∀ e ∈ E ++ F, e.writer = some w → e.OwnedBy p)
    (hold : ∀ w p, Effect.newWriter w p ∈ E → ∀ e ∈ F, e.writer = some w → e.OwnedBy p) :
    FilesOwned (E ++ F) := by
  intro w p hw e he hew
  rcases List.mem_append.1 hw with hw | hw
  · rcases List.mem_append.1 he with he | he
    exacts [hE w p hw e he hew, hold w p hw e he hew]
  · exact hnew w p hw e he hew

theorem FilesOwned.inert {E F : List Effect} (hE : FilesOwned E) (hF : ∀ e ∈ F, e.Inert) :
    FilesOwned (E ++ F) :=
  hE.append (fun w p hw => (hF _ hw).elim)
    (fun w p _ e he _ => Effect.ownedBy_of_inert (hF e he) p)

namespace Saver.WritersOk

variable {s : Saver} (hs : s.WritersOk)
include hs

/-- a writer a record holds was opened on a path of the record's cookie -/
theorem path_cookie {c w : Nat} {conn : Connection} {p : OutputPath}
    (hc : s.Connections.lookup c = some conn) (hw : conn.Writer = some w)
    (hp : Effect.newWriter w p ∈ s.trace) : p.cookie = c := by
  obtain ⟨p', md, ms, hp', hl⟩ := hs.live c conn w hc hw
  have hm : Effect.newWriter w p ∈ writerLog s.trace w := List.mem_filter.2 ⟨hp, by simp⟩
  rw [hl] at hm
  simp only [List.mem_cons, Effect.newWriter.injEq, true_and, reduceCtorEq, List.mem_map,
    msgTask, and_false, exists_false, or_false] at hm
  rw [hm, hp']

/-- no effect of the trace concerns a writer named past its end -/
theorem writer_ne {e : Effect} (he : e ∈ s.trace) {w : Nat} (hw : s.trace.length ≤ w) :
    e.writer ≠ some w := by
  intro h
  have hm : e ∈ writerLog s.trace w := List.mem_filter.2 ⟨he, by simp [h]⟩
  rw [hs.fresh w hw] at hm
  cases hm

end Saver.WritersOk

namespace Saver

/-- `queue` keeps every file its own: a message task goes to a writer opened for the message's
cookie, and a new writer gets the header of its own path -/
theorem queue_filesOwned {svr : Saver} (hs : svr.WritersOk) (ho : FilesOwned svr.trace)
    (msg : ParsedMessage) (env : World) : FilesOwned (svr.queue msg env).1.trace := by
  obtain ⟨F, G, htr, hF, hG⟩ := queue_trace svr msg env hs.keyed
  have hFi : ∀ e ∈ F, e.Inert := by
    rcases hF with rfl | ⟨q, conn, w, -, -, rfl⟩ <;> simp [Effect.Inert]
  have h1 := ho.inert hFi
  rw [htr]
  rcases hG with rfl | ⟨q, conn, w, hc, hw, rfl⟩ | ⟨q, conn, hid, rfl⟩
  · simpa using h1
  · refine h1.append (fun w' p hp => by simp at hp) (fun w' p hp e he hew => ?_)
    simp only [List.mem_singleton] at he
    subst he
    simp only [Effect.writer_send, Option.some.injEq] at hew
    subst hew
    have hp' : Effect.newWriter w p ∈ svr.trace := by
      rcases List.mem_append.1 hp with hp | hp
      · exact hp
      · exact (hFi _ hp).elim
    exact (hs.path_cookie hc hw hp').symm
  · set L := (svr.trace ++ F).length
    have hfresh : ∀ e ∈ svr.trace ++ F, e.writer ≠ some L := by
      intro e he
      rcases List.mem_append.1 he with he | he
      · exact hs.writer_ne he (by simp [L])
      · rcases hF with rfl | ⟨q, conn, w, hc, hw, rfl⟩
        · cases he
        · simp only [List.mem_singleton] at he
          subst he
          have := hs.lt hc hw
          simp [L]; omega
    refine h1.append (fun w p hp e he hew => ?_) (fun w p hp e he hew => ?_)
    · simp only [List.mem_cons, Effect.newWriter.injEq, Connection.writeHeader, reduceCtorEq,
        List.mem_singleton, List.not_mem_nil, or_false] at hp
      obtain ⟨rfl, rfl⟩ := hp
      rcases List.mem_append.1 he with he | he
      · exact absurd hew (hfresh e he)
      · simp only [List.mem_cons, List.mem_singleton, List.not_mem_nil, or_false] at he
        rcases he with rfl | rfl | rfl
        · trivial
        · exact ⟨rfl, rfl, rfl⟩
        · exact hid.symm
    · simp only [List.mem_cons, List.mem_singleton, List.not_mem_nil, or_false] at he
      have hwL : w = L := by
        rcases he with rfl | rfl | rfl <;> simpa [Connection.writeHeader, eq_comm] using hew
      exact absurd (by simp [hwL]) (hfresh _ hp)

variable (classify : ParsedMessage → ParsedMessage → ChangeType)

/-- every input keeps every file its own -/
theorem feed_filesOwned {svr svr' : Saver} {i : Input} (hs : svr.WritersOk)
    (ho : FilesOwned svr.trace) (h : svr.feed classify i = .ok svr') : FilesOwned svr'.trace := by
  match i, h with
  | .message (some pm) env, h =>
    cases h
    rcases swapAndQueue_cases classify svr pm env with h | h <;> rw [h]
    · exact ho
    · exact queue_filesOwned (show ({ svr with cache := (svr.cache.Update pm).2 } : Saver).WritersOk
        from hs.of_lookup rfl rfl fun _ => rfl) ho pm env
  | .message none _, h => cases h; exact ho
  | .endCycle, h =>
    obtain ⟨F, hF, hi⟩ := endConns_inert h
    rw [hF]; exact ho.inert hi

end Saver

/-- **Every file holds only its own connection's data.**  In every run of `MessageSaverLoop`, for
every writer `w` that `Rotate` opened on a path `p`: the header written to `w` carries `p`'s
cookie (the file's UUID), `p`'s sequence number and a start time on `p`'s date, and every
snapshot sent to `w` is a snapshot of `p`'s cookie. -/
theorem MessageSaverLoop_files_owned (classify : ParsedMessage → ParsedMessage → ChangeType)
    (rangeOrder : AList (fun _ : Nat => Connection) → List Nat) (n : Nat)
    (batches : List (List (Option ParsedMessage × World))) (svr : Saver)
    (h : (NewSaver n).MessageSaverLoop classify rangeOrder batches = .ok svr)
    (w : Nat) (p : OutputPath) (hw : Effect.newWriter w p ∈ svr.trace) :
    (∀ md, Effect.writeHeader w md ∈ svr.trace →
      md.UUID = p.cookie ∧ md.Sequence = p.Sequence ∧ civilDate md.StartTime = p.datePath) ∧
    ∀ q m, Effect.send q ⟨some m, some w⟩ ∈ svr.trace → m.cookie = p.cookie := by
  obtain ⟨s0, F, h0, htr, hF⟩ := Saver.MessageSaverLoop_inputs h
  have := Saver.foldlM_feed_induction classify
    (P := fun _ s => s.WritersOk ∧ FilesOwned s.trace)
    (fun _ s i s' hs hf => ⟨(Saver.feed_acts classify hf).writersOk hs.1,
      Saver.feed_filesOwned classify hs.1 hs.2 hf⟩) []
    ⟨NewSaver_writersOk n, fun w p hp => by simp [NewSaver] at hp⟩ h0
  have ho : FilesOwned svr.trace := htr ▸ this.2.inert hF
  exact ⟨fun md hmd => ho w p hw _ hmd rfl, fun q m hm => ho w p hw _ hm rfl⟩

set_option maxRecDepth 4000 in
theorem MessageSaverLoop_files_owned_reopenBatches :
    ∃ svr, (NewSaver 1).MessageSaverLoop (fun _ _ => .Other) AList.keys reopenBatches = .ok svr ∧
      Effect.newWriter 0 ⟨(2019, 1, 1), 5, 0⟩ ∈ svr.trace ∧
      (∀ md, Effect.writeHeader 0 md ∈ svr.trace →
        md.UUID = 5 ∧ md.Sequence = 0 ∧ civilDate md.StartTime = (2019, 1, 1)) ∧
      ∀ q m, Effect.send q ⟨some m, some 0⟩ ∈ svr.trace → m.cookie = 5 :=
  ⟨_, rfl, by decide, MessageSaverLoop_files_owned (fun _ _ => .Other) AList.keys 1 reopenBatches
    _ rfl 0 ⟨(2019, 1, 1), 5, 0⟩ (by decide)⟩

/-! ## one open file per connection -/

/-- one effect on the sequence numbers opened for cookie `c` since its record was last deleted -/
def seqStep (c : Nat) (acc : List Nat) : Effect → List Nat
  | .newWriter _ p => if p.cookie = c then acc ++ [p.Sequence] else acc
  | .delete k => if k = c then [] else acc
  | _ => acc

/-- the sequence numbers of the paths opened for cookie `c` since its record was last deleted,
in the order opened -/
def seqsSince (c : Nat) (E : List Effect) : List Nat := E.foldl (seqStep c) []

@[simp] theorem seqsSince_append (c : Nat) (E F : List Effect) :
    seqsSince c (E ++ F) = F.foldl (seqStep c) (seqsSince c E) := List.foldl_append _ _ _ _

/-- the sequence number the record of cookie `c` opens next; 0 when there is no record -/
def Saver.nextSeq (svr : Saver) (c : Nat) : Nat :=
  ((svr.Connections.lookup c).map Connection.Sequence).getD 0

/-- the sequence numbers opened for every cookie since its record was last deleted count up to
the record's own -/
def Saver.SeqsOk (svr : Saver) : Prop := ∀ c, seqsSince c svr.trace = List.range (svr.nextSeq c)

theorem NewSaver_seqsOk (n : Nat) : (NewSaver n).SeqsOk := fun _ => rfl

theorem Saver.Act.seqsOk {s s' : Saver} (h : Act s s') (hk : s.Keyed) (hs : s.SeqsOk) :
    s'.SeqsOk := by
  intro k
  cases h with
  | @newConn c _ _ _ hn _ _ =>
    by_cases hkc : k = c
    · subst hkc; simpa [Saver.nextSeq, hn] using hs k
    · simpa [Saver.nextSeq, AList.lookup_insert_ne hkc] using hs k
  | @touch c conn hc =>
    by_cases hkc : k = c
    · subst hkc; simpa [Saver.nextSeq, hc] using hs k
    · simpa [Saver.nextSeq, AList.lookup_insert_ne hkc] using hs k
  | @close c conn w hc _ =>
    by_cases hkc : k = c
    · subst hkc; simpa [Saver.nextSeq, hc, seqStep] using hs k
    · simpa [Saver.nextSeq, AList.lookup_insert_ne hkc, seqStep] using hs k
  | @rotate c conn hc _ =>
    have hpc : conn.outputPath.cookie = c := (hk c conn hc).1
    by_cases hkc : k = c
    · subst hkc
      simp [Saver.nextSeq, hc, seqStep, hpc, Connection.writeHeader, hs k, List.range_succ,
        Connection.outputPath, (hk k conn hc).1]
    · simpa [Saver.nextSeq, AList.lookup_insert_ne hkc, seqStep, hpc, Ne.symm hkc,
        Connection.writeHeader] using hs k
  | send => simpa [Saver.nextSeq, seqStep] using hs k
  | @endConn c conn w hc _ =>
    by_cases hkc : k = c
    · subst hkc; simp [Saver.nextSeq, seqStep]
    · simpa [Saver.nextSeq, AList.lookup_erase_ne hkc, seqStep, Ne.symm hkc] using hs k
  | cache => exact hs k

/-- **The files of a record are numbered 0, 1, 2, ... with no gap and no repeat.**  At every point
of every run, the sequence numbers of the paths opened for a cookie since its record was last
deleted are exactly `0, 1, ..., k - 1`, in the order the files were opened, where `k` is the
sequence number of the cookie's record (0 when it has none). -/
theorem Saver.feed_sequences (classify : ParsedMessage → ParsedMessage → ChangeType) (n : Nat)
    (pre : List Saver.Input) (svr : Saver)
    (h : pre.foldlM (Saver.feed classify) (NewSaver n) = .ok svr) (c : Nat) :
    seqsSince c svr.trace =
      List.range (((svr.Connections.lookup c).map Connection.Sequence).getD 0) :=
  ((Saver.foldlM_feed_acts classify h).preserve (P := fun s => s.Keyed ∧ s.SeqsOk)
    (fun _ _ ha hs => ⟨ha.keyed hs.1, ha.seqsOk hs.1 hs.2⟩)
    ⟨NewSaver_keyed n, NewSaver_seqsOk n⟩).2 c

theorem feed_sequences_reopenBatches :
    ∃ svr, (Saver.inputs reopenBatches).foldlM (Saver.feed fun _ _ => .Other) (NewSaver 1) =
        .ok svr ∧
      seqsSince 5 svr.trace = List.range (((svr.Connections.lookup 5).map Connection.Sequence).getD 0) :=
  ⟨_, rfl, Saver.feed_sequences (fun _ _ => .Other) 1 (Saver.inputs reopenBatches) _ rfl 5⟩

end TcpInfo
