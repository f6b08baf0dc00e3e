import TcpInfo.Cache.Cache

/-!
# saver: connection records, their files, and what the Saver goroutine does

A `Connection` is the Saver's record of one socket: where its output goes and when the current
file is due for rotation.  Files, the marshalling channels and the clock are outside the Saver's
own state; the model makes them explicit:

* `World`               the answers of the environment while one message is handled (the two
                        reads of `time.Now()`, whether `os.MkdirAll` and `zstd.NewWriter`
                        succeed);
* `Effect`              one action of the Saver goroutine outside its state: a writer opened on
                        a path, the metadata header written to it, a task sent on a channel, a
                        channel closed, a record deleted from the map;
* `newConnection`       a fresh record, due for rotation at once;
* `Connection.expire`   the expiry check of `queue`, which sends the close task;
* `Connection.Rotate`   the next file of a record: `MkdirAll`, `NewWriter`, `writeHeader`.

A writer is named by a number: the position in the Saver's trace of the effect that opened it.
`Rotate` ignores its `FileAgeLimit` and advances the expiration by a literal ten minutes, as
the source does.
-/

set_option linter.unusedVariables false

namespace TcpInfo

/-! ## time and the output path -/

/-- `time.Minute` -/
def Minute : Time := 60 * 1000000000

/-- `tcp.TCPState_FIN_WAIT1` of `nl-proto`: the first of the closing states -/
def TCPState_FIN_WAIT1 : Nat := 4

/-- the calendar day `(year, month, day)` of a time, as `Format("2006/01/02")` prints it in UTC
(days since the epoch turned into a civil date, March-based years of 400-year eras) -/
def civilDate (t : Time) : Nat × Nat × Nat :=
  let z := t / (86400 * 1000000000) + 719468
  let era := z / 146097
  let doe := z - era * 146097
  let yoe := (doe - doe / 1460 + doe / 36524 - doe / 146096) / 365
  let doy := doe - (365 * yoe + yoe / 4 - yoe / 100)
  let mp := (5 * doy + 2) / 153
  let m := if mp < 10 then mp + 3 else mp - 9
  (yoe + era * 400 + (if m ≤ 2 then 1 else 0), m, doy - (153 * mp + 2) / 5 + 1)

example : civilDate (1546300800 * 1000000000) = (2019, 1, 1) := by decide

/-- the three values `Rotate` formats into `"%s/%s.%05d.jsonl.zst"`: the date path, the cookie
the file's UUID is made from (`uuid.FromCookie`), and the sequence number -/
structure OutputPath where
  datePath : Nat × Nat × Nat
  cookie : Nat
  Sequence : Nat
  deriving DecidableEq

/-- `Metadata`, the header line of every file; `UUID` is given by the cookie it is made from -/
structure Metadata where
  UUID : Nat
  Sequence : Nat
  StartTime : Time
  deriving DecidableEq

/-- `Task`: a nil `Message` means close the writer -/
structure Task where
  Message : Option ParsedMessage
  Writer : Option Nat
  deriving DecidableEq

/-- what the Saver goroutine does outside its own state -/
inductive Effect where
  /-- `zstd.NewWriter(path)` succeeded, and the writer is named `w` -/
  | newWriter (w : Nat) (path : OutputPath)
  /-- `conn.writeHeader()`: the metadata line written to writer `w` -/
  | writeHeader (w : Nat) (md : Metadata)
  /-- `q <- task` on `MarshalChans[q]` -/
  | send (q : Nat) (task : Task)
  /-- `close(MarshalChans[q])` -/
  | closeChan (q : Nat)
  /-- `delete(svr.Connections, cookie)` -/
  | delete (cookie : Nat)
  deriving DecidableEq

/-- the writer an effect concerns -/
def Effect.writer : Effect → Option Nat
  | .newWriter w _ => some w
  | .writeHeader w _ => some w
  | .send _ t => t.Writer
  | .closeChan _ => none
  | .delete _ => none

/-- the answers of the environment while `swapAndQueue` handles one message -/
structure World where
  /-- `time.Now()` in the expiry check of `queue` -/
  Now : Time
  /-- `time.Now()` in `newConnection` -/
  ConnNow : Time
  /-- `os.MkdirAll` succeeds -/
  MkdirAll : Bool
  /-- `zstd.NewWriter` succeeds -/
  NewWriter : Bool
  deriving DecidableEq

/-! ## the connection record -/

/-- `Connection`.  `Inode`, `UID` and `Slice` are left out: `newConnection` sets them and no
modelled function reads them.  `Writer` is the writer's name, `none` for a nil writer. -/
structure Connection where
  ID : InetDiagSockID
  StartTime : Time
  Sequence : Nat
  Expiration : Time
  Writer : Option Nat
  deriving DecidableEq

/-- `newConnection(info, timestamp)`; `now` is its read of `time.Now()` -/
def newConnection (info : InetDiagMsg) (timestamp now : Time) : Connection where
  ID := info.ID
  StartTime := timestamp
  Sequence := 0
  Expiration := now
  Writer := none

/-- the path `Rotate` opens for the record's current sequence number -/
def Connection.outputPath (conn : Connection) : OutputPath :=
  ⟨civilDate conn.StartTime, conn.ID.Cookie, conn.Sequence⟩

/-- `conn.writeHeader()` on the writer `w` just opened -/
def Connection.writeHeader (conn : Connection) (w : Nat) : Effect :=
  .writeHeader w ⟨conn.ID.Cookie, conn.Sequence, conn.StartTime⟩

/-- the record after a successful `Rotate` onto the writer `w` -/
def Connection.rotated (conn : Connection) (w : Nat) : Connection :=
  { conn with Writer := some w, Expiration := conn.Expiration + 10 * Minute,
              Sequence := conn.Sequence + 1 }

/-- `conn.Rotate(Host, Pod, FileAgeLimit)`: the record afterwards, the effects and the error.
`w` is the name the new writer gets. -/
def Connection.Rotate (conn : Connection) (FileAgeLimit : Time) (env : World) (w : Nat) :
    Connection × List Effect × Option GoError :=
  if !env.MkdirAll then (conn, [], some .mkdirAll)
  else if !env.NewWriter then ({ conn with Writer := none }, [], some .newWriter)
  else (conn.rotated w, [.newWriter w conn.outputPath, conn.writeHeader w], none)

/-- the expiry check of `queue` on channel `q`: `if time.Now().After(conn.Expiration) &&
conn.Writer != nil`, send the close task and clear the writer -/
def Connection.expire (conn : Connection) (q : Nat) (now : Time) : Connection × List Effect :=
  match conn.Writer with
  | some w =>
    if conn.Expiration < now then ({ conn with Writer := none }, [.send q ⟨none, some w⟩])
    else (conn, [])
  | none => (conn, [])

@[simp] theorem newConnection_Writer (info : InetDiagMsg) (timestamp now : Time) :
    (newConnection info timestamp now).Writer = none := rfl

@[simp] theorem newConnection_ID (info : InetDiagMsg) (timestamp now : Time) :
    (newConnection info timestamp now).ID = info.ID := rfl

@[simp] theorem newConnection_Sequence (info : InetDiagMsg) (timestamp now : Time) :
    (newConnection info timestamp now).Sequence = 0 := rfl

@[simp] theorem Connection.rotated_Writer (conn : Connection) (w : Nat) :
    (conn.rotated w).Writer = some w := rfl

@[simp] theorem Connection.rotated_ID (conn : Connection) (w : Nat) :
    (conn.rotated w).ID = conn.ID := rfl

@[simp] theorem Connection.rotated_Sequence (conn : Connection) (w : Nat) :
    (conn.rotated w).Sequence = conn.Sequence + 1 := rfl

@[simp] theorem Connection.rotated_Expiration (conn : Connection) (w : Nat) :
    (conn.rotated w).Expiration = conn.Expiration + 10 * Minute := rfl

/-- **What `Rotate` can do** to a record without a writer.  It fails and changes nothing, or it
opens the writer `w` on the record's current path, writes the header and moves to the next
sequence number. -/
theorem Connection.Rotate_cases {conn : Connection} (h : conn.Writer = none) (lim : Time)
    (env : World) (w : Nat) :
    (∃ e, conn.Rotate lim env w = (conn, [], some e)) ∨
    conn.Rotate lim env w =
      (conn.rotated w, [.newWriter w conn.outputPath, conn.writeHeader w], none) := by
  have hc : { conn with Writer := none } = conn := by cases conn; simp_all
  unfold Connection.Rotate
  cases env.MkdirAll <;> cases env.NewWriter <;> simp [hc]

/-- **What the expiry check can do.**  Nothing, or the close task of the record's writer on
channel `q` with the writer cleared. -/
theorem Connection.expire_cases (conn : Connection) (q : Nat) (now : Time) :
    conn.expire q now = (conn, []) ∨
    ∃ w, conn.Writer = some w ∧
      conn.expire q now = ({ conn with Writer := none }, [.send q ⟨none, some w⟩]) := by
  unfold Connection.expire
  cases h : conn.Writer with
  | none => exact .inl rfl
  | some w => by_cases hx : conn.Expiration < now <;> simp [hx]

@[simp] theorem Connection.expire_Expiration (conn : Connection) (q : Nat) (now : Time) :
    (conn.expire q now).1.Expiration = conn.Expiration := by
  rcases conn.expire_cases q now with h | ⟨w, -, h⟩ <;> rw [h]

/-- the expiry check leaves a record without a writer only if it had none or was due -/
theorem Connection.expire_Writer_none {conn : Connection} {q : Nat} {now : Time}
    (h : (conn.expire q now).1.Writer = none) : conn.Writer = none ∨ conn.Expiration < now := by
  unfold Connection.expire at h
  split at h
  · split at h
    · exact .inr ‹_›
    · simp_all
  · exact .inl ‹_›

end TcpInfo
