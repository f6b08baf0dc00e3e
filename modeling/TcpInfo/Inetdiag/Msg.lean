import TcpInfo.Go.Runtime
import Mathlib.Data.Vector.Defs

/-!
# inetdiag: the kernel's socket record and the parsed message

`InetDiagMsg` (`linux/inet_diag.h`) is the fixed head of every `SOCK_DIAG_BY_FAMILY` reply, and
`InetDiagSockID` inside it names the socket.  The collector keeps the head as raw bytes
(`RawIDM`) and reads it at the offsets of the C struct:

    0 family  1 state  2 timer  3 retrans  4 sport  6 dport  8 src  24 dst  40 if  44 cookie
    52 expires  56 rqueue  60 wqueue  64 uid  68 inode  (72 bytes)

* `InetDiagMsg.decode`        the head read from its bytes (ports, addresses and interface in
                              network byte order, the cookie in host byte order);
* `RawInetDiagMsg.Parse`      the same, failing with `ErrParseFailed` below 72 bytes;
* `splitInetDiagMsg`          a message's data cut into the head and the attribute bytes;
* `rtaAlignOf`                the 4-byte alignment of netlink attributes;
* `ParsedMessage`, `ChangeType`   what `Parse` returns and what `Compare` answers.

Host byte order is little-endian: the collector runs on little-endian hosts, and `LoadNext`
reads saved messages with `binary.LittleEndian`.  Of the head, only the fields some modelled
function reads are kept (family, state, socket id).
-/

set_option linter.unusedVariables false

namespace TcpInfo

/-! ## constants -/

/-- `SOCK_DIAG_BY_FAMILY` (`uapi/linux/sock_diag.h`), the netlink type of a reply record -/
def SOCK_DIAG_BY_FAMILY : Nat := 20

/-- `INET_DIAG_INFO`, tag 2 of the `inet_diag.h` enumeration: the `tcp_info` block -/
def INET_DIAG_INFO : Nat := 2

/-- `INET_DIAG_MAX`, one past `INET_DIAG_MD5SIG = 18` -/
def INET_DIAG_MAX : Nat := 19

/-- `syscall.AF_INET` -/
def AF_INET : Nat := 2

/-- `syscall.AF_INET6` -/
def AF_INET6 : Nat := 10

/-- `unix.RTA_ALIGNTO` -/
def RTA_ALIGNTO : Nat := 4

/-- `unix.SizeofRtAttr`: the `Len` and `Type` words of an attribute -/
def SizeofRtAttr : Nat := 4

/-- `unsafe.Sizeof(InetDiagMsg{})` -/
def sizeofInetDiagMsg : Nat := 72

/-- offset of `Last_data_sent` in `syscall.TCPInfo` -/
def lastDataSentOffset : Nat := 44

/-- offset of `Pmtu` in `syscall.TCPInfo` -/
def pmtuOffset : Nat := 60

/-- `rtaAlignOf`: `(attrlen + RTA_ALIGNTO - 1) &^ (RTA_ALIGNTO - 1)`, that is the low two bits
of `attrlen + 3` cleared -/
def rtaAlignOf (attrlen : Nat) : Nat := (attrlen + RTA_ALIGNTO - 1) / RTA_ALIGNTO * RTA_ALIGNTO

theorem le_rtaAlignOf (n : Nat) : n ≤ rtaAlignOf n := by
  unfold rtaAlignOf RTA_ALIGNTO; omega

theorem rtaAlignOf_lt (n : Nat) : rtaAlignOf n < n + 4 := by
  unfold rtaAlignOf RTA_ALIGNTO; omega

theorem rtaAlignOf_mod (n : Nat) : rtaAlignOf n % 4 = 0 := by
  unfold rtaAlignOf RTA_ALIGNTO; omega

/-- the head is already aligned -/
@[simp] theorem rtaAlignOf_sizeofInetDiagMsg : rtaAlignOf sizeofInetDiagMsg = 72 := rfl

/-! ## the socket id and the head -/

/-- `InetDiagSockID`; "this struct uses the network byte order", except the cookie -/
structure InetDiagSockID where
  IDiagSPort : Mathlib.Vector UInt8 2
  IDiagDPort : Mathlib.Vector UInt8 2
  IDiagSrc : Mathlib.Vector UInt8 16
  IDiagDst : Mathlib.Vector UInt8 16
  IDiagIf : Mathlib.Vector UInt8 4
  IDiagCookie : Mathlib.Vector UInt8 8
  deriving DecidableEq

/-- `Interface()` -/
def InetDiagSockID.Interface (id : InetDiagSockID) : Nat := beUint id.IDiagIf.toList

/-- `SPort()` -/
def InetDiagSockID.SPort (id : InetDiagSockID) : Nat := beUint id.IDiagSPort.toList

/-- `DPort()` -/
def InetDiagSockID.DPort (id : InetDiagSockID) : Nat := beUint id.IDiagDPort.toList

/-- `Cookie()`: "a socket UUID generated within the kernel, and is therefore in host byte
order" -/
def InetDiagSockID.Cookie (id : InetDiagSockID) : Nat := leUint id.IDiagCookie.toList

theorem InetDiagSockID.Cookie_lt (id : InetDiagSockID) : id.Cookie < 2 ^ 64 := by
  have h := leUint_lt id.IDiagCookie.toList
  rw [Mathlib.Vector.toList_length] at h
  unfold InetDiagSockID.Cookie
  omega

/-- `InetDiagMsg`, the fields some modelled function reads -/
structure InetDiagMsg where
  IDiagFamily : UInt8
  IDiagState : UInt8
  ID : InetDiagSockID
  deriving DecidableEq

/-- `n` bytes of `raw` from offset `off` -/
def rawField (raw : List UInt8) (off n : Nat) : Mathlib.Vector UInt8 n :=
  Mathlib.Vector.ofFn fun i => raw.getD (off + i) 0

/-- the head read at the offsets of the C struct (the pointer cast of `Parse`) -/
def InetDiagMsg.decode (raw : List UInt8) : InetDiagMsg where
  IDiagFamily := raw.getD 0 0
  IDiagState := raw.getD 1 0
  ID :=
    { IDiagSPort := rawField raw 4 2
      IDiagDPort := rawField raw 6 2
      IDiagSrc := rawField raw 8 16
      IDiagDst := rawField raw 24 16
      IDiagIf := rawField raw 40 4
      IDiagCookie := rawField raw 44 8 }

theorem rawField_take {d : List UInt8} {off n k : Nat} (h : off + n ≤ k) :
    rawField (d.take k) off n = rawField d off n := by
  unfold rawField
  congr 1
  funext i
  simp only [List.getD_eq_getElem?_getD, List.getElem?_take_of_lt (show off + i < k by omega)]

/-- the head is read from the first 72 bytes only -/
@[simp] theorem InetDiagMsg.decode_take (d : List UInt8) :
    InetDiagMsg.decode (d.take 72) = InetDiagMsg.decode d := by
  simp only [InetDiagMsg.decode, rawField_take (by omega : 4 + 2 ≤ 72),
    rawField_take (by omega : 6 + 2 ≤ 72), rawField_take (by omega : 8 + 16 ≤ 72),
    rawField_take (by omega : 24 + 16 ≤ 72), rawField_take (by omega : 40 + 4 ≤ 72),
    rawField_take (by omega : 44 + 8 ≤ 72), List.getD_eq_getElem?_getD,
    List.getElem?_take_of_lt (show 0 < 72 by omega), List.getElem?_take_of_lt (show 1 < 72 by omega)]

/-- `RawInetDiagMsg.Parse` -/
def RawInetDiagMsg.Parse (raw : List UInt8) : Except GoError InetDiagMsg :=
  if raw.length < rtaAlignOf sizeofInetDiagMsg then .error .ErrParseFailed
  else .ok (InetDiagMsg.decode raw)

theorem RawInetDiagMsg.Parse_eq_ok {raw : List UInt8} (h : 72 ≤ raw.length) :
    RawInetDiagMsg.Parse raw = .ok (InetDiagMsg.decode raw) := by
  simp [RawInetDiagMsg.Parse]; omega

/-- `splitInetDiagMsg`: `none` for the `(nil, nil)` of a short message -/
def splitInetDiagMsg (data : List UInt8) : Option (List UInt8 × List UInt8) :=
  let align := rtaAlignOf sizeofInetDiagMsg
  if data.length < align then none else some (data.take align, data.drop align)

/-! ## the parsed message -/

/-- `ParsedMessage`.  An attribute value is a byte slice that may be nil: `none` is nil, and an
attribute of length 0 is `some []`.  (`Metadata` is left out: nothing modelled sets or reads
it.) -/
structure ParsedMessage where
  Timestamp : Time
  RawIDM : List UInt8
  Attributes : List (Option (List UInt8))
  deriving DecidableEq

/-- `ChangeType`, in the order of its `iota` constants -/
inductive ChangeType where
  | NoMajorChange
  | IDiagStateChange
  | NoTCPInfo
  | NewAttribute
  | LostAttribute
  | AttributeLength
  | StateOrCounterChange
  | PacketCountChange
  | PreviousWasNil
  | Other
  deriving DecidableEq, Repr

/-- the `int` value of a `ChangeType` -/
def ChangeType.toNat : ChangeType → Nat
  | .NoMajorChange => 0
  | .IDiagStateChange => 1
  | .NoTCPInfo => 2
  | .NewAttribute => 3
  | .LostAttribute => 4
  | .AttributeLength => 5
  | .StateOrCounterChange => 6
  | .PacketCountChange => 7
  | .PreviousWasNil => 8
  | .Other => 9

/-- `c > NoMajorChange` holds of every other change type -/
theorem ChangeType.toNat_pos {c : ChangeType} : 0 < c.toNat ↔ c ≠ .NoMajorChange := by
  cases c <;> simp [ChangeType.toNat]

end TcpInfo
