import TcpInfo.Inetdiag.Msg

/-!
# inetdiag: the socket's addresses, and which of them are local

`InetDiagSockID` holds both addresses in 16-byte fields.  `ip` does not look at the message's
address family: it reads an IPv4 address from bytes 0..3 when bytes 4..15 are all zero, and an
IPv6 address from all 16 bytes otherwise.  `isLocal` then asks Go's `net.IP` methods.

* `IP.To4`, `IP.Equal`, `IP.IsLoopback`, `IP.IsLinkLocalUnicast`, `IP.IsMulticast`,
  `IP.IsUnspecified`   the `net` package's methods on 4- and 16-byte addresses;
* `ip`, `isIpv6`, `ipv4`, `ipv6`, `SrcIP`, `DstIP`, `isLocal`   the collector's reading;
* `localV4`, `localV6`, `localAddr`   the same classification written as address ranges
  (127/8, 169.254/16, 224/4, 0.0.0.0; ::1, fe80::/10, ff00::/8, ::, and v4-mapped addresses
  by their IPv4 range), and `isLocal_ip`: the collector's reading IS that classification;
* `familyIP`     the reading by address family (4 bytes for `AF_INET`, 16 otherwise).
-/

set_option linter.unusedVariables false

namespace TcpInfo

/-- `net.IP`, a 4- or 16-byte slice -/
abbrev IP := List UInt8

/-- `v4InV6Prefix`: the first 12 bytes of an IPv4-mapped IPv6 address -/
def v4InV6Prefix : IP := [0, 0, 0, 0, 0, 0, 0, 0, 0, 0, 0xff, 0xff]

/-- `net.IPv4(a, b, c, d)`, in its 16-byte form -/
def IPv4 (a b c d : UInt8) : IP := v4InV6Prefix ++ [a, b, c, d]

/-- `net.IPv4zero` -/
def IPv4zero : IP := IPv4 0 0 0 0

/-- `net.IPv6unspecified` -/
def IPv6unspecified : IP := List.replicate 16 0

/-- `net.IPv6loopback` -/
def IPv6loopback : IP := List.replicate 15 0 ++ [1]

/-- `ip.To4()`: a 4-byte address, the last four bytes of a v4-mapped one, or nil -/
def IP.To4 (ip : IP) : Option IP :=
  if ip.length = 4 then some ip
  else if ip.length = 16 ∧ ip.take 12 = v4InV6Prefix then some (ip.drop 12)
  else none

/-- `ip.Equal(x)`: a 4-byte and a 16-byte address are equal when the latter maps the former -/
def IP.Equal (ip x : IP) : Bool :=
  if ip.length = x.length then ip == x
  else if ip.length = 4 ∧ x.length = 16 then x.take 12 == v4InV6Prefix && ip == x.drop 12
  else if ip.length = 16 ∧ x.length = 4 then ip.take 12 == v4InV6Prefix && ip.drop 12 == x
  else false

/-- `ip.IsUnspecified()` -/
def IP.IsUnspecified (ip : IP) : Bool := ip.Equal IPv4zero || ip.Equal IPv6unspecified

/-- `ip.IsLoopback()` -/
def IP.IsLoopback (ip : IP) : Bool :=
  match ip.To4 with
  | some ip4 => ip4.getD 0 0 == 127
  | none => ip.Equal IPv6loopback

/-- `ip.IsMulticast()` -/
def IP.IsMulticast (ip : IP) : Bool :=
  match ip.To4 with
  | some ip4 => ip4.getD 0 0 &&& 0xf0 == 0xe0
  | none => ip.length == 16 && ip.getD 0 0 == 0xff

/-- `ip.IsLinkLocalUnicast()` -/
def IP.IsLinkLocalUnicast (ip : IP) : Bool :=
  match ip.To4 with
  | some ip4 => ip4.getD 0 0 == 169 && ip4.getD 1 0 == 254
  | none => ip.length == 16 && ip.getD 0 0 == 0xfe && ip.getD 1 0 &&& 0xc0 == 0x80

/-! ## the collector's reading -/

/-- `isIpv6`: some byte among 4..15 is not zero -/
def isIpv6 (original : Mathlib.Vector UInt8 16) : Bool := (original.toList.drop 4).any (· != 0)

/-- `ipv4`: `net.IPv4(original[0], original[1], original[2], original[3]).To4()` -/
def ipv4 (original : Mathlib.Vector UInt8 16) : IP :=
  (IP.To4 (IPv4 (original.get 0) (original.get 1) (original.get 2) (original.get 3))).getD []

/-- `ipv6` -/
def ipv6 (original : Mathlib.Vector UInt8 16) : IP := original.toList

/-- `ip` -/
def ip (bytes : Mathlib.Vector UInt8 16) : IP := if isIpv6 bytes then ipv6 bytes else ipv4 bytes

/-- `SrcIP()` -/
def InetDiagSockID.SrcIP (id : InetDiagSockID) : IP := ip id.IDiagSrc

/-- `DstIP()` -/
def InetDiagSockID.DstIP (id : InetDiagSockID) : IP := ip id.IDiagDst

/-- `isLocal` -/
def isLocal (addr : IP) : Bool :=
  addr.IsLoopback || addr.IsLinkLocalUnicast || addr.IsMulticast || addr.IsUnspecified

/-- the address read by the message's family: `IDiagSrc[0:4]` for `AF_INET`, all 16 bytes
otherwise -/
def familyIP (family : UInt8) (bytes : Mathlib.Vector UInt8 16) : IP :=
  if family.toNat = AF_INET then bytes.toList.take 4 else bytes.toList

/-! ## the same classification, as address ranges -/

/-- `a.b.c.d` in 127/8, 169.254/16, 224/4, or `0.0.0.0` -/
def localV4 (a b c d : UInt8) : Bool :=
  a == 127 || (a == 169 && b == 254) || a.toNat / 16 == 14 ||
    (a == 0 && b == 0 && c == 0 && d == 0)

/-- a 16-byte address: a v4-mapped one by its IPv4 range, otherwise `::1`, fe80::/10,
ff00::/8 or `::` -/
def localV6 (x : List UInt8) : Bool :=
  if x.take 12 = v4InV6Prefix then localV4 (x.getD 12 0) (x.getD 13 0) (x.getD 14 0) (x.getD 15 0)
  else x == IPv6loopback || (x.getD 0 0 == 0xfe && (x.getD 1 0).toNat / 64 == 2) ||
    x.getD 0 0 == 0xff || x == IPv6unspecified

/-- the collector's classification of a 16-byte address field: IPv4 when bytes 4..15 are
zero, IPv6 otherwise, whatever the message's family -/
def localAddr (x : Mathlib.Vector UInt8 16) : Bool :=
  if (x.toList.drop 4).all (· == 0) then localV4 (x.get 0) (x.get 1) (x.get 2) (x.get 3)
  else localV6 x.toList

set_option maxRecDepth 10000 in
private theorem land_240 : ∀ n < 256, n &&& 240 = n / 16 * 16 := by decide

set_option maxRecDepth 10000 in
private theorem land_192 : ∀ n < 256, n &&& 192 = n / 64 * 64 := by decide

/-- the mask test of `IsMulticast` is the prefix 224/4 -/
theorem multicast_byte (a : UInt8) : (a &&& 0xf0 == 0xe0) = (a.toNat / 16 == 14) := by
  have e : (a &&& 0xf0).toNat = a.toNat / 16 * 16 := by
    rw [UInt8.and_toNat]; exact land_240 _ a.toNat_lt_size
  rw [Bool.eq_iff_iff, beq_iff_eq, beq_iff_eq]
  constructor
  · intro h; have := congrArg UInt8.toNat h; rw [e] at this
    change _ = 224 at this; omega
  · intro h; exact UInt8.toNat.inj (by rw [e]; change _ = 224; omega)

/-- the mask test of `IsLinkLocalUnicast` is the prefix fe80::/10 -/
theorem linkLocal_byte (a : UInt8) : (a &&& 0xc0 == 0x80) = (a.toNat / 64 == 2) := by
  have e : (a &&& 0xc0).toNat = a.toNat / 64 * 64 := by
    rw [UInt8.and_toNat]; exact land_192 _ a.toNat_lt_size
  rw [Bool.eq_iff_iff, beq_iff_eq, beq_iff_eq]
  constructor
  · intro h; have := congrArg UInt8.toNat h; rw [e] at this
    change _ = 128 at this; omega
  · intro h; exact UInt8.toNat.inj (by rw [e]; change _ = 128; omega)

theorem isLocal_four (a b c d : UInt8) : isLocal [a, b, c, d] = localV4 a b c d := by
  simp [isLocal, IP.IsLoopback, IP.IsLinkLocalUnicast, IP.IsMulticast, IP.IsUnspecified,
    IP.To4, IP.Equal, IPv4zero, IPv4, IPv6unspecified, v4InV6Prefix, multicast_byte,
    Bool.and_assoc, localV4]

theorem isLocal_mapped (a b c d : UInt8) : isLocal (IPv4 a b c d) = isLocal [a, b, c, d] := by
  simp [isLocal, IP.IsLoopback, IP.IsLinkLocalUnicast, IP.IsMulticast, IP.IsUnspecified,
    IP.To4, IP.Equal, IPv4zero, IPv4, IPv6unspecified, v4InV6Prefix]

theorem isLocal_unmapped {x : IP} (hx : x.length = 16) (h : x.take 12 ≠ v4InV6Prefix) :
    isLocal x = localV6 x := by
  have h4 : IP.To4 x = none := by simp [IP.To4, hx, h]
  have hz : (x == IPv4zero) = false := by
    simp only [beq_eq_false_iff_ne]; rintro rfl; exact h rfl
  have hl : IPv4zero.length = 16 := rfl
  simp [isLocal, IP.IsLoopback, IP.IsLinkLocalUnicast, IP.IsMulticast, IP.IsUnspecified, h4,
    IP.Equal, hx, hz, hl, IPv6loopback, IPv6unspecified, linkLocal_byte, Bool.or_assoc, localV6, h]

/-- a 16-byte address is local for `isLocal` exactly when `localV6` says so -/
theorem isLocal_sixteen {x : IP} (hx : x.length = 16) : isLocal x = localV6 x := by
  by_cases h : x.take 12 = v4InV6Prefix
  · obtain ⟨a, b, c, d, hd⟩ : ∃ a b c d, x.drop 12 = [a, b, c, d] := by
      match x.drop 12, (by simp [hx] : (x.drop 12).length = 4) with
      | [a, b, c, d], _ => exact ⟨a, b, c, d, rfl⟩
    obtain rfl : x = IPv4 a b c d := by rw [← List.take_append_drop 12 x, h, hd]; rfl
    rw [isLocal_mapped, isLocal_four]
    rfl
  · exact isLocal_unmapped hx h

theorem ip_of_isIpv6 {x : Mathlib.Vector UInt8 16} (h : isIpv6 x = true) : ip x = x.toList := by
  simp [ip, h, ipv6]

theorem ip_of_not_isIpv6 {x : Mathlib.Vector UInt8 16} (h : isIpv6 x = false) :
    ip x = [x.get 0, x.get 1, x.get 2, x.get 3] := by
  simp [ip, h, ipv4, IP.To4, IPv4, v4InV6Prefix]

theorem localAddr_eq (x : Mathlib.Vector UInt8 16) :
    localAddr x = if isIpv6 x then localV6 x.toList
      else localV4 (x.get 0) (x.get 1) (x.get 2) (x.get 3) := by
  have h : (x.toList.drop 4).all (· == 0) = !(x.toList.drop 4).any (· != 0) :=
    List.all_eq_not_any_not _ _
  rw [localAddr, isIpv6, h]
  cases (x.toList.drop 4).any (· != 0) <;> rfl

/-- **The collector's reading of an address field.**  `isLocal (ip x)` classifies `x` as
`localAddr` does: by address range, read as IPv4 when bytes 4..15 are zero and as IPv6
otherwise. -/
theorem isLocal_ip (x : Mathlib.Vector UInt8 16) : isLocal (ip x) = localAddr x := by
  rw [localAddr_eq]
  cases h : isIpv6 x
  · rw [ip_of_not_isIpv6 h, isLocal_four]; rfl
  · rw [ip_of_isIpv6 h, isLocal_sixteen x.toList_length]; rfl

end TcpInfo
