import TcpInfo.Inetdiag.Parse

/-!
# inetdiag: `LoadNext`, reading saved netlink messages back

A replay file is a concatenation of netlink messages, each a 16-byte `NlMsghdr` in little-endian
byte order followed by its payload.  `LoadNext` reads one message from the stream: the header
with `binary.Read`, then `header.Len - uint32(binary.Size(header))` payload bytes.  The
subtraction is of `uint32`s, and nothing checks `Len` before it.

* `readFull`                  `io.ReadFull`: exactly `n` bytes, or `io.EOF` when the stream is
                              empty, `io.ErrUnexpectedEOF` when it ends early;
* `leBytes`                   the little-endian bytes of a number, and their round trip with
                              `leUint`;
* `NlMsghdr.decode`, `NlMsghdr.encode`   the header as `binary.Read` fills it, and the bytes
                              it is read from;
* `LoadNext`;
* `LoadNext_encode`           a header followed by `Len - 16` bytes (a `uint32` difference) is
                              read back, and the stream is left at the next message;
* `LoadNext_eq_ok`            every message `LoadNext` returns is so read: the stream is its
                              header's bytes, its data and the rest;
* `LoadNext_accepts_short_header`   a header with `Len = 0` followed by `2 ^ 32 - 16` bytes is
                              returned as a message;
* `slice`, `RawNlMsgHdr.Parse`   the header's bytes in memory and the header read back from
                              them: `RawNlMsgHdr.Parse_eq_ok_iff`, each is the other's inverse;
* `LoadNext_eq_EOF_iff`       `io.EOF` comes back on an empty stream, and also on a stream that
                              ends right after a header whose `Len` is not 16: a message cut
                              after its header reads as the end of the file.
-/

set_option linter.unusedVariables false

namespace TcpInfo

/-! ## the stream -/

/-- the errors `io.ReadFull` returns on a stream that ends before the buffer is full -/
inductive ReadError where
  /-- `io.EOF`: the stream had no byte left -/
  | EOF
  /-- `io.ErrUnexpectedEOF`: the stream ended after some of the bytes -/
  | ErrUnexpectedEOF
  deriving DecidableEq, Repr

/-- `io.ReadFull(r, buf)` with `len(buf) = n`, on the bytes `r` left in the stream: the bytes
read, or the error, and what is left of the stream -/
def readFull (r : List UInt8) (n : Nat) : Except ReadError (List UInt8) × List UInt8 :=
  if n ≤ r.length then (.ok (r.take n), r.drop n)
  else if r = [] then (.error .EOF, []) else (.error .ErrUnexpectedEOF, [])

theorem readFull_append {l : List UInt8} (rest : List UInt8) {n : Nat} (h : l.length = n) :
    readFull (l ++ rest) n = (.ok l, rest) := by
  simp [readFull, ← h, List.take_left', List.drop_left']

theorem readFull_eq_ok {r l rest : List UInt8} {n : Nat} (h : readFull r n = (.ok l, rest)) :
    r = l ++ rest ∧ l.length = n := by
  unfold readFull at h
  split at h
  · cases h; exact ⟨(List.take_append_drop n r).symm, by simpa⟩
  · split at h <;> cases h

/-! ## little-endian bytes -/

/-- the `k` little-endian bytes of `n`, as `binary.LittleEndian.PutUintN` writes them -/
def leBytes : Nat → Nat → List UInt8
  | 0, _ => []
  | k + 1, n => UInt8.ofNat (n % 256) :: leBytes k (n / 256)

@[simp] theorem length_leBytes (k n : Nat) : (leBytes k n).length = k := by
  induction k generalizing n <;> simp [leBytes, *]

theorem leUint_leBytes (k n : Nat) : leUint (leBytes k n) = n % 256 ^ k := by
  induction k generalizing n with
  | zero => simp [leBytes, Nat.mod_one]
  | succ k ih =>
    have hb : (UInt8.ofNat (n % 256)).toNat = n % 256 :=
      UInt8.toNat_ofNat_of_lt (Nat.mod_lt _ (by decide))
    rw [leBytes, leUint_cons, hb, ih, pow_succ', Nat.mod_mul]

theorem leBytes_leUint (b : List UInt8) : leBytes b.length (leUint b) = b := by
  induction b with
  | nil => rfl
  | cons x b ih =>
    have hx := x.toNat_lt_size
    change x.toNat < 256 at hx
    have hmod : (x.toNat + 256 * leUint b) % 256 = x.toNat := by omega
    have hdiv : (x.toNat + 256 * leUint b) / 256 = leUint b := by omega
    rw [List.length_cons, leBytes, leUint_cons, hmod, hdiv, ih,
      UInt8.toNat.inj (UInt8.toNat_ofNat_of_lt hx)]

/-! ## the header -/

/-- `uint32(binary.Size(header))` for a `syscall.NlMsghdr`: 4 + 2 + 2 + 4 + 4 bytes -/
def SizeofNlMsghdr : Nat := 16

/-- the header `binary.Read(rdr, binary.LittleEndian, &header)` fills from its 16 bytes, field
by field -/
def NlMsghdr.decode (b : List UInt8) : NlMsghdr where
  Len := UInt32.ofNat (leUint (b.take 4))
  «Type» := UInt16.ofNat (leUint ((b.drop 4).take 2))
  Flags := UInt16.ofNat (leUint ((b.drop 6).take 2))
  Seq := UInt32.ofNat (leUint ((b.drop 8).take 4))
  Pid := UInt32.ofNat (leUint ((b.drop 12).take 4))

/-- the 16 bytes a header is read from -/
def NlMsghdr.encode (h : NlMsghdr) : List UInt8 :=
  leBytes 4 h.Len.toNat ++ leBytes 2 h.Type.toNat ++ leBytes 2 h.Flags.toNat ++
    leBytes 4 h.Seq.toNat ++ leBytes 4 h.Pid.toNat

@[simp] theorem NlMsghdr.length_encode (h : NlMsghdr) : h.encode.length = SizeofNlMsghdr := by
  simp [encode, SizeofNlMsghdr]

theorem ofNat_leUint_leBytes32 (x : UInt32) : UInt32.ofNat (leUint (leBytes 4 x.toNat)) = x := by
  rw [leUint_leBytes, Nat.mod_eq_of_lt (show x.toNat < 256 ^ 4 from x.toNat_lt_size)]
  exact UInt32.toNat.inj (UInt32.toNat_ofNat_of_lt x.toNat_lt_size)

theorem ofNat_leUint_leBytes16 (x : UInt16) : UInt16.ofNat (leUint (leBytes 2 x.toNat)) = x := by
  rw [leUint_leBytes, Nat.mod_eq_of_lt (show x.toNat < 256 ^ 2 from x.toNat_lt_size)]
  exact UInt16.toNat.inj (UInt16.toNat_ofNat_of_lt x.toNat_lt_size)

theorem leBytes_ofNat_leUint32 {l : List UInt8} (hl : l.length = 4) :
    leBytes 4 (UInt32.ofNat (leUint l)).toNat = l := by
  have hlt : leUint l < 256 ^ 4 := hl ▸ leUint_lt l
  rw [UInt32.toNat_ofNat_of_lt hlt, ← hl, leBytes_leUint]

theorem leBytes_ofNat_leUint16 {l : List UInt8} (hl : l.length = 2) :
    leBytes 2 (UInt16.ofNat (leUint l)).toNat = l := by
  have hlt : leUint l < 256 ^ 2 := hl ▸ leUint_lt l
  rw [UInt16.toNat_ofNat_of_lt hlt, ← hl, leBytes_leUint]

/-- a header is read back from its bytes -/
theorem NlMsghdr.decode_encode (h : NlMsghdr) : decode h.encode = h := by
  show NlMsghdr.mk (UInt32.ofNat (leUint (leBytes 4 h.Len.toNat)))
    (UInt16.ofNat (leUint (leBytes 2 h.Type.toNat))) (UInt16.ofNat (leUint (leBytes 2 h.Flags.toNat)))
    (UInt32.ofNat (leUint (leBytes 4 h.Seq.toNat))) (UInt32.ofNat (leUint (leBytes 4 h.Pid.toNat))) = h
  rw [ofNat_leUint_leBytes32, ofNat_leUint_leBytes16, ofNat_leUint_leBytes16,
    ofNat_leUint_leBytes32, ofNat_leUint_leBytes32]

/-- 16 bytes are the bytes of the header they are read as -/
theorem NlMsghdr.encode_decode {b : List UInt8} (hb : b.length = SizeofNlMsghdr) :
    (decode b).encode = b := by
  match b, hb with
  | [b0, b1, b2, b3, b4, b5, b6, b7, b8, b9, b10, b11, b12, b13, b14, b15], _ =>
    show leBytes 4 (UInt32.ofNat (leUint [b0, b1, b2, b3])).toNat ++
      leBytes 2 (UInt16.ofNat (leUint [b4, b5])).toNat ++
      leBytes 2 (UInt16.ofNat (leUint [b6, b7])).toNat ++
      leBytes 4 (UInt32.ofNat (leUint [b8, b9, b10, b11])).toNat ++
      leBytes 4 (UInt32.ofNat (leUint [b12, b13, b14, b15])).toNat = _
    rw [leBytes_ofNat_leUint32 (l := [b0, b1, b2, b3]) rfl,
      leBytes_ofNat_leUint16 (l := [b4, b5]) rfl, leBytes_ofNat_leUint16 (l := [b6, b7]) rfl,
      leBytes_ofNat_leUint32 (l := [b8, b9, b10, b11]) rfl,
      leBytes_ofNat_leUint32 (l := [b12, b13, b14, b15]) rfl]
    rfl

/-- `slice(hp)`: the 16 bytes the header occupies in memory, in host (little-endian) order -/
def slice (hp : NlMsghdr) : List UInt8 := hp.encode

/-- `RawNlMsgHdr(raw).Parse()`: the header read in place from a slice of exactly its size -/
def RawNlMsgHdr.Parse (raw : List UInt8) : Except GoError NlMsghdr :=
  if raw.length ≠ SizeofNlMsghdr then .error .ErrParseFailed else .ok (NlMsghdr.decode raw)

/-- **`slice` and `RawNlMsgHdr.Parse` are inverse.**  A slice is parsed exactly when it is the
memory of some header, and then it is parsed as that header. -/
theorem RawNlMsgHdr.Parse_eq_ok_iff (raw : List UInt8) (h : NlMsghdr) :
    RawNlMsgHdr.Parse raw = .ok h ↔ raw = slice h := by
  unfold RawNlMsgHdr.Parse slice
  constructor
  · intro hp
    split at hp
    · cases hp
    · cases hp; rename_i hl; exact (NlMsghdr.encode_decode (not_not.1 hl)).symm
  · rintro rfl
    simp [NlMsghdr.decode_encode]

/-- `binary.Read` looks at the first 16 bytes only -/
theorem NlMsghdr.decode_take (b : List UInt8) :
    NlMsghdr.decode (b.take SizeofNlMsghdr) = NlMsghdr.decode b := by
  simp only [NlMsghdr.decode, SizeofNlMsghdr, List.take_take, List.drop_take]; rfl

/-! ## `LoadNext` -/

/-- `LoadNext(rdr)` on the bytes `rdr` left in the stream: the message or the error of a read,
and what is left of the stream.  `make([]byte, n)` is not modelled as failing: near `2 ^ 32`
bytes it may exhaust memory. -/
def LoadNext (rdr : List UInt8) : Except ReadError NetlinkMessage × List UInt8 :=
  match readFull rdr SizeofNlMsghdr with
  | (.error err, rest) => (.error err, rest)
  | (.ok b, rest) =>
    let header := NlMsghdr.decode b
    match readFull rest (header.Len - UInt32.ofNat SizeofNlMsghdr).toNat with
    | (.error err, rest) => (.error err, rest)
    | (.ok data, rest) => (.ok ⟨header, data⟩, rest)

/-- **The round trip.**  A header followed by `Len - 16` bytes, the difference taken in
`uint32`, is read back as a message with those bytes, and the stream is left at what follows. -/
theorem LoadNext_encode (h : NlMsghdr) (data rest : List UInt8)
    (hd : data.length = (h.Len - UInt32.ofNat SizeofNlMsghdr).toNat) :
    LoadNext (h.encode ++ data ++ rest) = (.ok ⟨h, data⟩, rest) := by
  rw [LoadNext, List.append_assoc, readFull_append _ (NlMsghdr.length_encode h)]
  simp only [NlMsghdr.decode_encode, readFull_append _ hd]

/-- **What `LoadNext` accepts.**  Every message it returns was read as `LoadNext_encode` reads
one: the stream was the header's 16 bytes, then exactly `Len - 16` bytes of data (the
difference taken in `uint32`), then the rest it leaves. -/
theorem LoadNext_eq_ok {rdr rest : List UInt8} {m : NetlinkMessage}
    (h : LoadNext rdr = (.ok m, rest)) :
    rdr = m.Header.encode ++ m.Data ++ rest ∧
      m.Data.length = (m.Header.Len - UInt32.ofNat SizeofNlMsghdr).toNat := by
  unfold LoadNext at h
  split at h
  · cases h
  · rename_i b r1 hb
    obtain ⟨rfl, hlen⟩ := readFull_eq_ok hb
    dsimp only at h
    split at h
    · cases h
    · rename_i data r2 hdata
      cases h
      obtain ⟨rfl, hdlen⟩ := readFull_eq_ok hdata
      exact ⟨by rw [NlMsghdr.encode_decode hlen, List.append_assoc], hdlen⟩

/-- `header.Len - uint32(binary.Size(header))` wraps below 16 -/
theorem toNat_sub_SizeofNlMsghdr (x : UInt32) :
    (x - UInt32.ofNat SizeofNlMsghdr).toNat = (x.toNat + (2 ^ 32 - 16)) % 2 ^ 32 := by
  change (x.toBitVec - (UInt32.ofNat 16).toBitVec).toNat = _
  rw [BitVec.toNat_sub]
  change (2 ^ 32 - 16 + x.toNat) % 2 ^ 32 = _
  rw [Nat.add_comm]

/-- a header whose `Len` is below 16, followed by `Len + 2 ^ 32 - 16` bytes, is returned as a
message: the difference wraps, and nothing rejects the header -/
theorem LoadNext_short_header (h : NlMsghdr) (hlt : h.Len.toNat < SizeofNlMsghdr)
    (data rest : List UInt8) (hd : data.length = h.Len.toNat + (2 ^ 32 - 16)) :
    LoadNext (h.encode ++ data ++ rest) = (.ok ⟨h, data⟩, rest) := by
  unfold SizeofNlMsghdr at hlt
  apply LoadNext_encode
  rw [toNat_sub_SizeofNlMsghdr, Nat.mod_eq_of_lt (by omega), hd]

/-- **A header with `Len = 0` is not rejected.**  Followed by `2 ^ 32 - 16` bytes, it comes back
as a message whose `Len` is below 16 and whose data holds about 4 GiB. -/
theorem LoadNext_accepts_short_header :
    LoadNext (NlMsghdr.encode ⟨0, 20, 0, 0, 0⟩ ++ List.replicate (2 ^ 32 - 16) 0) =
      (.ok ⟨⟨0, 20, 0, 0, 0⟩, List.replicate (2 ^ 32 - 16) 0⟩, []) := by
  have h := LoadNext_short_header ⟨0, 20, 0, 0, 0⟩ (by decide)
    (List.replicate (2 ^ 32 - 16) 0) [] (by rw [List.length_replicate]; rfl)
  rwa [List.append_nil] at h

/-! ## where the stream ends -/

theorem toNat_sub_SizeofNlMsghdr_eq_zero (x : UInt32) :
    (x - UInt32.ofNat SizeofNlMsghdr).toNat = 0 ↔ x = UInt32.ofNat SizeofNlMsghdr := by
  rw [toNat_sub_SizeofNlMsghdr]
  have hx := x.toNat_lt_size
  change x.toNat < 2 ^ 32 at hx
  constructor
  · intro h; apply UInt32.toNat.inj; change x.toNat = 16; omega
  · rintro rfl; rfl

/-- **When `LoadNext` says `io.EOF`.**  On an empty stream, and on a stream that is one header and
nothing more, when that header announces a payload: the second `io.ReadFull` then finds no byte
and says `io.EOF`, not `io.ErrUnexpectedEOF`, so a file cut right after a header reads as one
that ended cleanly.  Any other short stream gives `io.ErrUnexpectedEOF`. -/
theorem LoadNext_eq_EOF_iff (rdr : List UInt8) :
    (LoadNext rdr).1 = .error .EOF ↔
      rdr = [] ∨ rdr.length = SizeofNlMsghdr ∧ (NlMsghdr.decode rdr).Len ≠ UInt32.ofNat SizeofNlMsghdr := by
  unfold LoadNext readFull
  by_cases h16 : SizeofNlMsghdr ≤ rdr.length
  · have hne : rdr ≠ [] := by rintro rfl; simp [SizeofNlMsghdr] at h16
    rw [if_pos h16]
    dsimp only
    rw [NlMsghdr.decode_take, ne_eq, ← toNat_sub_SizeofNlMsghdr_eq_zero]
    simp only [hne, false_or, List.length_drop, List.drop_eq_nil_iff]
    split_ifs <;> simp <;> omega
  · rw [if_neg h16]
    by_cases hr : rdr = []
    · subst hr; simp
    · simp [hr]; omega

end TcpInfo
