import TcpInfo.Inetdiag.RouteAttr
import TcpInfo.Inetdiag.Addr

/-!
# inetdiag: `Parse`, from a netlink message to a `ParsedMessage`

`Parse` checks the message type, cuts off the 72-byte head, drops local connections when asked
to, walks the attributes and scatters their values into a table indexed by type.

* `maxAttrType`, `clampAttrType`   the first loop: the largest type, as a `uint16`, clamped to
                                   `2 * INET_DIAG_MAX`;
* `scatterAttrs`                   the second loop: `Attributes[t] = a.Value`, skipping types
                                   above the clamp;
* `Parse`;
* `Parse_attributes`               the table: `B + 1` entries for `B = min (max type) 38`, the
                                   LAST value of each type `t ≤ B` at `t`, nothing dropped but
                                   the types above `B`, and no index out of range;
* `Parse_skipLocal_iff`            `Parse msg true` drops the message exactly when one of its
                                   addresses is local for `localAddr`, read without the family;
* `Parse_drops_v6_by_v4_reading`   so an `AF_INET6` reply from `7f00:1::`, local by neither of
                                   its addresses, is dropped: the source is read as `127.0.0.1`;
* `Parse_panics_unpadded`          a last attribute without its padding makes `Parse` panic;
* `Parse_aligned`                  on data whose length is a multiple of 4, as netlink pads every
                                   message, `Parse` never panics, whatever the bytes.
-/

set_option linter.unusedVariables false

namespace TcpInfo

/-- `syscall.NlMsghdr` -/
structure NlMsghdr where
  Len : UInt32
  «Type» : UInt16
  Flags : UInt16
  Seq : UInt32
  Pid : UInt32
  deriving DecidableEq, Repr

/-- `syscall.NetlinkMessage` -/
structure NetlinkMessage where
  Header : NlMsghdr
  Data : List UInt8
  deriving DecidableEq

/-! ## the attribute table -/

/-- the first loop of the table: `if t > maxAttrType { maxAttrType = t }` over the attributes,
from `uint16(0)` -/
def maxAttrType (attrs : List NetlinkRouteAttr) : UInt16 :=
  attrs.foldl (fun m a => if a.Attr.Type > m then a.Attr.Type else m) 0

/-- `if maxAttrType > 2*INET_DIAG_MAX { maxAttrType = 2 * INET_DIAG_MAX }` -/
def clampAttrType (m : UInt16) : UInt16 :=
  if m.toNat > 2 * INET_DIAG_MAX then UInt16.ofNat (2 * INET_DIAG_MAX) else m

/-- the second loop: `parsedMsg.Attributes[t] = a.Value`, and `continue` (after a log line) for
a type above the clamp -/
def scatterAttrs (maxT : UInt16) :
    List (Option (List UInt8)) → List NetlinkRouteAttr → Go (List (Option (List UInt8)))
  | table, [] => .ok table
  | table, a :: as =>
    if a.Attr.Type > maxT then scatterAttrs maxT table as
    else
      match goSet table a.Attr.Type.toNat (some a.Value) with
      | .error p => .error p
      | .ok table' => scatterAttrs maxT table' as

/-- `make([]RouteAttrValue, maxAttrType+1, maxAttrType+1)` and the scatter -/
def attributeTable (attrs : List NetlinkRouteAttr) : Go (List (Option (List UInt8))) :=
  let maxT := clampAttrType (maxAttrType attrs)
  scatterAttrs maxT (List.replicate (maxT + 1).toNat none) attrs

/-- `Parse`: `(nil, nil)` is `.ok (.ok none)`.  The timestamp is left zero for the caller. -/
def Parse (msg : NetlinkMessage) (skipLocal : Bool) : Go (Except GoError (Option ParsedMessage)) :=
  if msg.Header.Type.toNat ≠ 20 then .ok (.error .ErrNotType20) else
  match splitInetDiagMsg msg.Data with
  | none => .ok (.error .ErrParseFailed)
  | some (raw, attrBytes) =>
    let skip : Except GoError Bool :=
      if skipLocal then
        (RawInetDiagMsg.Parse raw).map fun idm => isLocal idm.ID.SrcIP || isLocal idm.ID.DstIP
      else .ok false
    match skip with
    | .error e => .ok (.error e)
    | .ok true => .ok (.ok none)
    | .ok false =>
      match ParseRouteAttr attrBytes with
      | .error p => .error p
      | .ok (.error e) => .ok (.error e)
      | .ok (.ok attrs) =>
        match attributeTable attrs with
        | .error p => .error p
        | .ok table => .ok (.ok (some ⟨0, raw, table⟩))

/-! ## the table, entry by entry -/

/-- the largest type among the attributes, or 0 when there is none -/
def largestType (attrs : List NetlinkRouteAttr) : Nat :=
  attrs.foldr (fun a m => max a.Attr.Type.toNat m) 0

/-- the value of the LAST attribute of type `t`, if any -/
def lastValue (attrs : List NetlinkRouteAttr) (t : Nat) : Option (List UInt8) :=
  (attrs.reverse.find? (·.Attr.Type.toNat = t)).map (·.Value)

/-- what the scatter leaves at index `t`, starting from `v` -/
def scatterAt (t : Nat) (v : Option (List UInt8)) (attrs : List NetlinkRouteAttr) :
    Option (List UInt8) :=
  attrs.foldl (fun acc a => if a.Attr.Type.toNat = t then some a.Value else acc) v

theorem maxAttrType_foldl (attrs : List NetlinkRouteAttr) (m : UInt16) :
    (attrs.foldl (fun m a => if a.Attr.Type > m then a.Attr.Type else m) m).toNat =
      max m.toNat (largestType attrs) := by
  induction attrs generalizing m with
  | nil => simp [largestType]
  | cons a as ih =>
    simp only [List.foldl_cons, ih, largestType, List.foldr_cons]
    rw [← largestType]
    split <;> rename_i h
    · have : m.toNat < a.Attr.Type.toNat := h
      omega
    · have : ¬m.toNat < a.Attr.Type.toNat := h
      omega

theorem maxAttrType_toNat (attrs : List NetlinkRouteAttr) :
    (maxAttrType attrs).toNat = largestType attrs := by
  simp [maxAttrType, maxAttrType_foldl]

theorem clampAttrType_toNat (m : UInt16) :
    (clampAttrType m).toNat = min m.toNat (2 * INET_DIAG_MAX) := by
  unfold clampAttrType INET_DIAG_MAX
  split
  · rw [UInt16.toNat_ofNat_of_lt (by decide)]; omega
  · omega

/-- the scatter never indexes out of range when the table has room for the clamp, keeps the
table's length, and leaves at each `t ≤ maxT` what `scatterAt` says -/
theorem scatterAttrs_spec (maxT : UInt16) (attrs : List NetlinkRouteAttr)
    (table : List (Option (List UInt8))) (hlen : maxT.toNat < table.length) :
    ∃ table', scatterAttrs maxT table attrs = .ok table' ∧ table'.length = table.length ∧
      ∀ t ≤ maxT.toNat, table'[t]? = some (scatterAt t (table.getD t none) attrs) := by
  induction attrs generalizing table with
  | nil =>
    refine ⟨table, rfl, rfl, fun t ht => ?_⟩
    simp [scatterAt, List.getElem?_eq_getElem (show t < table.length by omega)]
  | cons a as ih =>
    by_cases hbig : a.Attr.Type > maxT
    · have hne : ∀ t ≤ maxT.toNat, a.Attr.Type.toNat ≠ t := fun t ht => by
        have : maxT.toNat < a.Attr.Type.toNat := hbig
        omega
      obtain ⟨table', h, hl, ht⟩ := ih table hlen
      refine ⟨table', by simp only [scatterAttrs, if_pos hbig, h], hl, fun t hle => ?_⟩
      simp only [scatterAt, List.foldl_cons, if_neg (hne t hle)] at ht ⊢
      exact ht t hle
    · have hin : a.Attr.Type.toNat < table.length := by
        have : ¬maxT.toNat < a.Attr.Type.toNat := hbig
        omega
      obtain ⟨table', h, hl, ht⟩ := ih (table.set a.Attr.Type.toNat (some a.Value))
        (by simpa using hlen)
      refine ⟨table', by simp only [scatterAttrs, if_neg hbig, goSet_of_lt _ hin, h],
        by simpa using hl, fun t hle => ?_⟩
      rw [ht t hle]
      simp only [scatterAt, List.foldl_cons]
      congr 2
      by_cases e : a.Attr.Type.toNat = t
      · subst e; simp [hin]
      · simp [e, List.getD_eq_getElem?_getD, List.getElem?_set_ne e]

/-- the scatter's entry is the last value of its type, or what the table held -/
theorem scatterAt_eq (t : Nat) (v : Option (List UInt8)) (attrs : List NetlinkRouteAttr) :
    scatterAt t v attrs = (lastValue attrs t).or v := by
  induction attrs using List.reverseRecOn generalizing v with
  | nil => simp [scatterAt, lastValue]
  | append_singleton as a ih =>
    simp only [scatterAt, List.foldl_append, List.foldl_cons, List.foldl_nil] at ih ⊢
    rw [ih]
    by_cases e : a.Attr.Type.toNat = t <;> simp [lastValue, e]

theorem lastValue_ne_none {attrs : List NetlinkRouteAttr} {a : NetlinkRouteAttr} (h : a ∈ attrs) :
    lastValue attrs a.Attr.Type.toNat ≠ none := by
  simp only [lastValue, ne_eq, Option.map_eq_none', List.find?_eq_none, List.mem_reverse,
    decide_eq_true_eq, not_forall, not_not]
  exact ⟨a, h, rfl⟩

private theorem uint16_succ_toNat (u : UInt16) (h : u.toNat < 65535) :
    (u + 1).toNat = u.toNat + 1 := by
  rw [UInt16.add_def]
  show (u.toBitVec + 1#16).toNat = _
  rw [BitVec.toNat_add]
  show (u.toNat + 1) % 65536 = _
  omega

/-- the table `Parse` builds from the walked attributes: never out of range, `B + 1` entries
(`maxAttrType + 1` does not wrap), the last value of each type `t ≤ B` at `t` -/
theorem attributeTable_spec (attrs : List NetlinkRouteAttr) :
    ∃ table, attributeTable attrs = .ok table ∧
      table.length = min (largestType attrs) (2 * INET_DIAG_MAX) + 1 ∧
      ∀ t ≤ min (largestType attrs) (2 * INET_DIAG_MAX), table[t]? = some (lastValue attrs t) := by
  have hB : (clampAttrType (maxAttrType attrs)).toNat =
      min (largestType attrs) (2 * INET_DIAG_MAX) := by
    rw [clampAttrType_toNat, maxAttrType_toNat]
  have hB1 : (clampAttrType (maxAttrType attrs) + 1).toNat =
      min (largestType attrs) (2 * INET_DIAG_MAX) + 1 := by
    rw [uint16_succ_toNat _ (by rw [hB]; unfold INET_DIAG_MAX; omega), hB]
  obtain ⟨table, h, hl, ht⟩ := scatterAttrs_spec (clampAttrType (maxAttrType attrs)) attrs
    (List.replicate (clampAttrType (maxAttrType attrs) + 1).toNat none) (by simp [hB1, hB])
  refine ⟨table, h, by simp [hl, hB1], fun t hle => ?_⟩
  rw [ht t (by omega), scatterAt_eq, List.getD_eq_getElem?_getD,
    List.getElem?_replicate_of_lt (by omega), Option.getD_some, Option.or_none]

/-- **The attribute table.**  On a message of type 20 with at least 72 bytes of data whose
attribute bytes walk to `attrs`, `Parse msg false` succeeds, keeps the 72-byte head, and builds
a table of `B + 1` entries, `B = min (largest type) (2 * INET_DIAG_MAX)`, holding at every
`t ≤ B` the value of the LAST attribute of type `t` (nil if none): only attributes of type
above `B` are dropped, and no index is out of range. -/
theorem Parse_attributes (msg : NetlinkMessage) (attrs : List NetlinkRouteAttr)
    (hT : msg.Header.Type.toNat = 20) (hlen : 72 ≤ msg.Data.length)
    (hA : ParseRouteAttr (msg.Data.drop 72) = .ok (.ok attrs)) :
    ∃ pm, Parse msg false = .ok (.ok (some pm)) ∧ pm.RawIDM = msg.Data.take 72 ∧
      pm.Attributes.length = min (largestType attrs) (2 * INET_DIAG_MAX) + 1 ∧
      (∀ t ≤ min (largestType attrs) (2 * INET_DIAG_MAX),
        pm.Attributes[t]? = some (lastValue attrs t)) ∧
      ∀ a ∈ attrs, a.Attr.Type.toNat ≤ min (largestType attrs) (2 * INET_DIAG_MAX) →
        ∃ v, pm.Attributes[a.Attr.Type.toNat]? = some (some v) := by
  obtain ⟨table, htab, hl, ht⟩ := attributeTable_spec attrs
  have hsplit : splitInetDiagMsg msg.Data = some (msg.Data.take 72, msg.Data.drop 72) := by
    simp [splitInetDiagMsg]; omega
  refine ⟨⟨0, msg.Data.take 72, table⟩, ?_, rfl, hl, ht, fun a ha hle => ?_⟩
  · simp only [Parse, hT, ne_eq, not_true_eq_false, if_false, hsplit, Bool.false_eq_true,
      if_false, hA, htab]
  · rw [ht _ hle]
    cases e : lastValue attrs a.Attr.Type.toNat with
    | none => exact absurd e (lastValue_ne_none ha)
    | some v => exact ⟨v, rfl⟩

/-- the head of an established IPv4 socket from 10.0.0.1 to 10.0.0.2, cookie 1 -/
def estabHead : List UInt8 :=
  [2, 1, 0, 0] ++ List.replicate 4 0 ++ [10, 0, 0, 1] ++ List.replicate 12 0 ++
    [10, 0, 0, 2] ++ List.replicate 16 0 ++ [1] ++ List.replicate 27 0

/-- an `INET_DIAG_INFO` attribute of 60 zero bytes -/
def infoAttr : List UInt8 := [64, 0, 2, 0] ++ List.replicate 60 0

/-- a reply with `tcp_info` only -/
def infoOnly : NetlinkMessage := ⟨⟨136, 20, 0, 0, 0⟩, estabHead ++ infoAttr⟩

theorem Parse_attributes_infoOnly :
    (infoOnly.Header.Type.toNat = 20 ∧ 72 ≤ infoOnly.Data.length ∧
      ParseRouteAttr (infoOnly.Data.drop 72) = .ok (.ok [⟨⟨64, 2⟩, List.replicate 60 0⟩])) ∧
    ∃ pm, Parse infoOnly false = .ok (.ok (some pm)) ∧ pm.RawIDM = infoOnly.Data.take 72 ∧
      pm.Attributes.length = min (largestType [⟨⟨64, 2⟩, List.replicate 60 0⟩]) (2 * INET_DIAG_MAX) + 1 ∧
      (∀ t ≤ min (largestType [⟨⟨64, 2⟩, List.replicate 60 0⟩]) (2 * INET_DIAG_MAX),
        pm.Attributes[t]? = some (lastValue [⟨⟨64, 2⟩, List.replicate 60 0⟩] t)) ∧
      ∀ a ∈ [(⟨⟨64, 2⟩, List.replicate 60 0⟩ : NetlinkRouteAttr)],
        a.Attr.Type.toNat ≤ min (largestType [⟨⟨64, 2⟩, List.replicate 60 0⟩]) (2 * INET_DIAG_MAX) →
        ∃ v, pm.Attributes[a.Attr.Type.toNat]? = some (some v) :=
  ⟨⟨rfl, by decide, rfl⟩, Parse_attributes infoOnly _ rfl (by decide) rfl⟩

/-! ## dropping local connections -/

/-- **Local connections, read without the family.**  On a message of type 20 with at least
72 bytes of data, `Parse msg true` returns `(nil, nil)` exactly when the source or the
destination address field is local for `localAddr`: loopback, link-local unicast, multicast
or unspecified, each field read as IPv4 when its bytes 4..15 are zero and as IPv6 otherwise,
whatever `IDiagFamily` says. -/
theorem Parse_skipLocal_iff (msg : NetlinkMessage) (hT : msg.Header.Type.toNat = 20)
    (hlen : 72 ≤ msg.Data.length) :
    Parse msg true = .ok (.ok none) ↔
      (localAddr (InetDiagMsg.decode msg.Data).ID.IDiagSrc ||
        localAddr (InetDiagMsg.decode msg.Data).ID.IDiagDst) = true := by
  have hsplit : splitInetDiagMsg msg.Data = some (msg.Data.take 72, msg.Data.drop 72) := by
    simp [splitInetDiagMsg]; omega
  have hraw := RawInetDiagMsg.Parse_eq_ok (show 72 ≤ (msg.Data.take 72).length by simp; omega)
  simp only [Parse, hT, ne_eq, not_true_eq_false, if_false, hsplit, if_true, hraw,
    Except.map, InetDiagMsg.decode_take, InetDiagSockID.SrcIP, InetDiagSockID.DstIP, isLocal_ip]
  cases (localAddr (InetDiagMsg.decode msg.Data).ID.IDiagSrc ||
    localAddr (InetDiagMsg.decode msg.Data).ID.IDiagDst)
  · simp only [Bool.false_eq_true, iff_false]
    split
    · exact fun h => nomatch h
    · exact fun h => nomatch h
    · split <;> exact fun h => nomatch h
  · simp

/-- the head of an `AF_INET6` reply from `7f00:1::` to `2001:db8::1` -/
def v6HeadFrom7f00 : List UInt8 :=
  [10, 1, 0, 0] ++ [0, 0, 0, 0] ++ [0x7f, 0, 0, 1] ++ List.replicate 12 0 ++
    [0x20, 0x01, 0x0d, 0xb8] ++ List.replicate 11 0 ++ [1] ++ List.replicate 32 0

/-- a message of type 20 carrying only that head -/
def v6From7f00 : NetlinkMessage := ⟨⟨88, 20, 0, 0, 0⟩, v6HeadFrom7f00⟩

/-- read by its family, neither address of `v6From7f00` is local, yet `Parse` drops the
message: `7f00:1::` has zero bytes 4..15 and is read as `127.0.0.1` -/
theorem Parse_drops_v6_by_v4_reading :
    Parse v6From7f00 true = .ok (.ok none) ∧
      isLocal (familyIP (InetDiagMsg.decode v6HeadFrom7f00).IDiagFamily
        (InetDiagMsg.decode v6HeadFrom7f00).ID.IDiagSrc) = false ∧
      isLocal (familyIP (InetDiagMsg.decode v6HeadFrom7f00).IDiagFamily
        (InetDiagMsg.decode v6HeadFrom7f00).ID.IDiagDst) = false := by
  refine ⟨rfl, ?_, ?_⟩ <;> decide

/-! ## an unpadded last attribute -/

/-- a reply whose only attribute has `Len = 5` and no padding after it -/
def unpaddedTail : NetlinkMessage :=
  ⟨⟨81, 20, 0, 0, 0⟩, List.replicate 72 0 ++ [5, 0, 1, 0, 0xab]⟩

/-- `Parse` panics on it: the advance `b = b[8:]` goes past the 5 remaining bytes -/
theorem Parse_panics_unpadded : Parse unpaddedTail false = .error .sliceOutOfRange := rfl

/-- **`Parse` never panics on a padded message.**  When the data's length is a multiple of 4,
`Parse` returns a `ParsedMessage`, `(nil, nil)` or an error, whatever the bytes: the attribute
bytes after the 72-byte head are then 4-aligned, so the walk never slices past its end, and the
table has room for every type it scatters. -/
theorem Parse_aligned (msg : NetlinkMessage) (skipLocal : Bool) (h : msg.Data.length % 4 = 0) :
    ∃ r, Parse msg skipLocal = .ok r := by
  unfold Parse
  split
  · exact ⟨_, rfl⟩
  split
  · exact ⟨_, rfl⟩
  rename_i raw attrBytes hs
  have ha : attrBytes.length % 4 = 0 := by
    simp only [splitInetDiagMsg] at hs
    split at hs
    · cases hs
    · cases hs
      simp only [List.length_drop]
      unfold rtaAlignOf sizeofInetDiagMsg RTA_ALIGNTO at *
      omega
  rcases hp : ParseRouteAttr attrBytes with p | e | attrs
  · exact absurd hp (ParseRouteAttr_aligned ha p)
  · dsimp only; split <;> exact ⟨_, rfl⟩
  · obtain ⟨table, ht, -⟩ := attributeTable_spec attrs
    dsimp only; rw [ht]; split <;> exact ⟨_, rfl⟩

theorem Parse_aligned_infoOnly :
    infoOnly.Data.length % 4 = 0 ∧ ∃ r, Parse infoOnly true = .ok r :=
  have h : infoOnly.Data.length % 4 = 0 := by simp [infoOnly, estabHead, infoAttr]
  ⟨h, Parse_aligned infoOnly true h⟩

end TcpInfo
