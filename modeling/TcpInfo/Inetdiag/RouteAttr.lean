import TcpInfo.Inetdiag.Msg

/-!
# inetdiag: the walk over the attribute bytes (`ParseRouteAttr`)

After the 72-byte head, a reply carries netlink attributes: a 4-byte `RtAttr` header (`Len`,
`Type`, host byte order), `Len - 4` value bytes, and padding up to `rtaAlignOf Len`.
`ParseRouteAttr` walks them while at least 4 bytes remain.

* `netlinkRouteAttrAndValue`   one header, checked: `4 ≤ Len ≤ len(b)`, else `EINVAL`;
* `parseRouteAttrStep`         one turn of the loop, the rest of the walk as a continuation;
* `ParseRouteAttr`             the loop, run on `len(b)` turns of fuel: each turn consumes at
                               least 4 bytes, so the fuel never runs out (`ParseRouteAttr_eq`);
* `Encodes l b`                `b` is the attributes `l` in the padded netlink encoding,
                               followed by fewer than 4 bytes;
* `ParseRouteAttr_iff_encodes` the walk returns a list exactly on such `b`, and returns `l`;
* `ParseRouteAttr_aligned`     on a 4-aligned run the walk never panics.

The advance `b = b[alen:]` is a slice expression: it panics when the last attribute is not
padded (`alen = rtaAlignOf Len > len(b)`).
-/

set_option linter.unusedVariables false

namespace TcpInfo

/-- `unix.RtAttr` -/
structure RtAttr where
  Len : UInt16
  «Type» : UInt16
  deriving DecidableEq, Repr

/-- `syscall.NetlinkRouteAttr` -/
structure NetlinkRouteAttr where
  Attr : RtAttr
  Value : List UInt8
  deriving DecidableEq, Repr

/-- what the walk returns: its panic, its error, or the attributes -/
abbrev AttrsResult := Go (Except GoError (List NetlinkRouteAttr))

/-- the header in the first four bytes, host byte order -/
def rtAttrOf (b0 b1 b2 b3 : UInt8) : RtAttr :=
  ⟨UInt16.ofNat (leUint [b0, b1]), UInt16.ofNat (leUint [b2, b3])⟩

theorem leUint_two_lt (x y : UInt8) : leUint [x, y] < UInt16.size := by
  have hx := x.toNat_lt_size
  have hy := y.toNat_lt_size
  change x.toNat < 256 at hx
  change y.toNat < 256 at hy
  show x.toNat + 256 * (y.toNat + 256 * 0) < 65536
  omega

@[simp] theorem rtAttrOf_Len (b0 b1 b2 b3 : UInt8) :
    (rtAttrOf b0 b1 b2 b3).Len.toNat = leUint [b0, b1] :=
  UInt16.toNat_ofNat_of_lt (leUint_two_lt b0 b1)

@[simp] theorem rtAttrOf_Type (b0 b1 b2 b3 : UInt8) :
    (rtAttrOf b0 b1 b2 b3).Type.toNat = leUint [b2, b3] :=
  UInt16.toNat_ofNat_of_lt (leUint_two_lt b2 b3)

/-- `netlinkRouteAttrAndValue`: the header, the bytes after it and the aligned length.  The
pointer cast reads four bytes; `&b[0]` panics on an empty slice, and the walk only calls it
with at least `SizeofRtAttr` bytes. -/
def netlinkRouteAttrAndValue (b : List UInt8) : Go (Except GoError (RtAttr × List UInt8 × Nat)) :=
  match b with
  | b0 :: b1 :: b2 :: b3 :: _ =>
    let a := rtAttrOf b0 b1 b2 b3
    if a.Len.toNat < SizeofRtAttr ∨ b.length < a.Len.toNat then .ok (.error .EINVAL)
    else .ok (.ok (a, b.drop SizeofRtAttr, rtaAlignOf a.Len.toNat))
  | _ => .error .indexOutOfRange

/-- one turn of the loop of `ParseRouteAttr` on the remaining bytes `b`; `k` walks the rest -/
def parseRouteAttrStep (k : List UInt8 → AttrsResult) (b : List UInt8) : AttrsResult :=
  if b.length < SizeofRtAttr then .ok (.ok []) else
  match netlinkRouteAttrAndValue b with
  | .error p => .error p
  | .ok (.error e) => .ok (.error e)
  | .ok (.ok (a, vbuf, alen)) =>
    let ra : NetlinkRouteAttr := ⟨a, vbuf.take (a.Len.toNat - SizeofRtAttr)⟩
    match goSliceFrom b alen with
    | .error p => .error p
    | .ok rest =>
      match k rest with
      | .error p => .error p
      | .ok (.error e) => .ok (.error e)
      | .ok (.ok attrs) => .ok (.ok (ra :: attrs))

/-- the loop, with at most `fuel` turns -/
def parseRouteAttrLoop : Nat → List UInt8 → AttrsResult
  | 0, _ => .ok (.ok [])
  | fuel + 1, b => parseRouteAttrStep (parseRouteAttrLoop fuel) b

/-- `ParseRouteAttr` -/
def ParseRouteAttr (b : List UInt8) : AttrsResult := parseRouteAttrLoop b.length b

/-! ## the loop equation -/

/-- the shape of a turn that reaches the advance: the header decoded from the first four
bytes, with `4 ≤ Len ≤ len(b)` -/
theorem netlinkRouteAttrAndValue_ok {b : List UInt8} {a : RtAttr} {vbuf : List UInt8}
    {alen : Nat} (h : netlinkRouteAttrAndValue b = .ok (.ok (a, vbuf, alen))) :
    SizeofRtAttr ≤ a.Len.toNat ∧ a.Len.toNat ≤ b.length ∧ vbuf = b.drop SizeofRtAttr ∧
      alen = rtaAlignOf a.Len.toNat := by
  match b, h with
  | b0 :: b1 :: b2 :: b3 :: r, h =>
    simp only [netlinkRouteAttrAndValue] at h
    split at h
    · cases h
    · cases h; exact ⟨by omega, by omega, rfl, rfl⟩

/-- a turn hands the continuation a strictly shorter rest -/
theorem parseRouteAttrStep_congr {k₁ k₂ : List UInt8 → AttrsResult} {b : List UInt8}
    (h : ∀ rest : List UInt8, rest.length < b.length → k₁ rest = k₂ rest) :
    parseRouteAttrStep k₁ b = parseRouteAttrStep k₂ b := by
  unfold parseRouteAttrStep
  split
  · rfl
  · split <;> try rfl
    rename_i a vbuf alen hv
    obtain ⟨h4, -, -, rfl⟩ := netlinkRouteAttrAndValue_ok hv
    have h4' := le_rtaAlignOf a.Len.toNat
    split
    · rfl
    · rename_i rest hs
      obtain ⟨-, rfl⟩ := goSliceFrom_eq_ok hs
      rw [h _ (by simp only [List.length_drop]; unfold SizeofRtAttr at *; omega)]

/-- the walk needs at most `len(b)` turns: with more fuel it answers the same -/
theorem parseRouteAttrLoop_fuel (fuel : Nat) (b : List UInt8) (h : b.length ≤ fuel) :
    parseRouteAttrLoop fuel b = ParseRouteAttr b := by
  induction fuel using Nat.strong_induction_on generalizing b with
  | _ fuel ih =>
    cases b with
    | nil => cases fuel <;> rfl
    | cons x xs =>
      obtain ⟨n, rfl⟩ : ∃ n, fuel = n + 1 := ⟨fuel - 1, by simp at h; omega⟩
      refine parseRouteAttrStep_congr fun rest hr => ?_
      simp only [List.length_cons] at h hr
      rw [ih n (by omega) rest (by omega), ih xs.length (by omega) rest (by omega)]

/-- **The loop equation.**  `ParseRouteAttr` is one turn of its loop followed by
`ParseRouteAttr` on the rest. -/
theorem ParseRouteAttr_eq (b : List UInt8) :
    ParseRouteAttr b = parseRouteAttrStep ParseRouteAttr b := by
  cases b with
  | nil => rfl
  | cons x xs =>
    exact parseRouteAttrStep_congr fun rest hr =>
      parseRouteAttrLoop_fuel xs.length rest (by simp at hr; omega)

/-! ## one turn, case by case -/

theorem ParseRouteAttr_of_lt {b : List UInt8} (h : b.length < SizeofRtAttr) :
    ParseRouteAttr b = .ok (.ok []) := by
  rw [ParseRouteAttr_eq, parseRouteAttrStep, if_pos h]

/-- a turn over a well-formed attribute: the header is checked, the value sliced out, and the
walk goes on `rtaAlignOf Len` bytes further -/
theorem ParseRouteAttr_cons (b0 b1 b2 b3 : UInt8) (r : List UInt8)
    (h4 : SizeofRtAttr ≤ leUint [b0, b1]) (hlen : rtaAlignOf (leUint [b0, b1]) ≤ r.length + 4) :
    ParseRouteAttr (b0 :: b1 :: b2 :: b3 :: r) =
      match ParseRouteAttr ((b0 :: b1 :: b2 :: b3 :: r).drop (rtaAlignOf (leUint [b0, b1]))) with
      | .error p => .error p
      | .ok (.error e) => .ok (.error e)
      | .ok (.ok attrs) =>
        .ok (.ok (⟨rtAttrOf b0 b1 b2 b3, r.take (leUint [b0, b1] - SizeofRtAttr)⟩ :: attrs)) := by
  have hle := le_rtaAlignOf (leUint [b0, b1])
  have hnot : ¬((rtAttrOf b0 b1 b2 b3).Len.toNat < SizeofRtAttr ∨
      (b0 :: b1 :: b2 :: b3 :: r).length < (rtAttrOf b0 b1 b2 b3).Len.toNat) := by
    simp only [rtAttrOf_Len, List.length_cons]; omega
  rw [ParseRouteAttr_eq, parseRouteAttrStep, if_neg (by simp [SizeofRtAttr]),
    netlinkRouteAttrAndValue, if_neg hnot]
  simp only [rtAttrOf_Len]
  rw [goSliceFrom_of_le (by simp only [List.length_cons]; omega)]
  rfl

/-- a header whose `Len` is below 4 or past the end: `EINVAL` -/
theorem ParseRouteAttr_einval (b0 b1 b2 b3 : UInt8) (r : List UInt8)
    (h : leUint [b0, b1] < SizeofRtAttr ∨ r.length + 4 < leUint [b0, b1]) :
    ParseRouteAttr (b0 :: b1 :: b2 :: b3 :: r) = .ok (.error .EINVAL) := by
  have hif : (rtAttrOf b0 b1 b2 b3).Len.toNat < SizeofRtAttr ∨
      (b0 :: b1 :: b2 :: b3 :: r).length < (rtAttrOf b0 b1 b2 b3).Len.toNat := by
    simp only [rtAttrOf_Len, List.length_cons]; omega
  rw [ParseRouteAttr_eq, parseRouteAttrStep, if_neg (by simp [SizeofRtAttr]),
    netlinkRouteAttrAndValue, if_pos hif]

/-- a valid header whose padding is cut off by the end of the bytes: the advance
`b = b[alen:]` panics -/
theorem ParseRouteAttr_unpadded (b0 b1 b2 b3 : UInt8) (r : List UInt8)
    (h4 : SizeofRtAttr ≤ leUint [b0, b1]) (hlen : leUint [b0, b1] ≤ r.length + 4)
    (hpad : r.length + 4 < rtaAlignOf (leUint [b0, b1])) :
    ParseRouteAttr (b0 :: b1 :: b2 :: b3 :: r) = .error .sliceOutOfRange := by
  have hnot : ¬((rtAttrOf b0 b1 b2 b3).Len.toNat < SizeofRtAttr ∨
      (b0 :: b1 :: b2 :: b3 :: r).length < (rtAttrOf b0 b1 b2 b3).Len.toNat) := by
    simp only [rtAttrOf_Len, List.length_cons]; omega
  rw [ParseRouteAttr_eq, parseRouteAttrStep, if_neg (by simp [SizeofRtAttr]),
    netlinkRouteAttrAndValue, if_neg hnot]
  simp only [rtAttrOf_Len]
  rw [goSliceFrom_of_lt (by simp only [List.length_cons]; omega)]

/-! ## the padded encoding -/

/-- `Encodes l b`: `b` is the attributes `l` (type, value) in the netlink encoding, each a
header `Len = 4 + len(value)`, `Type` in host byte order, the value, and
`rtaAlignOf Len - Len` padding bytes of ANY content, followed by fewer than 4 bytes -/
inductive Encodes : List (UInt16 × List UInt8) → List UInt8 → Prop
  | tail {s : List UInt8} : s.length < SizeofRtAttr → Encodes [] s
  | attr {t : UInt16} {v pad rest : List UInt8} {l : List (UInt16 × List UInt8)} :
      SizeofRtAttr + v.length < 65536 →
      pad.length = rtaAlignOf (SizeofRtAttr + v.length) - (SizeofRtAttr + v.length) →
      Encodes l rest →
      Encodes ((t, v) :: l)
        (leBytes16 (SizeofRtAttr + v.length) ++ leBytes16 t.toNat ++ v ++ pad ++ rest)

/-- the type and value of a decoded attribute -/
def NetlinkRouteAttr.typeValue (ra : NetlinkRouteAttr) : UInt16 × List UInt8 :=
  (ra.Attr.Type, ra.Value)

theorem rtAttrOf_Type_eq {b0 b1 b2 b3 : UInt8} {t : UInt16} (h : leUint [b2, b3] = t.toNat) :
    (rtAttrOf b0 b1 b2 b3).Type = t :=
  UInt16.toNat.inj (by rw [rtAttrOf_Type, h])

/-- the walk decodes every padded encoding -/
theorem ParseRouteAttr_of_encodes {l : List (UInt16 × List UInt8)} {b : List UInt8}
    (h : Encodes l b) :
    ∃ attrs, ParseRouteAttr b = .ok (.ok attrs) ∧ attrs.map NetlinkRouteAttr.typeValue = l := by
  induction h with
  | tail hs => exact ⟨[], ParseRouteAttr_of_lt hs, rfl⟩
  | @attr t v pad rest l hlen hpad _ ih =>
    obtain ⟨attrs, hrest, hmap⟩ := ih
    obtain ⟨b0, b1, hL⟩ : ∃ b0 b1, leBytes16 (SizeofRtAttr + v.length) = [b0, b1] := ⟨_, _, rfl⟩
    obtain ⟨b2, b3, hT⟩ : ∃ b2 b3, leBytes16 t.toNat = [b2, b3] := ⟨_, _, rfl⟩
    have hL' : leUint [b0, b1] = SizeofRtAttr + v.length := hL ▸ leUint_leBytes16 hlen
    have hT' : leUint [b2, b3] = t.toNat := hT ▸ leUint_leBytes16 t.toNat_lt_size
    have hal : rtaAlignOf (SizeofRtAttr + v.length) = SizeofRtAttr + v.length + pad.length := by
      have := le_rtaAlignOf (SizeofRtAttr + v.length); omega
    have hb : leBytes16 (SizeofRtAttr + v.length) ++ leBytes16 t.toNat ++ v ++ pad ++ rest =
        b0 :: b1 :: b2 :: b3 :: (v ++ pad ++ rest) := by
      rw [hL, hT]; simp
    have hdrop : (b0 :: b1 :: b2 :: b3 :: (v ++ pad ++ rest)).drop
        (rtaAlignOf (leUint [b0, b1])) = rest := by
      rw [hL', hal, show b0 :: b1 :: b2 :: b3 :: (v ++ pad ++ rest) =
        ([b0, b1, b2, b3] ++ v ++ pad) ++ rest by simp, List.drop_left']
      simp [SizeofRtAttr]; omega
    rw [hb, ParseRouteAttr_cons b0 b1 b2 b3 _ (by omega)
      (by rw [hL', hal]; simp [SizeofRtAttr]; omega), hdrop, hrest]
    refine ⟨_, rfl, ?_⟩
    simp only [List.map_cons, hmap, NetlinkRouteAttr.typeValue, rtAttrOf_Type_eq hT', hL',
      Nat.add_sub_cancel_left, List.append_assoc, List.take_left]

/-- a run of fewer than four bytes is `[]`, `[_]`, `[_, _]` or `[_, _, _]`; otherwise it has a
header's worth of bytes in front -/
theorem exists_cons4 {b : List UInt8} (h : ¬b.length < SizeofRtAttr) :
    ∃ b0 b1 b2 b3 r, b = b0 :: b1 :: b2 :: b3 :: r := by
  match b, h with
  | b0 :: b1 :: b2 :: b3 :: r, _ => exact ⟨b0, b1, b2, b3, r, rfl⟩
  | [], h | [_], h | [_, _], h | [_, _, _], h => simp [SizeofRtAttr] at h

/-- cutting the bytes after a header into value, padding and rest -/
private theorem split_value_pad {r : List UInt8} {L alen : Nat} (h4 : 4 ≤ L) (hL : L ≤ alen)
    (hal : alen ≤ r.length + 4) :
    r = r.take (L - 4) ++ (r.drop (L - 4)).take (alen - L) ++ r.drop (alen - 4) := by
  conv_lhs => rw [← List.take_append_drop (L - 4) r,
    ← List.take_append_drop (alen - L) (r.drop (L - 4)), List.drop_drop]
  rw [show L - 4 + (alen - L) = alen - 4 by omega, List.append_assoc]

/-- whatever the walk returns a list on is the padded encoding of that list -/
theorem encodes_of_ParseRouteAttr {b : List UInt8} {attrs : List NetlinkRouteAttr}
    (h : ParseRouteAttr b = .ok (.ok attrs)) :
    Encodes (attrs.map NetlinkRouteAttr.typeValue) b := by
  obtain ⟨n, hn⟩ : ∃ n, b.length = n := ⟨_, rfl⟩
  induction n using Nat.strong_induction_on generalizing b attrs with
  | _ n ih =>
  have hS : SizeofRtAttr = 4 := rfl
  by_cases hs : b.length < SizeofRtAttr
  · rw [ParseRouteAttr_of_lt hs] at h
    cases h
    exact .tail hs
  obtain ⟨b0, b1, b2, b3, r, rfl⟩ := exists_cons4 hs
  have hLt : leUint [b0, b1] < 65536 := leUint_two_lt b0 b1
  by_cases hE : leUint [b0, b1] < SizeofRtAttr ∨ r.length + 4 < leUint [b0, b1]
  · rw [ParseRouteAttr_einval b0 b1 b2 b3 r hE] at h; cases h
  by_cases hP : r.length + 4 < rtaAlignOf (leUint [b0, b1])
  · rw [ParseRouteAttr_unpadded b0 b1 b2 b3 r (by omega) (by omega) hP] at h; cases h
  rw [ParseRouteAttr_cons b0 b1 b2 b3 r (by omega) (by omega)] at h
  have hle := le_rtaAlignOf (leUint [b0, b1])
  generalize hL : leUint [b0, b1] = L at *
  generalize hA : rtaAlignOf L = alen at *
  split at h
  · cases h
  · cases h
  · rename_i attrs' hrest
    cases h
    have hdrop : (b0 :: b1 :: b2 :: b3 :: r).drop alen = r.drop (alen - 4) := by
      rw [show alen = alen - 4 + 4 by omega]; rfl
    rw [hdrop] at hrest
    have henc := ih _ (by simp only [List.length_cons, List.length_drop] at hn ⊢; omega) hrest rfl
    have hv : (r.take (L - 4)).length = L - 4 := by simp only [List.length_take]; omega
    have hpad := @Encodes.attr (rtAttrOf b0 b1 b2 b3).Type (r.take (L - 4))
      ((r.drop (L - 4)).take (alen - L)) _ _ (by omega)
      (by rw [hv, hS, show 4 + (L - 4) = L by omega, hA]
          simp only [List.length_take, List.length_drop]; omega)
      henc
    have hb : leBytes16 (SizeofRtAttr + (r.take (L - 4)).length) ++
        leBytes16 (rtAttrOf b0 b1 b2 b3).Type.toNat ++ r.take (L - 4) ++
        (r.drop (L - 4)).take (alen - L) ++ r.drop (alen - 4) = b0 :: b1 :: b2 :: b3 :: r := by
      rw [hv, hS, show 4 + (L - 4) = L by omega, rtAttrOf_Type, ← hL, leBytes16_leUint,
        leBytes16_leUint, hL]
      conv_rhs => rw [split_value_pad (r := r) (by omega) hle (by omega)]
      simp
    rw [hb] at hpad
    simpa [NetlinkRouteAttr.typeValue, hS] using hpad

/-- on a run whose length is a multiple of 4 (every attribute padded, as the kernel sends
them) the walk never panics -/
theorem ParseRouteAttr_aligned {b : List UInt8} (h : b.length % 4 = 0) (p : Panic) :
    ParseRouteAttr b ≠ .error p := by
  obtain ⟨n, hn⟩ : ∃ n, b.length = n := ⟨_, rfl⟩
  induction n using Nat.strong_induction_on generalizing b p with
  | _ n ih =>
  have hS : SizeofRtAttr = 4 := rfl
  by_cases hs : b.length < SizeofRtAttr
  · rw [ParseRouteAttr_of_lt hs]; exact fun h => nomatch h
  obtain ⟨b0, b1, b2, b3, r, rfl⟩ := exists_cons4 hs
  by_cases hE : leUint [b0, b1] < SizeofRtAttr ∨ r.length + 4 < leUint [b0, b1]
  · rw [ParseRouteAttr_einval b0 b1 b2 b3 r hE]; exact fun h => nomatch h
  have hA := rtaAlignOf_mod (leUint [b0, b1])
  have hA' := rtaAlignOf_lt (leUint [b0, b1])
  have hle := le_rtaAlignOf (leUint [b0, b1])
  simp only [List.length_cons] at h hn
  rw [ParseRouteAttr_cons b0 b1 b2 b3 r (by omega) (by omega)]
  have hlen : ((b0 :: b1 :: b2 :: b3 :: r).drop (rtaAlignOf (leUint [b0, b1]))).length =
      r.length + 4 - rtaAlignOf (leUint [b0, b1]) := by rw [List.length_drop]; rfl
  split
  · rename_i p' hp
    exact absurd hp (ih _ (by omega) (by omega) p' hlen)
  all_goals exact fun h => nomatch h

/-- **Decoding is exactly the padded encoding.**  `ParseRouteAttr b` returns a list of
attributes without error exactly when `b` is the padded netlink encoding of some list `l`
followed by fewer than 4 bytes; the list returned is then `l`, in order, duplicates kept. -/
theorem ParseRouteAttr_iff_encodes (b : List UInt8) (l : List (UInt16 × List UInt8)) :
    (∃ attrs, ParseRouteAttr b = .ok (.ok attrs) ∧ attrs.map NetlinkRouteAttr.typeValue = l) ↔
      Encodes l b := by
  constructor
  · rintro ⟨attrs, h, rfl⟩
    exact encodes_of_ParseRouteAttr h
  · exact ParseRouteAttr_of_encodes

end TcpInfo
