import TcpInfo.Inetdiag.Parse

/-!
# inetdiag: `Compare`, the significance test between two snapshots

`pm.Compare(previous)` decides whether `pm` is worth saving after `previous`: a state change,
a missing `tcp_info`, a change of the `tcp_info` bytes outside the four `last_*` fields
(`[lastDataSentOffset, pmtuOffset) = [44, 60)`), or a change of any other attribute.  It reads
`Attributes[INET_DIAG_INFO]` of both tables, slices the `tcp_info` values at 60 and 44, and
ranges over the PREVIOUS table only.

* `compareAttrsFrom`             the loop over `previous.Attributes`;
* `Compare`;
* `compareAttrsFrom_eq_ok_iff`   the loop answers `NoMajorChange` exactly when `pm`'s table
                                 agrees with every entry of the previous one but INFO (and so
                                 has at least as many entries);
* `infoAgree_iff`                the two slice tests: equal length, equal outside `[44, 60)`;
* `Compare_eq_noMajorChange_iff`   what `NoMajorChange` means: same state, both INFO present,
                                 at least 60 bytes, equal outside `[44, 60)`, and agreement on
                                 every tag of the PREVIOUS table;
* `Compare_misses_new_tag`       a new attribute past the end of the previous table is missed;
* `Compare_panics_without_info`  two replies without attributes make `Compare` panic;
* `Compare_ok_of_info`           `Compare` returns when both INFO values are there, of at least
                                 60 bytes, and `pm`'s table is as long as the previous one;
* `Compare_self`                 a snapshot is no change against itself exactly when it carries
                                 such an INFO value.
-/

set_option linter.unusedVariables false

namespace TcpInfo

/-- the loop `for tp := range previous.Attributes` from index `tp` on, with `pm.Attributes`
as `cur` -/
def compareAttrsFrom (cur : List (Option (List UInt8))) :
    Nat → List (Option (List UInt8)) → Go ChangeType
  | _, [] => .ok .NoMajorChange
  | tp, a :: rest =>
    if tp = INET_DIAG_INFO then compareAttrsFrom cur (tp + 1) rest else
    match goIndex cur tp with
    | .error p => .error p
    | .ok b =>
      match a, b with
      | none, some _ => .ok .NewAttribute
      | some _, none => .ok .LostAttribute
      | none, none => compareAttrsFrom cur (tp + 1) rest
      | some a, some b =>
        if a.length ≠ b.length then .ok .AttributeLength
        else if bytesCompare a b ≠ 0 then .ok .Other
        else compareAttrsFrom cur (tp + 1) rest

/-- `pm.Compare(previous)` -/
def Compare (pm : ParsedMessage) (previous : Option ParsedMessage) :
    Go (ChangeType × Option GoError) :=
  match previous with
  | none => .ok (.PreviousWasNil, none)
  | some prev =>
    match RawInetDiagMsg.Parse prev.RawIDM, RawInetDiagMsg.Parse pm.RawIDM with
    | .error _, _ => .ok (.NoMajorChange, some .ErrParseFailed)
    | .ok _, .error _ => .ok (.NoMajorChange, some .ErrParseFailed)
    | .ok prevIDM, .ok pmIDM =>
      if prevIDM.IDiagState ≠ pmIDM.IDiagState then .ok (.IDiagStateChange, none) else
      match goIndex prev.Attributes INET_DIAG_INFO, goIndex pm.Attributes INET_DIAG_INFO with
      | .error p, _ => .error p
      | .ok _, .error p => .error p
      | .ok (some a), .ok (some b) =>
        match goSliceFrom a pmtuOffset, goSliceFrom b pmtuOffset with
        | .error p, _ => .error p
        | .ok _, .error p => .error p
        | .ok a60, .ok b60 =>
          if bytesCompare a60 b60 ≠ 0 then .ok (.StateOrCounterChange, none)
          else if bytesCompare (a.take lastDataSentOffset) (b.take lastDataSentOffset) ≠ 0 then
            .ok (.StateOrCounterChange, none)
          else (compareAttrsFrom pm.Attributes 0 prev.Attributes).map fun c => (c, none)
      | .ok _, .ok _ => .ok (.NoTCPInfo, none)

/-! ## what `NoMajorChange` means -/

/-- one visited tag other than INFO: the loop goes on exactly when `pm` holds the same entry -/
theorem compareAttrsFrom_cons {cur : List (Option (List UInt8))} {tp : Nat}
    {a : Option (List UInt8)} {rest : List (Option (List UInt8))} (htp : tp ≠ INET_DIAG_INFO) :
    compareAttrsFrom cur tp (a :: rest) = .ok .NoMajorChange ↔
      cur[tp]? = some a ∧ compareAttrsFrom cur (tp + 1) rest = .ok .NoMajorChange := by
  simp only [compareAttrsFrom, if_neg htp, goIndex]
  cases hb : cur[tp]? with
  | none => simp
  | some b =>
    cases a with
    | none => cases b <;> simp
    | some a =>
      cases b with
      | none => simp
      | some b =>
        simp only [Option.some.injEq]
        by_cases hab : b = a
        · subst hab; simp
        · have hc : bytesCompare a b ≠ 0 := fun h => hab ((bytesCompare_eq_zero a b).mp h).symm
          simp only [hab, false_and, iff_false]
          split <;> simp [hc]

private theorem forall_getElem?_cons {α : Type} {a : α} {l : List α} {P : Nat → α → Prop} :
    (∀ i x, (a :: l)[i]? = some x → P i x) ↔ P 0 a ∧ ∀ i x, l[i]? = some x → P (i + 1) x := by
  constructor
  · intro h
    exact ⟨h 0 a (by simp), fun i x hx => h (i + 1) x (by simpa using hx)⟩
  · rintro ⟨h0, h⟩ i x hx
    cases i with
    | zero => simp only [List.getElem?_cons_zero, Option.some.injEq] at hx; exact hx ▸ h0
    | succ i => exact h i x (by simpa using hx)

/-- the loop over the previous table answers `NoMajorChange` exactly when `cur` holds, at every
tag of the previous table but INFO, the same entry: so in particular `cur` is at least as long,
and what `cur` holds past the end of the previous table is never looked at -/
theorem compareAttrsFrom_eq_ok_iff (cur : List (Option (List UInt8))) (tp : Nat)
    (l : List (Option (List UInt8))) :
    compareAttrsFrom cur tp l = .ok .NoMajorChange ↔
      ∀ i x, l[i]? = some x → tp + i ≠ INET_DIAG_INFO → cur[tp + i]? = some x := by
  induction l generalizing tp with
  | nil => simp [compareAttrsFrom]
  | cons a rest ih =>
    rw [forall_getElem?_cons]
    simp only [Nat.add_zero, ← Nat.add_assoc, Nat.add_right_comm tp _ 1]
    by_cases htp : tp = INET_DIAG_INFO
    · rw [show compareAttrsFrom cur tp (a :: rest) = compareAttrsFrom cur (tp + 1) rest by
        simp [compareAttrsFrom, htp], ih]
      simp [htp]
    · rw [compareAttrsFrom_cons htp, ih]
      simp [htp]

/-- the two slice tests on INFO values of at least 60 bytes: equal from `pmtuOffset` on and
before `lastDataSentOffset` is equal length and equal outside `[44, 60)` -/
theorem infoAgree_iff {a b : List UInt8} (ha : pmtuOffset ≤ a.length)
    (hb : pmtuOffset ≤ b.length) :
    (a.drop pmtuOffset = b.drop pmtuOffset ∧
      a.take lastDataSentOffset = b.take lastDataSentOffset) ↔
    (a.length = b.length ∧
      ∀ i, i < lastDataSentOffset ∨ pmtuOffset ≤ i → a[i]? = b[i]?) := by
  unfold pmtuOffset lastDataSentOffset at *
  constructor
  · rintro ⟨hd, ht⟩
    refine ⟨by have := congrArg List.length hd; simp at this; omega, fun i hi => ?_⟩
    rcases hi with hi | hi
    · have := congrArg (·[i]?) ht
      simpa [List.getElem?_take_of_lt hi] using this
    · have := congrArg (·[i - 60]?) hd
      simpa [List.getElem?_drop, show 60 + (i - 60) = i by omega] using this
  · rintro ⟨hl, h⟩
    refine ⟨List.ext_getElem? fun m => ?_, List.ext_getElem? fun m => ?_⟩
    · simp only [List.getElem?_drop]; exact h _ (.inr (by omega))
    · by_cases hm : m < 44
      · simp only [List.getElem?_take_of_lt hm]; exact h _ (.inl hm)
      · simp [List.getElem?_take_eq_none (show 44 ≤ m by omega)]

/-- **What `Compare` suppresses.**  For two snapshots whose heads parse, `Compare` answers
`(NoMajorChange, nil)` exactly when: the states are equal; both tables carry an INFO value;
these have the same length, at least `pmtuOffset`, and are equal outside
`[lastDataSentOffset, pmtuOffset)`; and `pm` holds the previous snapshot's entry at EVERY tag of
the previous table other than INFO.  Tags of `pm` past the end of the previous table are not
looked at. -/
theorem Compare_eq_noMajorChange_iff (pm prev : ParsedMessage) (hp : 72 ≤ prev.RawIDM.length)
    (hc : 72 ≤ pm.RawIDM.length) :
    Compare pm (some prev) = .ok (.NoMajorChange, none) ↔
      (InetDiagMsg.decode prev.RawIDM).IDiagState = (InetDiagMsg.decode pm.RawIDM).IDiagState ∧
      ∃ a b, prev.Attributes[INET_DIAG_INFO]? = some (some a) ∧
        pm.Attributes[INET_DIAG_INFO]? = some (some b) ∧
        pmtuOffset ≤ a.length ∧ a.length = b.length ∧
        (∀ i, i < lastDataSentOffset ∨ pmtuOffset ≤ i → a[i]? = b[i]?) ∧
        ∀ t x, prev.Attributes[t]? = some x → t ≠ INET_DIAG_INFO → pm.Attributes[t]? = some x := by
  simp only [Compare, RawInetDiagMsg.Parse_eq_ok hp, RawInetDiagMsg.Parse_eq_ok hc]
  by_cases hs : (InetDiagMsg.decode prev.RawIDM).IDiagState =
      (InetDiagMsg.decode pm.RawIDM).IDiagState
  swap
  · simp only [hs, ne_eq, not_false_eq_true, if_true, false_and, iff_false]
    exact fun h => nomatch h
  simp only [hs, ne_eq, not_true_eq_false, if_false, true_and, goIndex]
  cases ha : prev.Attributes[INET_DIAG_INFO]? with
  | none => simp
  | some a =>
  cases hb : pm.Attributes[INET_DIAG_INFO]? with
  | none => simp
  | some b =>
  cases a with
  | none => simp
  | some a =>
  cases b with
  | none => simp
  | some b =>
  simp only [Option.some.injEq, exists_and_left, exists_eq_left']
  by_cases hla : pmtuOffset ≤ a.length
  swap
  · rw [goSliceFrom_of_lt (by omega)]; simp [hla]
  by_cases hlb : pmtuOffset ≤ b.length
  swap
  · rw [goSliceFrom_of_le hla, goSliceFrom_of_lt (by omega)]
    simp only [reduceCtorEq, false_iff, not_and]
    intro _ hl; omega
  rw [goSliceFrom_of_le hla, goSliceFrom_of_le hlb]
  simp only [hla, true_and]
  rw [← and_assoc, ← infoAgree_iff hla hlb]
  simp only [bytesCompare_eq_zero, ite_not]
  by_cases h60 : a.drop pmtuOffset = b.drop pmtuOffset
  swap
  · simp [h60]
  by_cases h44 : a.take lastDataSentOffset = b.take lastDataSentOffset
  swap
  · simp [h60, h44]
  simp only [h60, h44, if_true, and_self, true_and]
  have hloop := compareAttrsFrom_eq_ok_iff pm.Attributes 0 prev.Attributes
  simp only [Nat.zero_add] at hloop
  rw [← hloop]
  cases compareAttrsFrom pm.Attributes 0 prev.Attributes <;> simp [Except.map]

/-! ## two replies the code can receive -/

/-- the same reply with a `INET_DIAG_BBRINFO` (16) attribute after it -/
def infoAndBbr : NetlinkMessage :=
  ⟨⟨144, 20, 0, 0, 0⟩, estabHead ++ infoAttr ++ [8, 0, 16, 0, 1, 2, 3, 4]⟩

/-- a reply without attributes, as the kernel sends for time-wait sockets -/
def headOnly : NetlinkMessage := ⟨⟨88, 20, 0, 0, 0⟩, estabHead⟩

set_option maxRecDepth 4000 in
/-- `Compare` answers `NoMajorChange` for a snapshot that gained a `BBRINFO` attribute: tag 16 is
past the end of the previous table (3 entries), and the loop only visits the previous
table's tags -/
theorem Compare_misses_new_tag :
    ∃ prev cur, Parse infoOnly false = .ok (.ok (some prev)) ∧
      Parse infoAndBbr false = .ok (.ok (some cur)) ∧
      Compare cur (some prev) = .ok (.NoMajorChange, none) ∧
      prev.Attributes.length = 3 ∧ cur.Attributes[16]? = some (some [1, 2, 3, 4]) :=
  ⟨_, _, rfl, rfl, rfl, rfl, rfl⟩

/-- `Compare` panics on two snapshots of a socket reported without attributes: both tables
have one entry, and `previous.Attributes[INET_DIAG_INFO]` is out of range -/
theorem Compare_panics_without_info :
    ∃ pm, Parse headOnly false = .ok (.ok (some pm)) ∧ pm.Attributes = [none] ∧
      Compare pm (some pm) = .error .indexOutOfRange :=
  ⟨_, rfl, rfl, rfl⟩

/-! ## when `Compare` returns -/

/-- the loop never indexes past `cur` while the previous table is no longer than `cur` -/
theorem compareAttrsFrom_ok {cur : List (Option (List UInt8))} {tp : Nat}
    {l : List (Option (List UInt8))} (h : tp + l.length ≤ cur.length) :
    ∃ c, compareAttrsFrom cur tp l = .ok c := by
  induction l generalizing tp with
  | nil => exact ⟨_, rfl⟩
  | cons a rest ih =>
    simp only [List.length_cons] at h
    have ih' : ∃ c, compareAttrsFrom cur (tp + 1) rest = .ok c := ih (by omega)
    by_cases htp : tp = INET_DIAG_INFO
    · simpa [compareAttrsFrom, htp] using ih'
    · rw [compareAttrsFrom, if_neg htp, goIndex_of_lt (by omega)]
      dsimp only
      split
      · exact ⟨_, rfl⟩
      · exact ⟨_, rfl⟩
      · exact ih'
      · split_ifs
        · exact ⟨_, rfl⟩
        · exact ⟨_, rfl⟩
        · exact ih'

/-- **When `Compare` returns.**  When both tables carry an INFO value of at least `pmtuOffset`
bytes and `pm`'s table is at least as long as the previous one, `Compare` returns a change type
and does not panic: the two slices are in range, and the loop over the previous table never
indexes past the end of `pm`'s. -/
theorem Compare_ok_of_info (pm prev : ParsedMessage) (a b : List UInt8)
    (ha : prev.Attributes[INET_DIAG_INFO]? = some (some a))
    (hb : pm.Attributes[INET_DIAG_INFO]? = some (some b))
    (hla : pmtuOffset ≤ a.length) (hlb : pmtuOffset ≤ b.length)
    (hlen : prev.Attributes.length ≤ pm.Attributes.length) :
    ∃ r, Compare pm (some prev) = .ok r := by
  simp only [Compare]
  split
  · exact ⟨_, rfl⟩
  · exact ⟨_, rfl⟩
  split_ifs
  · exact ⟨_, rfl⟩
  simp only [goIndex, ha, hb, goSliceFrom_of_le hla, goSliceFrom_of_le hlb]
  split_ifs
  · exact ⟨_, rfl⟩
  · exact ⟨_, rfl⟩
  · obtain ⟨c, hc⟩ : ∃ c, compareAttrsFrom pm.Attributes 0 prev.Attributes = .ok c :=
      compareAttrsFrom_ok (by omega)
    exact ⟨_, by rw [hc]; rfl⟩

set_option maxRecDepth 4000 in
theorem Compare_ok_of_info_bbr :
    ∃ prev cur, Parse infoOnly false = .ok (.ok (some prev)) ∧
      Parse infoAndBbr false = .ok (.ok (some cur)) ∧
      prev.Attributes[INET_DIAG_INFO]? = some (some (List.replicate 60 0)) ∧
      cur.Attributes[INET_DIAG_INFO]? = some (some (List.replicate 60 0)) ∧
      prev.Attributes.length ≤ cur.Attributes.length ∧ ∃ r, Compare cur (some prev) = .ok r :=
  ⟨_, _, rfl, rfl, rfl, rfl, by decide, Compare_ok_of_info _ _ _ _ rfl rfl (by decide) (by decide)
    (by decide)⟩

/-- **A snapshot against itself.**  For a snapshot whose head parses, `Compare` finds no change
against itself exactly when it carries an INFO value of at least `pmtuOffset` bytes; without one
it answers `NoTCPInfo` or panics. -/
theorem Compare_self (pm : ParsedMessage) (h : 72 ≤ pm.RawIDM.length) :
    Compare pm (some pm) = .ok (.NoMajorChange, none) ↔
      ∃ a, pm.Attributes[INET_DIAG_INFO]? = some (some a) ∧ pmtuOffset ≤ a.length := by
  rw [Compare_eq_noMajorChange_iff pm pm h h]
  constructor
  · rintro ⟨-, a, b, ha, -, hl, -⟩
    exact ⟨a, ha, hl⟩
  · rintro ⟨a, ha, hl⟩
    exact ⟨rfl, a, a, ha, ha, hl, rfl, fun _ _ => rfl, fun _ _ hx _ => hx⟩

set_option maxRecDepth 4000 in
theorem Compare_self_infoOnly :
    ∃ pm, Parse infoOnly false = .ok (.ok (some pm)) ∧ 72 ≤ pm.RawIDM.length ∧
      (Compare pm (some pm) = .ok (.NoMajorChange, none) ↔
        ∃ a, pm.Attributes[INET_DIAG_INFO]? = some (some a) ∧ pmtuOffset ≤ a.length) :=
  ⟨_, rfl, by decide, Compare_self _ (by decide)⟩

end TcpInfo
