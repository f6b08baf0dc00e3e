import Mathlib.Data.List.Basic
import Mathlib.Tactic.Ring

/-!
# Go run time: what an index, a slice expression and an unsigned `%` do

The collector is written in Go.  A Go goroutine that indexes past the end of a slice, slices
past its length or computes `x % 0` does not return: the run time panics.  Every function of
the model that can do one of these returns `Go α = Except Panic α`, so that a panic is a value
a theorem can talk about (and, where the code is safe, rule out).

* `Panic`                   the run-time faults the code can reach, and `log.Fatal`;
* `goIndex`, `goSet`        `s[i]` and `s[i] = v`, with the bounds check;
* `goSliceFrom`             `s[lo:]`: the high bound defaults to `len(s)`, so `lo ≤ len(s)`;
* `goUmod`                  unsigned `x % n`, which panics for `n = 0`;
* `leUint`, `beUint`        `binary.LittleEndian` and `binary.BigEndian` reads of a byte run;
* `bytesCompare`            `bytes.Compare`, and `bytesCompare_eq_zero`: `0` exactly on equal runs.

Byte slices are `List UInt8`.  The capacity of a slice only matters for `s[:hi]` with
`len(s) < hi ≤ cap(s)`; no modelled expression of that form is evaluated outside `len(s)`.
-/

set_option linter.unusedVariables false

namespace TcpInfo

/-- a Go run-time panic, or the process exit of `log.Fatal` -/
inductive Panic where
  /-- `s[i]` with `len(s) ≤ i` -/
  | indexOutOfRange
  /-- `s[lo:]` with `len(s) < lo` -/
  | sliceOutOfRange
  /-- integer `x % 0` -/
  | divideByZero
  /-- a method called on a nil interface value -/
  | nilDereference
  /-- `log.Fatal` -/
  | fatal
  deriving DecidableEq, Repr

/-- a Go computation: its result, or the panic that stops the goroutine -/
abbrev Go (α : Type) := Except Panic α

/-- the `error` values the modelled functions return -/
inductive GoError where
  /-- `inetdiag.ErrParseFailed` -/
  | ErrParseFailed
  /-- `inetdiag.ErrNotType20` -/
  | ErrNotType20
  /-- `unix.EINVAL`, from `netlinkRouteAttrAndValue` -/
  | EINVAL
  /-- `errors.New("Cookie = 0")`, from `Saver.queue` -/
  | cookieZero
  /-- `saver.ErrNoMarshallers` -/
  | ErrNoMarshallers
  /-- the error of `os.MkdirAll` in `Connection.Rotate` -/
  | mkdirAll
  /-- the error of `zstd.NewWriter` in `Connection.Rotate` -/
  | newWriter
  deriving DecidableEq, Repr

/-- the text of an error where the source fixes it; the two file system errors carry the
operating system's text -/
def GoError.Error : GoError → Option String
  | .ErrParseFailed => some "Unable to parse InetDiagMsg"
  | .ErrNotType20 => some "NetlinkMessage wrong type"
  | .EINVAL => some "invalid argument"
  | .cookieZero => some "Cookie = 0"
  | .ErrNoMarshallers => some "Saver has zero Marshallers"
  | .mkdirAll => none
  | .newWriter => none

/-- `time.Time`, as nanoseconds since the Unix epoch (UTC) -/
abbrev Time := Nat

section
variable {α : Type}

/-- `s[i]` -/
def goIndex (s : List α) (i : Nat) : Go α :=
  match s[i]? with
  | some a => .ok a
  | none => .error .indexOutOfRange

/-- `s[i] = v` -/
def goSet (s : List α) (i : Nat) (v : α) : Go (List α) :=
  if i < s.length then .ok (s.set i v) else .error .indexOutOfRange

/-- `s[lo:]` -/
def goSliceFrom (s : List α) (lo : Nat) : Go (List α) :=
  if lo ≤ s.length then .ok (s.drop lo) else .error .sliceOutOfRange

@[simp] theorem goIndex_of_lt {s : List α} {i : Nat} (h : i < s.length) :
    goIndex s i = .ok s[i] := by
  simp [goIndex, List.getElem?_eq_getElem h]

@[simp] theorem goIndex_of_le {s : List α} {i : Nat} (h : s.length ≤ i) :
    goIndex s i = .error .indexOutOfRange := by
  simp [goIndex, List.getElem?_eq_none h]

theorem goIndex_eq_ok {s : List α} {i : Nat} {a : α} :
    goIndex s i = .ok a ↔ s[i]? = some a := by
  cases h : s[i]? <;> simp [goIndex, h]

@[simp] theorem goSet_of_lt {s : List α} {i : Nat} (v : α) (h : i < s.length) :
    goSet s i v = .ok (s.set i v) := if_pos h

@[simp] theorem goSliceFrom_of_le {s : List α} {lo : Nat} (h : lo ≤ s.length) :
    goSliceFrom s lo = .ok (s.drop lo) := if_pos h

@[simp] theorem goSliceFrom_of_lt {s : List α} {lo : Nat} (h : s.length < lo) :
    goSliceFrom s lo = .error .sliceOutOfRange := if_neg (by omega)

theorem goSliceFrom_eq_ok {s r : List α} {lo : Nat} (h : goSliceFrom s lo = .ok r) :
    lo ≤ s.length ∧ r = s.drop lo := by
  unfold goSliceFrom at h
  split at h
  · cases h; exact ⟨by assumption, rfl⟩
  · cases h

end

/-- unsigned `x % n` -/
def goUmod (x n : Nat) : Go Nat :=
  if n = 0 then .error .divideByZero else .ok (x % n)

@[simp] theorem goUmod_zero (x : Nat) : goUmod x 0 = .error .divideByZero := rfl

@[simp] theorem goUmod_of_pos {x n : Nat} (h : 0 < n) : goUmod x n = .ok (x % n) :=
  if_neg (by omega)

/-! ## byte order -/

/-- `binary.LittleEndian.UintN`: the first byte is the least significant -/
def leUint : List UInt8 → Nat
  | [] => 0
  | b :: bs => b.toNat + 256 * leUint bs

/-- `binary.BigEndian.UintN`: the first byte is the most significant -/
def beUint (bs : List UInt8) : Nat := bs.foldl (fun acc b => 256 * acc + b.toNat) 0

@[simp] theorem leUint_nil : leUint [] = 0 := rfl
@[simp] theorem leUint_cons (b : UInt8) (bs : List UInt8) :
    leUint (b :: bs) = b.toNat + 256 * leUint bs := rfl

/-- a little-endian run of `n` bytes holds a number below `256 ^ n` -/
theorem leUint_lt (bs : List UInt8) : leUint bs < 256 ^ bs.length := by
  induction bs with
  | nil => simp
  | cons b bs ih =>
    have hb := b.toNat_lt_size
    simp only [leUint_cons, List.length_cons, pow_succ]
    change b.toNat < 256 at hb
    omega

/-- the two little-endian bytes of a number below `2 ^ 16` -/
def leBytes16 (n : Nat) : List UInt8 := [UInt8.ofNat (n % 256), UInt8.ofNat (n / 256)]

theorem leUint_leBytes16 {n : Nat} (h : n < 65536) : leUint (leBytes16 n) = n := by
  have h1 : (UInt8.ofNat (n % 256)).toNat = n % 256 :=
    UInt8.toNat_ofNat_of_lt (by unfold UInt8.size; omega)
  have h2 : (UInt8.ofNat (n / 256)).toNat = n / 256 :=
    UInt8.toNat_ofNat_of_lt (by unfold UInt8.size; omega)
  simp only [leBytes16, leUint_cons, leUint_nil, h1, h2]
  omega

/-- two bytes are the little-endian bytes of the number they encode -/
theorem leBytes16_leUint (b0 b1 : UInt8) : leBytes16 (leUint [b0, b1]) = [b0, b1] := by
  have h0 := b0.toNat_lt_size
  have h1 := b1.toNat_lt_size
  change b0.toNat < 256 at h0
  change b1.toNat < 256 at h1
  have e0 : (b0.toNat + 256 * (b1.toNat + 256 * 0)) % 256 = b0.toNat := by omega
  have e1 : (b0.toNat + 256 * (b1.toNat + 256 * 0)) / 256 = b1.toNat := by omega
  simp only [leBytes16, leUint_cons, leUint_nil, e0, e1, List.cons.injEq, and_true]
  exact ⟨UInt8.toNat.inj (UInt8.toNat_ofNat_of_lt h0), UInt8.toNat.inj (UInt8.toNat_ofNat_of_lt h1)⟩

/-! ## `bytes.Compare` -/

/-- `bytes.Compare`: lexicographic order of two byte runs, as `-1`, `0` or `1` -/
def bytesCompare : List UInt8 → List UInt8 → Int
  | [], [] => 0
  | [], _ :: _ => -1
  | _ :: _, [] => 1
  | a :: as, b :: bs =>
    if a.toNat < b.toNat then -1 else if b.toNat < a.toNat then 1 else bytesCompare as bs

/-- `bytes.Compare` answers `0` exactly on equal byte runs -/
@[simp] theorem bytesCompare_eq_zero (a b : List UInt8) : bytesCompare a b = 0 ↔ a = b := by
  induction a generalizing b with
  | nil => cases b <;> simp [bytesCompare]
  | cons x xs ih =>
    cases b with
    | nil => simp [bytesCompare]
    | cons y ys =>
      simp only [bytesCompare, List.cons.injEq]
      by_cases h1 : x.toNat < y.toNat
      · have hxy : x ≠ y := fun h => by subst h; omega
        simp [h1, hxy]
      · by_cases h2 : y.toNat < x.toNat
        · have hxy : x ≠ y := fun h => by subst h; omega
          simp [h1, h2, hxy]
        · have hxy : x = y := UInt8.toNat.inj (by omega)
          simp [h1, h2, hxy, ih]

end TcpInfo
