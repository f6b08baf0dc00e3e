import TcpInfo.Inetdiag.Msg
import Mathlib.Data.List.AList

/-!
# cache: the change cache the Saver consults

The package `cache` is not among the sources; its behaviour is taken from the specification
(section 4.B, "Significance Cache").  The state is the retained snapshot of every cookie, the
cookies touched in the current cycle and the number of finished cycles:

* `Cache.Update`      records the cookie as touched, retains the new snapshot and answers the
                      snapshot it replaces (`none` for a cookie the cache does not hold);
* `Cache.EndCycle`    answers and forgets the retained snapshots of every cookie not touched in
                      the cycle, and starts the next cycle;
* `Cache.CycleCount`  the number of finished cycles.

The retained map is an `AList`, so that it holds at most one snapshot per cookie by
construction, and the structure carries the fact that every snapshot is retained under its own
cookie.  `EndCycle_residual` and `EndCycle_lookup` state the spec's residual law.
-/

namespace TcpInfo

/-- `msg.InetDiagMsg`: the saver reads the head of a parsed message through this field; the
parsed message of `inetdiag` keeps the head as `RawIDM`, read at the offsets of the C struct -/
def ParsedMessage.InetDiagMsg (pm : ParsedMessage) : InetDiagMsg := InetDiagMsg.decode pm.RawIDM

/-- the cookie a snapshot is keyed by, `pm.InetDiagMsg.ID.Cookie()` -/
def ParsedMessage.cookie (pm : ParsedMessage) : Nat := pm.InetDiagMsg.ID.Cookie

/-- Modelled from the spec: the change cache, `map<cookie, Snapshot>` of the retained snapshots
plus the touched set of the cycle and the cycle counter. -/
structure Cache where
  retained : AList (fun _ : Nat => ParsedMessage)
  touched : List Nat
  cycles : Nat
  keyed : ∀ e ∈ retained.entries, e.2.cookie = e.1

/-- Modelled from the spec: `cache.NewCache()`, empty and in its first cycle. -/
def NewCache : Cache := ⟨∅, [], 0, by simp [AList.empty_entries]⟩

/-- Modelled from the spec: `update(snap) -> previous | None`. -/
def Cache.Update (c : Cache) (pm : ParsedMessage) : Option ParsedMessage × Cache :=
  (c.retained.lookup pm.cookie,
    { retained := c.retained.insert pm.cookie pm
      touched := pm.cookie :: c.touched
      cycles := c.cycles
      keyed := by
        simp only [AList.insert_entries, List.mem_cons]
        rintro e (rfl | he)
        · rfl
        · exact c.keyed e ((List.kerase_sublist _ _).subset he) })

/-- the retained entries of the cookies touched in the cycle -/
def Cache.kept (c : Cache) : AList (fun _ : Nat => ParsedMessage) :=
  ⟨c.retained.entries.filter (fun e => decide (e.1 ∈ c.touched)),
    c.retained.nodupKeys.sublist (List.filter_sublist _)⟩

/-- Modelled from the spec: `end_cycle() -> residual[]`. -/
def Cache.EndCycle (c : Cache) : List ParsedMessage × Cache :=
  ((c.retained.entries.filter (fun e => decide (e.1 ∉ c.touched))).map (·.2),
    { retained := c.kept
      touched := []
      cycles := c.cycles + 1
      keyed := fun e he => c.keyed e (List.mem_of_mem_filter he) })

/-- Modelled from the spec: `cycle_count()`. -/
def Cache.CycleCount (c : Cache) : Nat := c.cycles

/-! ## the spec's laws -/

@[simp] theorem Cache.Update_fst (c : Cache) (pm : ParsedMessage) :
    (c.Update pm).1 = c.retained.lookup pm.cookie := rfl

@[simp] theorem Cache.Update_retained (c : Cache) (pm : ParsedMessage) :
    (c.Update pm).2.retained = c.retained.insert pm.cookie pm := rfl

@[simp] theorem Cache.EndCycle_fst (c : Cache) :
    c.EndCycle.1 = (c.retained.entries.filter (fun e => decide (e.1 ∉ c.touched))).map (·.2) :=
  rfl

@[simp] theorem Cache.EndCycle_retained (c : Cache) : c.EndCycle.2.retained = c.kept := rfl

/-- after the cycle the cache retains exactly the touched cookies it retained before -/
theorem Cache.EndCycle_lookup (c : Cache) (k : Nat) :
    c.EndCycle.2.retained.lookup k = if k ∈ c.touched then c.retained.lookup k else none := by
  split
  · rename_i hk
    cases h : c.retained.lookup k with
    | none =>
      rw [AList.lookup_eq_none] at h ⊢
      exact fun hm => h (AList.keys_subset_keys_of_entries_subset_entries
        (fun e he => List.mem_of_mem_filter he) hm)
    | some pm =>
      rw [← Option.mem_def, AList.mem_lookup_iff] at h ⊢
      exact List.mem_filter.2 ⟨h, by simpa using hk⟩
  · rename_i hk
    rw [AList.lookup_eq_none, AList.mem_keys]
    intro hm
    obtain ⟨pm, hpm⟩ := List.exists_of_mem_keys hm
    exact hk (by simpa using (List.mem_filter.1 hpm).2)

/-- **The residual law.**  The cookies `EndCycle` reports are exactly the retained cookies not
touched in the cycle, each once. -/
theorem Cache.EndCycle_residual (c : Cache) :
    c.EndCycle.1.map ParsedMessage.cookie =
      c.retained.keys.filter (fun k => decide (k ∉ c.touched)) := by
  rw [EndCycle_fst, List.map_map, AList.keys, List.keys, List.filter_map]
  exact List.map_congr_left fun e he => c.keyed e (List.mem_of_mem_filter he)

end TcpInfo
