import Mathlib.Data.Multiset.Defs
import RtsGame.Library.Ring

/-!
# Metrics of a game server

The counters and gauges of a process, and a window over the durations of its last
ticks.  The window is a vector that grows to its full size and is then overwritten
in a circle; the quantiles are places in a sorted copy of it.
-/

namespace RtsGame

namespace Metrics

def kMaxShards : Nat := 64

def kTickWindow : Nat := 4096

/-- The variables of the namespace `metrics`. -/
structure Registry where
  commandsTotal : UInt64 := 0
  snapshotsTotal : UInt64 := 0
  deltasTotal : UInt64 := 0
  sendDropsTotal : UInt64 := 0
  roomsByShard : List UInt64 := List.replicate kMaxShards 0
  unitsByShard : List UInt64 := List.replicate kMaxShards 0
  tickSamples : List UInt32 := []
  tickPos : Nat := 0

def recordTickUs (m : Registry) (us : UInt32) : Registry :=
  if m.tickSamples.length < kTickWindow then
    { m with tickSamples := m.tickSamples ++ [us] }
  else
    { m with
      tickSamples := m.tickSamples.set m.tickPos us
      tickPos := (m.tickPos + 1) % kTickWindow }

def setShardGauges (m : Registry) (shard : Nat) (rooms units : UInt64) : Registry :=
  if kMaxShards ≤ shard then
    m
  else
    { m with
      roomsByShard := m.roomsByShard.set shard rooms
      unitsByShard := m.unitsByShard.set shard units }

/-!
# Rendering

Reading a vector out of its range is undefined; the model then has no result.
-/

def p50Index (size : Nat) : Nat := size * 50 / 100

def p99Index (size : Nat) : Nat := min (size - 1) (size * 99 / 100)

def sortedSamples (samples : List UInt32) : List UInt32 :=
  samples.mergeSort fun a b => decide (a ≤ b)

structure Quantiles where
  p50 : UInt32 := 0
  p99 : UInt32 := 0
  pmax : UInt32 := 0

def quantiles (samples : List UInt32) : Option Quantiles :=
  if samples.isEmpty then
    some {}
  else do
    let s := sortedSamples samples
    let p50 ← s[p50Index s.length]?
    let p99 ← s[p99Index s.length]?
    let pmax ← s.getLast?
    some { p50 := p50, p99 := p99, pmax := pmax }

def line (name help : String) (v : UInt64) : String :=
  "# HELP " ++ name ++ " " ++ help ++ "\n# TYPE " ++ name ++ " counter\n" ++
    name ++ " " ++ toString v ++ "\n"

def render (m : Registry) : Option String := do
  let rooms := m.roomsByShard.foldl (fun sum v => sum + v) 0
  let units := m.unitsByShard.foldl (fun sum v => sum + v) 0
  let q ← quantiles m.tickSamples
  some (line "gameserver_commands_total" "inbound commands processed" m.commandsTotal ++
    line "gameserver_snapshots_total" "full snapshots sent" m.snapshotsTotal ++
    line "gameserver_deltas_total" "world deltas sent" m.deltasTotal ++
    line "gameserver_send_drops_total" "packets dropped by send backpressure"
      m.sendDropsTotal ++
    "# TYPE gameserver_rooms gauge\ngameserver_rooms " ++ toString rooms ++ "\n" ++
    "# TYPE gameserver_units gauge\ngameserver_units " ++ toString units ++ "\n" ++
    "# TYPE gameserver_tick_duration_us gauge\n" ++
    "gameserver_tick_duration_us\x7bquantile=\"0.5\"\x7d " ++ toString q.p50 ++ "\n" ++
    "gameserver_tick_duration_us\x7bquantile=\"0.99\"\x7d " ++ toString q.p99 ++ "\n" ++
    "gameserver_tick_duration_us\x7bquantile=\"1.0\"\x7d " ++ toString q.pmax ++ "\n")

/-!
# Runs

Everything that other code does to the registry.
-/

inductive Call where
  | command
  | snapshot
  | delta
  | sendDrop
  | gauges (shard : Nat) (rooms units : UInt64)
  | tick (us : UInt32)

def Registry.call (m : Registry) : Call -> Registry
  | Call.command => { m with commandsTotal := m.commandsTotal + 1 }
  | Call.snapshot => { m with snapshotsTotal := m.snapshotsTotal + 1 }
  | Call.delta => { m with deltasTotal := m.deltasTotal + 1 }
  | Call.sendDrop => { m with sendDropsTotal := m.sendDropsTotal + 1 }
  | Call.gauges shard rooms units => setShardGauges m shard rooms units
  | Call.tick us => recordTickUs m us

def Registry.run (calls : List Call) : Registry := calls.foldl Registry.call {}

/-- The durations that a call records. -/
def Call.ticks : Call -> List UInt32
  | Call.tick us => [us]
  | _ => []

def ticks (calls : List Call) : List UInt32 := calls.flatMap Call.ticks

/-- The samples are a window over the recorded durations. -/
def Registry.Holds (m : Registry) (recorded : List UInt32) : Prop :=
  Recalls kTickWindow m.tickSamples m.tickPos recorded

theorem recordTickUs_holds {m : Registry} {recorded : List UInt32} (us : UInt32)
    (h : m.Holds recorded) : (recordTickUs m us).Holds (recorded ++ [us]) := by
  unfold recordTickUs
  split
  · rename_i hroom
    exact h.grow us hroom
  · rename_i hfull
    exact h.overwrite us hfull

theorem setShardGauges_holds {m : Registry} {recorded : List UInt32} (shard : Nat)
    (rooms units : UInt64) (h : m.Holds recorded) :
    (setShardGauges m shard rooms units).Holds recorded := by
  unfold setShardGauges
  split
  · exact h
  · exact h

theorem call_holds {m : Registry} {recorded : List UInt32} (c : Call)
    (h : m.Holds recorded) : (m.call c).Holds (recorded ++ c.ticks) := by
  cases c with
  | tick us => exact recordTickUs_holds us h
  | gauges shard rooms units =>
      exact (List.append_nil recorded).symm ▸ setShardGauges_holds shard rooms units h
  | command => exact (List.append_nil recorded).symm ▸ h
  | snapshot => exact (List.append_nil recorded).symm ▸ h
  | delta => exact (List.append_nil recorded).symm ▸ h
  | sendDrop => exact (List.append_nil recorded).symm ▸ h

theorem foldl_holds {m : Registry} {recorded : List UInt32} (calls : List Call)
    (h : m.Holds recorded) : (calls.foldl Registry.call m).Holds (recorded ++ ticks calls) := by
  induction calls generalizing m recorded with
  | nil => exact (List.append_nil recorded).symm ▸ h
  | cons c rest ih =>
      have hrest := ih (call_holds c h)
      rw [List.append_assoc] at hrest
      exact hrest

theorem run_holds (calls : List Call) : (Registry.run calls).Holds (ticks calls) := by
  have hstart : ({} : Registry).Holds [] := Recalls.nil (by decide)
  exact foldl_holds calls hstart

/-!
# Quantiles
-/

theorem sortedSamples_sorted (samples : List UInt32) :
    (sortedSamples samples).Pairwise (· ≤ ·) := by
  have htrans : forall a b c : UInt32, decide (a ≤ b) = true -> decide (b ≤ c) = true ->
      decide (a ≤ c) = true := by
    intro a b c hab hbc
    exact decide_eq_true (UInt32.le_trans (of_decide_eq_true hab) (of_decide_eq_true hbc))
  have htotal : forall a b : UInt32, (decide (a ≤ b) || decide (b ≤ a)) = true := by
    intro a b
    rw [Bool.or_eq_true, decide_eq_true_eq, decide_eq_true_eq]
    exact UInt32.le_total a b
  exact (List.pairwise_mergeSort htrans htotal samples).imp of_decide_eq_true

theorem length_sortedSamples (samples : List UInt32) :
    (sortedSamples samples).length = samples.length := List.length_mergeSort samples

theorem p50Index_le_p99Index (size : Nat) : p50Index size ≤ p99Index size := by
  unfold p50Index p99Index
  omega

theorem p99Index_lt {size : Nat} (h : 0 < size) : p99Index size < size := by
  unfold p99Index
  omega

/-- Every place that is read is there, and later places hold larger values. -/
theorem quantiles_ordered (samples : List UInt32) :
    exists q, quantiles samples = some q ∧ q.p50 ≤ q.p99 ∧ q.p99 ≤ q.pmax := by
  unfold quantiles
  split
  · exact ⟨{}, rfl, UInt32.le_refl 0, UInt32.le_refl 0⟩
  · rename_i hsome
    have hpos : 0 < (sortedSamples samples).length := by
      rw [length_sortedSamples, List.length_pos_iff]
      intro hnil
      exact hsome (List.isEmpty_iff.mpr hnil)
    have hlast : (sortedSamples samples)[(sortedSamples samples).length - 1]? =
        some ((sortedSamples samples)[(sortedSamples samples).length - 1]) :=
      List.getElem?_eq_getElem (by omega)
    obtain ⟨p99, h99, hle99⟩ := sorted_getElem? UInt32.le_refl
      (sortedSamples_sorted samples)
      (i := p99Index (sortedSamples samples).length) (Nat.min_le_left _ _) hlast
    obtain ⟨p50, h50, hle50⟩ := sorted_getElem? UInt32.le_refl
      (sortedSamples_sorted samples) (p50Index_le_p99Index _) h99
    rw [← List.getLast?_eq_getElem?] at hlast
    simp only [h50, h99, hlast]
    exact ⟨_, rfl, hle50, hle99⟩

/-- The text can always be rendered. -/
theorem render_total (m : Registry) : exists text, render m = some text := by
  obtain ⟨q, hq, _, _⟩ := quantiles_ordered m.tickSamples
  unfold render
  simp only [hq]
  exact ⟨_, rfl⟩

/-- Whatever has been recorded, the samples are its end, the quantiles are places
of the sorted samples, they are in order, and there is a text that shows them. -/
theorem tick_window (calls : List Call) :
    ((Registry.run calls).tickSamples : Multiset UInt32) =
        ((ticks calls).rtake (min (ticks calls).length kTickWindow) : List UInt32) ∧
      ((ticks calls).length ≠ 0 ->
        p50Index (sortedSamples (Registry.run calls).tickSamples).length <
            (sortedSamples (Registry.run calls).tickSamples).length ∧
          p99Index (sortedSamples (Registry.run calls).tickSamples).length <
            (sortedSamples (Registry.run calls).tickSamples).length) ∧
      (exists q, quantiles (Registry.run calls).tickSamples = some q ∧
        q.p50 ≤ q.p99 ∧ q.p99 ≤ q.pmax) ∧
      exists text, render (Registry.run calls) = some text := by
  have hholds := run_holds calls
  refine ⟨?_, ?_, quantiles_ordered _, render_total _⟩
  · rw [Multiset.coe_eq_coe, rtake_min]
    exact hholds.perm
  · intro hsome
    have hpos : 0 < (sortedSamples (Registry.run calls).tickSamples).length := by
      rw [length_sortedSamples, hholds.length_eq]
      exact Nat.lt_min.mpr ⟨Nat.pos_of_ne_zero hsome, by decide⟩
    have h99 := p99Index_lt hpos
    exact ⟨Nat.lt_of_le_of_lt (p50Index_le_p99Index _) h99, h99⟩

end Metrics

end RtsGame
