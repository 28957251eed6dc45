import TetrisCollector.Cycle
import Mathlib.Order.Monotone.Basic

namespace Tetris
namespace Collector

/-!
# Runs of the collector

`node_collector` starts from an empty `keep_alive_dict` and never stops.  A
run is given by what each cycle reads, `obs j` at cycle `j`; the registry
after `j` cycles and the set handed to `delete_tensors` at cycle `j` follow
from it.  The cache listings are arbitrary, which covers every removal by
`delete_tensors` and every publication or removal by another process.

No line of the collector removes an entry of `keep_alive_dict`.  The registry
is therefore a function of the history alone: `firstStale` reads off the
clock of the first cycle at which a tensor was stale, and `lookup_registry`
shows that the code's registry is exactly that.  Every statement about runs
below is proved against `firstStale`.  A tensor is handed over once the grace
period has run out since the first cycle it was ever stale; demand in the
meantime, or its absence from the cache, does not restart the window.

Each cycle has one clock reading, `(obs j).now`, although `get_expired_tensor`
calls `datetime.datetime.now()` again at each tensor.  For the statements
below about one tensor, `(obs j).now` stands for the reading at that tensor's
own pass of cycle `j`, and the model is then exact; statements that compare
two tensors of one cycle compare them at one reading.
`getExpiredTensorClocked_between` bounds what the readings of the other
passes can change: each decision lies between those at the cycle's first and
last readings.
-/

section

variable (cat : Catalogue) (nodeName : String) (obs : Nat → Snapshot)

/-- `keep_alive_dict` after the first `j` cycles. -/
def registry : Nat → KeepAliveDict
  | 0 => ∅
  | j + 1 => (collectCycle cat nodeName (registry j) (obs j)).2

/-- `expired_tensor_set` of cycle `j`: the set it hands to `delete_tensors`. -/
def handed (j : Nat) : List TensorId :=
  (collectCycle cat nodeName (registry cat nodeName obs j) (obs j)).1

/-- `keep_alive_dict` after cycles that read `snaps`, one after the other,
from `keepAliveDict`. -/
def registryAfter (keepAliveDict : KeepAliveDict) (snaps : List Snapshot) : KeepAliveDict :=
  snaps.foldl (fun registry snap => (collectCycle cat nodeName registry snap).2) keepAliveDict

/-- The clock reading of the first cycle before `j` at which `t` was stale. -/
def firstStale (t : TensorId) : Nat → Option Timestamp
  | 0 => none
  | j + 1 =>
      match firstStale t j with
      | some since => some since
      | none => if t ∈ staleSet cat nodeName (obs j) then some (obs j).now else none

variable {cat nodeName obs}

/-- The registry after `j` cycles depends on the first `j` snapshots only. -/
theorem registry_eq_registryAfter (j : Nat) :
    registry cat nodeName obs j = registryAfter cat nodeName ∅ ((List.range j).map obs) := by
  induction j with
  | zero => rfl
  | succ j ih => simp [registry, registryAfter, List.range_succ, ih]

/-- The registry of the code is the history's `firstStale`. -/
theorem lookup_registry (t : TensorId) (j : Nat) :
    (registry cat nodeName obs j).lookup t = firstStale cat nodeName obs t j := by
  induction j with
  | zero => rfl
  | succ j ih =>
      rw [registry, lookup_collectCycle, ih, firstStale]
      cases firstStale cat nodeName obs t j with
      | some since => simp
      | none => by_cases stale : t ∈ staleSet cat nodeName (obs j) <;> simp [stale]

theorem firstStale_succ_eq_none {t : TensorId} {j : Nat} :
    firstStale cat nodeName obs t (j + 1) = none ↔
      firstStale cat nodeName obs t j = none ∧ t ∉ staleSet cat nodeName (obs j) := by
  rw [firstStale]
  cases firstStale cat nodeName obs t j <;>
    by_cases stale : t ∈ staleSet cat nodeName (obs j) <;> simp [stale]

theorem firstStale_succ_eq_some {t : TensorId} {j : Nat} {since : Timestamp} :
    firstStale cat nodeName obs t (j + 1) = some since ↔
      firstStale cat nodeName obs t j = some since ∨
        (firstStale cat nodeName obs t j = none ∧ t ∈ staleSet cat nodeName (obs j) ∧
          since = (obs j).now) := by
  rw [firstStale]
  cases firstStale cat nodeName obs t j <;>
    by_cases stale : t ∈ staleSet cat nodeName (obs j) <;> simp [stale, eq_comm]

theorem firstStale_eq_none {t : TensorId} {j : Nat} :
    firstStale cat nodeName obs t j = none ↔ ∀ i < j, t ∉ staleSet cat nodeName (obs i) := by
  induction j with
  | zero => simp [firstStale]
  | succ j ih => rw [firstStale_succ_eq_none, ih, Nat.forall_lt_succ]

/-- A tensor's first-stale reading is the clock of the first cycle at which
it was stale. -/
theorem firstStale_eq_some {t : TensorId} {j : Nat} {since : Timestamp} :
    firstStale cat nodeName obs t j = some since ↔
      ∃ i < j, t ∈ staleSet cat nodeName (obs i) ∧
        (∀ k < i, t ∉ staleSet cat nodeName (obs k)) ∧ since = (obs i).now := by
  induction j with
  | zero => simp [firstStale]
  | succ j ih =>
      rw [firstStale_succ_eq_some, ih, firstStale_eq_none, Nat.exists_lt_succ]
      exact or_congr_right ⟨fun ⟨never, stale, now⟩ => ⟨stale, never, now⟩,
        fun ⟨stale, never, now⟩ => ⟨never, stale, now⟩⟩

/-- In a run whose clock never goes back, a tensor stale at cycle `i` has a
first-stale reading, at any later cycle, no later than cycle `i`'s. -/
theorem firstStale_le (mono : Monotone fun j => (obs j).now) {t : TensorId} {i j : Nat}
    (stale : t ∈ staleSet cat nodeName (obs i)) (before : i < j) :
    ∃ since, firstStale cat nodeName obs t j = some since ∧ since ≤ (obs i).now := by
  cases found : firstStale cat nodeName obs t j with
  | none => exact absurd stale (firstStale_eq_none.mp found i before)
  | some since =>
      obtain ⟨k, _, _, fresh, rfl⟩ := firstStale_eq_some.mp found
      have notLater : k ≤ i := Nat.le_of_not_lt fun later => fresh i later stale
      exact ⟨_, rfl, mono notLater⟩

/-- The first stale cycle, once there is one, never changes. -/
theorem firstStale_of_le {t : TensorId} {j k : Nat} {since : Timestamp}
    (found : firstStale cat nodeName obs t j = some since) (later : j ≤ k) :
    firstStale cat nodeName obs t k = some since := by
  induction k, later using Nat.le_induction with
  | base => exact found
  | succ k _ ih => exact firstStale_succ_eq_some.mpr (.inl ih)

theorem mem_handed {t : TensorId} {j : Nat} :
    t ∈ handed cat nodeName obs j ↔ t ∈ staleSet cat nodeName (obs j) ∧
      ∃ since, firstStale cat nodeName obs t j = some since ∧ since + keepAliveDelta ≤ (obs j).now := by
  rw [handed, mem_collectCycle, Overdue]
  simp only [lookup_registry]

end

/-! ## Sample runs

One model `m1` needs the single tensor `a`.  The clock advances by 30 s a
cycle.  In `blipRun` a pod of `m1` runs on node `n` during cycle 1 only; in
`idleRun` no pod ever runs; in both, `a` stays in the cache.  In
`republishRun`, `a` is evicted, published again and in demand for a while,
then stale again. -/

/-- The catalogue of the sample runs. -/
def sampleCatalogue : Catalogue where
  models := ["m1"]
  modelTensors := (∅ : AList (fun _ : ModelId => List TensorId)).insert "m1" ["a"]
  covers := by decide

/-- Demand for `a` at cycle 1 only. -/
def blipRun (j : Nat) : Snapshot where
  podList := if j = 1 then [⟨"pod-m1", some "n"⟩] else []
  memoryFiles := ["a"]
  now := j * 30000000

/-- No demand at all. -/
def idleRun (j : Nat) : Snapshot where
  podList := []
  memoryFiles := ["a"]
  now := j * 30000000

/-- `a` is stale from cycle 0, gone from the cache at cycle 3, in demand at
cycles 4 and 5, and stale again from cycle 6. -/
def republishRun (j : Nat) : Snapshot where
  podList := if j = 4 ∨ j = 5 then [⟨"pod-m1", some "n"⟩] else []
  memoryFiles := if j = 3 then [] else ["a"]
  now := j * 30000000

/-- The sample runs read the clock every thirty seconds. -/
theorem sampleClock_mono : Monotone fun j : Nat => j * 30000000 :=
  fun _ _ le => Nat.mul_le_mul_right _ le

section

variable {cat : Catalogue} {nodeName : String} {obs : Nat → Snapshot}

/-! ## What the registry holds -/

/-- After `j` cycles, a tensor is a key of `keep_alive_dict` exactly when it was
stale at some earlier cycle, and its value is the clock reading of the first
such cycle.  Nothing is ever removed: a tensor that turned live, left the
cache, or was evicted keeps its entry. -/
theorem registry_lookup_eq_some (t : TensorId) (j : Nat) (since : Timestamp) :
    (registry cat nodeName obs j).lookup t = some since ↔
      ∃ i < j, t ∈ staleSet cat nodeName (obs i) ∧
        (∀ k < i, t ∉ staleSet cat nodeName (obs k)) ∧ since = (obs i).now := by
  rw [lookup_registry, firstStale_eq_some]

/-- The registry keeps a tensor through a cycle in which it is live: after
cycle 1 of `blipRun`, `a` is a key although cycle 1 needed it. -/
theorem registry_keeps_live_tensor :
    ¬ ∀ (cat : Catalogue) (nodeName : String) (obs : Nat → Snapshot) (t : TensorId) (j : Nat),
      t ∈ registry cat nodeName obs (j + 1) → t ∈ staleSet cat nodeName (obs j) := by
  intro keysOnlyStale
  exact absurd (keysOnlyStale sampleCatalogue "n" blipRun "a" 1 (by decide)) (by decide)

/-! ## When a tensor is handed over -/

/-- A tensor handed to `delete_tensors` at cycle `j` is stale at `j`, and the
grace period has run out since the first cycle `i < j` at which it was ever
stale.  Cycles between `i` and `j` may have it live or absent. -/
theorem handed_after_first_stale {t : TensorId} {j : Nat}
    (handedOver : t ∈ handed cat nodeName obs j) :
    t ∈ staleSet cat nodeName (obs j) ∧
      ∃ i < j, t ∈ staleSet cat nodeName (obs i) ∧
        (∀ k < i, t ∉ staleSet cat nodeName (obs k)) ∧
        (obs i).now + keepAliveDelta ≤ (obs j).now := by
  obtain ⟨stale, since, found, elapsed⟩ := mem_handed.mp handedOver
  obtain ⟨i, before, staleThen, fresh, rfl⟩ := firstStale_eq_some.mp found
  exact ⟨stale, i, before, staleThen, fresh, elapsed⟩

theorem blipRun_handed_after_first_stale :
    "a" ∈ handed sampleCatalogue "n" blipRun 2 ∧
      ∃ i < 2, "a" ∈ staleSet sampleCatalogue "n" (blipRun i) ∧
        (∀ k < i, "a" ∉ staleSet sampleCatalogue "n" (blipRun k)) ∧
        (blipRun i).now + keepAliveDelta ≤ (blipRun 2).now :=
  have handedOver : "a" ∈ handed sampleCatalogue "n" blipRun 2 := by decide
  ⟨handedOver, (handed_after_first_stale handedOver).2⟩

/-- Demand does not restart the grace window: in `blipRun`, `a` is handed over
at cycle 2 although it was live at cycle 1, so no window of stale cycles
ending at 2 spans the grace period. -/
theorem handed_without_stale_window :
    ¬ ∀ (cat : Catalogue) (nodeName : String) (obs : Nat → Snapshot),
      Monotone (fun j => (obs j).now) → ∀ t j, t ∈ handed cat nodeName obs j →
        ∃ i < j, (∀ k, i ≤ k → k ≤ j → t ∈ staleSet cat nodeName (obs k)) ∧
          (obs i).now + keepAliveDelta ≤ (obs j).now := by
  intro staleWindow
  obtain ⟨i, before, window, _⟩ := staleWindow sampleCatalogue "n" blipRun sampleClock_mono "a" 2 (by decide)
  have liveAtOne : "a" ∉ staleSet sampleCatalogue "n" (blipRun 1) := by decide
  exact liveAtOne (window 1 (by omega) (by omega))

/-- A tensor stale at every cycle from `i` to `j > i`, with the grace period
elapsed between the two readings, is handed to `delete_tensors` at `j`. -/
theorem handed_of_stale_throughout (mono : Monotone fun j => (obs j).now) {t : TensorId}
    {i j : Nat} (before : i < j)
    (stale : ∀ k, i ≤ k → k ≤ j → t ∈ staleSet cat nodeName (obs k))
    (elapsed : (obs i).now + keepAliveDelta ≤ (obs j).now) :
    t ∈ handed cat nodeName obs j := by
  obtain ⟨since, found, early⟩ := firstStale_le mono (stale i le_rfl before.le) before
  exact mem_handed.mpr ⟨stale j before.le le_rfl, since, found,
    (Nat.add_le_add_right early _).trans elapsed⟩

theorem idleRun_handed :
    (∀ k, 0 ≤ k → k ≤ 2 → "a" ∈ staleSet sampleCatalogue "n" (idleRun k)) ∧
      "a" ∈ handed sampleCatalogue "n" idleRun 2 :=
  have stale : ∀ k, 0 ≤ k → k ≤ 2 → "a" ∈ staleSet sampleCatalogue "n" (idleRun k) :=
    fun _ _ _ => by simp [mem_staleSet, mem_liveSet, runningPods, idleRun]
  ⟨stale, handed_of_stale_throughout sampleClock_mono (by decide) stale (by decide)⟩

/-- More demand never hands over more.  Two runs read the same clock, which
never goes back, and the same cache listings; at every cycle the second
run's live set contains the first's.  Then at every cycle the second run
hands over a subset of what the first hands over. -/
theorem handed_antitone_in_demand (cat₁ cat₂ : Catalogue) (nodeName₁ nodeName₂ : String)
    (obs₁ obs₂ : Nat → Snapshot) (mono : Monotone fun j => (obs₁ j).now)
    (sameClock : ∀ j, (obs₂ j).now = (obs₁ j).now)
    (sameCache : ∀ j, (obs₂ j).memoryFiles = (obs₁ j).memoryFiles)
    (moreDemand : ∀ j t, t ∈ liveSet cat₁ nodeName₁ (obs₁ j) → t ∈ liveSet cat₂ nodeName₂ (obs₂ j))
    (j : Nat) (t : TensorId) (handedOver : t ∈ handed cat₂ nodeName₂ obs₂ j) :
    t ∈ handed cat₁ nodeName₁ obs₁ j := by
  have lessStale : ∀ k, t ∈ staleSet cat₂ nodeName₂ (obs₂ k) → t ∈ staleSet cat₁ nodeName₁ (obs₁ k) :=
    fun k stale => by
      rw [mem_staleSet] at stale ⊢
      exact ⟨sameCache k ▸ stale.1, fun live => stale.2 (moreDemand k t live)⟩
  obtain ⟨stale, since, found, elapsed⟩ := mem_handed.mp handedOver
  obtain ⟨i, before, staleThen, _, rfl⟩ := firstStale_eq_some.mp found
  obtain ⟨since₁, found₁, early⟩ := firstStale_le mono (lessStale i staleThen) before
  rw [sameClock, sameClock] at elapsed
  exact mem_handed.mpr ⟨lessStale j stale, since₁, found₁,
    (Nat.add_le_add_right early _).trans elapsed⟩

theorem blipRun_handed_within_idleRun :
    "a" ∈ handed sampleCatalogue "n" blipRun 2 ∧ "a" ∈ handed sampleCatalogue "n" idleRun 2 :=
  have handedOver : "a" ∈ handed sampleCatalogue "n" blipRun 2 := by decide
  ⟨handedOver, handed_antitone_in_demand sampleCatalogue sampleCatalogue "n" "n" idleRun blipRun
    sampleClock_mono (fun _ => rfl) (fun _ => rfl)
    (fun _ _ live => absurd live (by simp [mem_liveSet, runningPods, idleRun])) 2 "a" handedOver⟩

/-- Once handed over, a tensor is handed over again at every later cycle in
which it is stale: its cache file removed and published again, and however
long it was in demand in between, it never earns a new grace period. -/
theorem handed_whenever_stale_again (mono : Monotone fun j => (obs j).now) {t : TensorId}
    {j k : Nat} (handedOver : t ∈ handed cat nodeName obs j) (later : j ≤ k)
    (stale : t ∈ staleSet cat nodeName (obs k)) :
    t ∈ handed cat nodeName obs k := by
  obtain ⟨_, since, found, elapsed⟩ := mem_handed.mp handedOver
  exact mem_handed.mpr ⟨stale, since, firstStale_of_le found later, elapsed.trans (mono later)⟩

theorem republishRun_handed_again :
    "a" ∈ handed sampleCatalogue "n" republishRun 2 ∧
      "a" ∈ liveSet sampleCatalogue "n" (republishRun 5) ∧
      "a" ∈ handed sampleCatalogue "n" republishRun 6 :=
  have handedOver : "a" ∈ handed sampleCatalogue "n" republishRun 2 := by decide
  ⟨handedOver, by decide,
    handed_whenever_stale_again sampleClock_mono handedOver (by decide) (by decide)⟩

end

end Collector
end Tetris
