import TetrisCollector.Loop

namespace Tetris
namespace Collector

/-!
# A quiet node

On a node where nothing else changes, what the collector does can be stated
whole.  The pods of the namespace stay the same, no other process touches
`LOCK_PATH` or `MEMORY_PATH`, and no call raises; only the clock advances.
Then the loop never raises and never touches a lock file, and it removes
exactly the cache files of the published tensors that no running model
needs: all of them in the first cycle that comes a grace period after the
first cycle, and none before.  The cache file of a tensor without a lock
file stays, although the tensor is expired.

The proof follows the run cycle by cycle.  After the first cycle the
registry holds every stale tensor at the first cycle's clock, and no later
cycle changes it, since no tensor of a quiet node becomes stale later.
-/

section

variable (cat : Catalogue) (nodeName : String) (podList : List Pod)

/-- A cycle in which nothing else happens: the same pods, no other process,
no failing call.  The clock reads `now`. -/
def quietEnv (now : Timestamp) : CycleEnv := ⟨id, some podList, false, now, noFaults⟩

/-- What the running models need; in a quiet run it never changes. -/
def quietDemand : List TensorId := runningTensorSet cat (runningPods nodeName podList)

variable (disk : Disk) (clock : Nat → Timestamp)

/-- The state after cycles `0` to `k` of a quiet run from `disk`: the lock
files are as they were; the registry holds each tensor stale at the first
cycle, at the first cycle's clock; and the cache has lost exactly the
published tensors that no running model needs, once a grace period has
passed since the first cycle. -/
structure QuietAfter (k : Nat) (state : CollectorState) : Prop where
  lockFiles : state.disk.lockFiles = disk.lockFiles
  registry : ∀ t, state.keepAliveDict.lookup t =
    if t ∈ disk.memoryFiles ∧ t ∉ quietDemand cat nodeName podList then some (clock 0) else none
  memoryFiles : ∀ t, t ∈ state.disk.memoryFiles ↔ t ∈ disk.memoryFiles ∧
    ¬ (t ∉ quietDemand cat nodeName podList ∧ t ∈ disk.lockFiles ∧ clock 0 + keepAliveDelta ≤ clock k)

variable {cat nodeName podList disk clock}

/-- A quiet cycle returns, with the registry that `collectCycle` computes,
and removes the cache file of each expired tensor with a lock file. -/
theorem collectorCycle_quietEnv (now : Timestamp) (state : CollectorState) :
    ∃ after, collectorCycle cat nodeName (quietEnv podList now) state =
        .ok () ⟨(collectCycle cat nodeName state.keepAliveDict
          ⟨podList, state.disk.memoryFiles, now⟩).2, after⟩ ∧
      after.lockFiles = state.disk.lockFiles ∧
      ∀ t, t ∈ after.memoryFiles ↔ t ∈ state.disk.memoryFiles ∧
        ¬ (t ∈ (collectCycle cat nodeName state.keepAliveDict
          ⟨podList, state.disk.memoryFiles, now⟩).1 ∧ t ∈ state.disk.lockFiles) := by
  obtain ⟨after, ran, removed⟩ := deleteTensors_noFaults_removes
    (collectCycle cat nodeName state.keepAliveDict ⟨podList, state.disk.memoryFiles, now⟩).1 state.disk
  have shrinks := deleteTensors_shrinks noFaults
    (collectCycle cat nodeName state.keepAliveDict ⟨podList, state.disk.memoryFiles, now⟩).1 state.disk
  rw [ran, leftState_ok] at shrinks
  refine ⟨after, by simp only [collectorCycle, quietEnv, id, ran]; rfl, shrinks.lockFiles_eq,
    fun t => ⟨fun kept => ⟨shrinks.memoryFiles_subset t kept, fun ⟨listed, locked⟩ =>
      removed t listed locked kept⟩, fun ⟨was, spared⟩ => ?_⟩⟩
  by_contra gone
  exact spared (shrinks.removed t was gone)

theorem mem_staleSet_quiet {files : List TensorId} {now : Timestamp} {t : TensorId} :
    t ∈ staleSet cat nodeName ⟨podList, files, now⟩ ↔ t ∈ files ∧ t ∉ quietDemand cat nodeName podList :=
  mem_staleSet cat nodeName

/-- The first cycle records every stale tensor and removes nothing. -/
theorem quietAfter_zero :
    ∃ state, collectorCycle cat nodeName (quietEnv podList (clock 0)) ⟨∅, disk⟩ = .ok () state ∧
      QuietAfter cat nodeName podList disk clock 0 state := by
  obtain ⟨after, ran, locks, memory⟩ :=
    @collectorCycle_quietEnv cat nodeName podList (clock 0) ⟨∅, disk⟩
  have early : ¬ clock 0 + keepAliveDelta ≤ clock 0 :=
    Nat.not_le.mpr (Nat.lt_add_of_pos_right keepAliveDelta_pos)
  refine ⟨_, ran, ⟨locks, fun t => ?_, fun t => ?_⟩⟩
  · simp only [lookup_collectCycle, mem_staleSet_quiet, AList.lookup_empty, and_true]
  · simp only [memory, mem_collectCycle, Overdue, AList.lookup_empty, reduceCtorEq, early, false_and,
      and_false, exists_false, not_false_eq_true, and_true]

/-- A later quiet cycle keeps the registry and removes the published
tensors no running model needs, once a grace period has passed since the
first cycle. -/
theorem quietAfter_succ (mono : Monotone clock) {k : Nat} {state : CollectorState}
    (quiet : QuietAfter cat nodeName podList disk clock k state) :
    ∃ next, collectorCycle cat nodeName (quietEnv podList (clock (k + 1))) state = .ok () next ∧
      QuietAfter cat nodeName podList disk clock (k + 1) next := by
  obtain ⟨after, ran, locks, memory⟩ :=
    @collectorCycle_quietEnv cat nodeName podList (clock (k + 1)) state
  have overdue : ∀ t, t ∈ disk.memoryFiles → t ∉ quietDemand cat nodeName podList →
      (Overdue (clock (k + 1)) state.keepAliveDict t ↔ clock 0 + keepAliveDelta ≤ clock (k + 1)) :=
    fun t was idle => by
      simp only [Overdue, quiet.registry, if_pos (And.intro was idle), Option.some.injEq, exists_eq_left']
  have later : clock 0 + keepAliveDelta ≤ clock k → clock 0 + keepAliveDelta ≤ clock (k + 1) :=
    fun due => due.trans (mono (Nat.le_succ k))
  refine ⟨_, ran, ⟨locks.trans quiet.lockFiles, fun t => ?_, fun t => ?_⟩⟩
  · have tracked : ¬ (t ∈ staleSet cat nodeName ⟨podList, state.disk.memoryFiles, clock (k + 1)⟩ ∧
        state.keepAliveDict.lookup t = none) := fun ⟨stale, untracked⟩ => by
      rw [mem_staleSet_quiet, quiet.memoryFiles] at stale
      rw [quiet.registry, if_pos (And.intro stale.1.1 stale.2)] at untracked
      cases untracked
    rw [lookup_collectCycle, if_neg tracked, quiet.registry]
  · rw [memory, mem_collectCycle, mem_staleSet_quiet, quiet.lockFiles, quiet.memoryFiles]
    constructor
    · rintro ⟨⟨was, spared⟩, notExpired⟩
      exact ⟨was, fun ⟨idle, locked, due⟩ =>
        notExpired ⟨⟨⟨⟨was, spared⟩, idle⟩, (overdue t was idle).mpr due⟩, locked⟩⟩
    · rintro ⟨was, spared⟩
      exact ⟨⟨was, fun ⟨idle, locked, due⟩ => spared ⟨idle, locked, later due⟩⟩,
        fun ⟨⟨⟨_, idle⟩, over⟩, locked⟩ => spared ⟨idle, locked, (overdue t was idle).mp over⟩⟩

/-- A quiet run from an empty registry, cycle by cycle. -/
theorem quietAfter_run (mono : Monotone clock) (n : Nat) :
    ∃ state, nodeCollector cat nodeName ((List.range (n + 1)).map fun k => quietEnv podList (clock k))
        ⟨∅, disk⟩ = .ok () state ∧ QuietAfter cat nodeName podList disk clock n state := by
  induction n with
  | zero =>
      obtain ⟨state, ran, quiet⟩ := @quietAfter_zero cat nodeName podList disk clock
      refine ⟨state, ?_, quiet⟩
      simp only [List.range_succ, List.range_zero, List.nil_append, List.map_cons, List.map_nil,
        nodeCollector, estate_bind_apply, ran]
      rfl
  | succ n ih =>
      obtain ⟨state, ran, quiet⟩ := ih
      obtain ⟨next, stepped, quiet'⟩ := quietAfter_succ mono quiet
      refine ⟨next, ?_, quiet'⟩
      rw [List.range_succ, List.map_append, nodeCollector_append, ran]
      simp only [List.map_cons, List.map_nil, nodeCollector, estate_bind_apply, stepped]
      rfl

/-- On a quiet node, for every catalogue, pod listing, starting disk and
non-decreasing clock, the first `n + 1` cycles of the loop return normally,
leave every lock file, and leave exactly the cache files that were there,
except those of the tensors that have a lock file and that no running model
needs, once a grace period has passed since the first cycle. -/
theorem quiet_node_evicts_exactly_unused (mono : Monotone clock) (n : Nat) :
    ∃ state, nodeCollector cat nodeName ((List.range (n + 1)).map fun k => quietEnv podList (clock k))
        ⟨∅, disk⟩ = .ok () state ∧
      state.disk.lockFiles = disk.lockFiles ∧
      ∀ t, t ∈ state.disk.memoryFiles ↔ t ∈ disk.memoryFiles ∧
        ¬ (t ∉ quietDemand cat nodeName podList ∧ t ∈ disk.lockFiles ∧
          clock 0 + keepAliveDelta ≤ clock n) := by
  obtain ⟨state, ran, quiet⟩ := quietAfter_run mono n
  exact ⟨state, ran, quiet.lockFiles, quiet.memoryFiles⟩

end

/-- Two quiet cycles a grace period apart on `publishedDisk`, where no model
runs: the second removes `a`'s cache file. -/
theorem quiet_publishedDisk_evicted :
    ∃ state, nodeCollector emptyCatalogue "n"
        ((List.range 2).map fun k => quietEnv [] (k * keepAliveDelta)) ⟨∅, publishedDisk⟩ =
          .ok () state ∧
      state.disk.lockFiles = publishedDisk.lockFiles ∧
      ∀ t, t ∈ state.disk.memoryFiles ↔ t ∈ publishedDisk.memoryFiles ∧
        ¬ (t ∉ quietDemand emptyCatalogue "n" [] ∧ t ∈ publishedDisk.lockFiles ∧
          0 * keepAliveDelta + keepAliveDelta ≤ 1 * keepAliveDelta) :=
  @quiet_node_evicts_exactly_unused emptyCatalogue "n" [] publishedDisk (fun k => k * keepAliveDelta)
    (fun _ _ le => Nat.mul_le_mul_right _ le) 1

end Collector
end Tetris
