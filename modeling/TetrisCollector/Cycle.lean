import TetrisCollector.LiveSet
import TetrisCollector.Expire

namespace Tetris
namespace Collector

/-!
# One cycle of `node_collector`

After its sleep, a cycle lists the pods of the namespace, computes the live
set from the pods on this node, lists `MEMORY_PATH`, takes the difference,
and asks `get_expired_tensor` which of those stale tensors to hand to
`delete_tensors`.  The three things a cycle reads from outside form a
`Snapshot`; this module is the pure part of the cycle, from the snapshot and
the registry to the expired set and the next registry.  Where the calls can
fail, and what `delete_tensors` does with the expired set, is in `Evict` and
`Loop`.
-/

/-- What one cycle reads from outside: `pod_list.items`, the listing of
`MEMORY_PATH`, and the clock. -/
structure Snapshot where
  podList : List Pod
  memoryFiles : List TensorId
  now : Timestamp

section

variable (cat : Catalogue) (nodeName : String)

/-- `running_tensor_set` of the cycle that reads `snap`. -/
def liveSet (snap : Snapshot) : List TensorId :=
  runningTensorSet cat (runningPods nodeName snap.podList)

/-- `delete_tensor_set = existing_tensor_set.difference(running_tensor_set)`. -/
def staleSet (snap : Snapshot) : List TensorId :=
  setDifference (getExistingTensors snap.memoryFiles) (liveSet cat nodeName snap)

/-- Lines 73 to 80 of the loop: the set handed to `delete_tensors`, and
`keep_alive_dict` as `get_expired_tensor` leaves it. -/
def collectCycle (keepAliveDict : KeepAliveDict) (snap : Snapshot) :
    List TensorId × KeepAliveDict :=
  getExpiredTensor (staleSet cat nodeName snap) keepAliveDict snap.now

theorem mem_liveSet {snap : Snapshot} {t : TensorId} :
    t ∈ liveSet cat nodeName snap ↔
      ∃ m ∈ cat.models, (∃ p ∈ runningPods nodeName snap.podList, isSubstring m p = true) ∧
        t ∈ cat.tensorsOf m :=
  mem_runningTensorSet

theorem mem_staleSet {snap : Snapshot} {t : TensorId} :
    t ∈ staleSet cat nodeName snap ↔ t ∈ snap.memoryFiles ∧ t ∉ liveSet cat nodeName snap := by
  simp [staleSet]

theorem mem_collectCycle {keepAliveDict : KeepAliveDict} {snap : Snapshot} {t : TensorId} :
    t ∈ (collectCycle cat nodeName keepAliveDict snap).1 ↔
      t ∈ staleSet cat nodeName snap ∧ Overdue snap.now keepAliveDict t :=
  mem_getExpiredTensor

theorem lookup_collectCycle {keepAliveDict : KeepAliveDict} {snap : Snapshot} {t : TensorId} :
    (collectCycle cat nodeName keepAliveDict snap).2.lookup t =
      if t ∈ staleSet cat nodeName snap ∧ keepAliveDict.lookup t = none then some snap.now
      else keepAliveDict.lookup t := by
  rw [collectCycle, lookup_getExpiredTensor]

/-- For every catalogue, node, snapshot and registry: the stale set is the
cache listing minus the tensors of every model whose name occurs in the name
of a listed pod scheduled on this node; the expired set lies inside it; so no
tensor of a running model is handed to `delete_tensors` in that cycle. -/
theorem collectCycle_spares_running (keepAliveDict : KeepAliveDict) (snap : Snapshot) :
    (∀ t, t ∈ staleSet cat nodeName snap ↔ t ∈ snap.memoryFiles ∧
      ¬ ∃ m ∈ cat.models, (∃ pod ∈ snap.podList, pod.nodeName = some nodeName ∧
        m.data <:+: pod.name.data) ∧ t ∈ cat.tensorsOf m) ∧
    (∀ t, t ∈ (collectCycle cat nodeName keepAliveDict snap).1 → t ∈ staleSet cat nodeName snap) ∧
    (∀ m ∈ cat.models, (∃ pod ∈ snap.podList, pod.nodeName = some nodeName ∧
        m.data <:+: pod.name.data) →
      ∀ t ∈ cat.tensorsOf m, t ∉ (collectCycle cat nodeName keepAliveDict snap).1) := by
  have stale : ∀ t, t ∈ staleSet cat nodeName snap ↔ t ∈ snap.memoryFiles ∧
      ¬ ∃ m ∈ cat.models, (∃ pod ∈ snap.podList, pod.nodeName = some nodeName ∧
        m.data <:+: pod.name.data) ∧ t ∈ cat.tensorsOf m := fun t => by
    rw [mem_staleSet, mem_liveSet]
    simp only [exists_runningPods_isSubstring]
  have handed : ∀ t, t ∈ (collectCycle cat nodeName keepAliveDict snap).1 →
      t ∈ staleSet cat nodeName snap := fun t member => (mem_collectCycle cat nodeName).mp member |>.1
  refine ⟨stale, handed, fun m model running t listed member => ?_⟩
  exact ((stale t).mp (handed t member)).2 ⟨m, model, running, listed⟩

end

end Collector
end Tetris
