import TetrisCollector.Loop
import TetrisCollector.Run
import TetrisCollector.Interleaving

namespace Tetris
namespace Collector

/-!
# How the three models of the collector fit together

The collector is modelled at three grains.  `Run` follows the registry over
a stream of snapshots and is where the statements about grace periods live.
`Loop` runs the cycles as the code does, calls that can raise and the disk
included.  `Race` splits `delete_tensors` into its single system calls, so
that other processes can act between them.

Two theorems tie them.  A run of `nodeCollector` that raises nothing leaves
the registry that `Run` computes from the snapshots its cycles read, so every
statement about `registry` and `handed` is a statement about the loop.  And
the collector running alone in `Race`, with no reader holding a lock, ends
where the sequential `delete_tensors` of `Evict` ends, for every placement of
failing calls: returned or raised, on the same tensor and with the same
listing of `MEMORY_PATH`.
-/

/-! ## The loop and the run -/

section

variable (cat : Catalogue) (nodeName : String)

/-- The snapshots read by the cycles of a run, up to its first exception. -/
def observed : List CycleEnv → CollectorState → List Snapshot
  | [], _ => []
  | env :: envs, state =>
      match env.podList, collectorCycle cat nodeName env state with
      | some podList, .ok () next =>
          ⟨podList, (env.meanwhile state.disk).memoryFiles, env.now⟩ :: observed envs next
      | _, _ => []

variable {cat nodeName}

/-- A cycle that returns normally read a pod list and a listing, and left the
registry that `collectCycle` computes from them. -/
theorem collectorCycle_ok {env : CycleEnv} {state next : CollectorState}
    (ran : collectorCycle cat nodeName env state = .ok () next) :
    ∃ podList, env.podList = some podList ∧
      next.keepAliveDict = (collectCycle cat nodeName state.keepAliveDict
        ⟨podList, (env.meanwhile state.disk).memoryFiles, env.now⟩).2 := by
  unfold collectorCycle at ran
  split at ran
  · cases ran
  · rename_i podList listed
    split at ran
    · cases ran
    · dsimp only at ran
      split at ran
      · cases ran
        exact ⟨podList, listed, rfl⟩
      · cases ran

theorem nodeCollector_keepAliveDict {envs : List CycleEnv} {state final : CollectorState}
    (ran : nodeCollector cat nodeName envs state = .ok () final) :
    final.keepAliveDict = registryAfter cat nodeName state.keepAliveDict (observed cat nodeName envs state) ∧
      (observed cat nodeName envs state).length = envs.length := by
  induction envs generalizing state with
  | nil => cases ran; exact ⟨rfl, rfl⟩
  | cons env envs ih =>
      simp only [nodeCollector, estate_bind_apply] at ran
      cases cycled : collectorCycle cat nodeName env state with
      | error e after => rw [cycled] at ran; cases ran
      | ok _ next =>
          rw [cycled] at ran
          obtain ⟨podList, listed, updated⟩ := collectorCycle_ok cycled
          obtain ⟨registryNow, lengthNow⟩ := ih ran
          simp only [observed, listed, cycled, registryAfter, List.foldl_cons, List.length_cons]
          exact ⟨updated ▸ registryNow, congrArg (· + 1) lengthNow⟩

/-- A run of the loop that raises nothing leaves the registry of `Run`, for
every stream of snapshots that starts with the ones its cycles read. -/
theorem nodeCollector_refines_registry {envs : List CycleEnv} {disk : Disk} {final : CollectorState}
    (ran : nodeCollector cat nodeName envs ⟨∅, disk⟩ = .ok () final) (obs : Nat → Snapshot)
    (agrees : (List.range envs.length).map obs = observed cat nodeName envs ⟨∅, disk⟩) :
    final.keepAliveDict = registry cat nodeName obs envs.length := by
  rw [registry_eq_registryAfter, agrees]
  exact (nodeCollector_keepAliveDict ran).1

/-- What the collector does to the disk in a cycle of a run, whether the
cycle returns or raises: it creates and removes no lock file, creates no cache
file, and removes only cache files of tensors that `Run` hands over at that
cycle, for every stream of snapshots that starts with the ones the run read.
So every statement about `handed` bounds what the loop really deletes. -/
theorem collectorCycle_removes_only_handed {done : List CycleEnv} {disk : Disk}
    {middle : CollectorState} (ranDone : nodeCollector cat nodeName done ⟨∅, disk⟩ = .ok () middle)
    (obs : Nat → Snapshot) (agrees : (List.range done.length).map obs = observed cat nodeName done ⟨∅, disk⟩)
    (env : CycleEnv) (reads : ∀ podList, env.podList = some podList →
      obs done.length = ⟨podList, (env.meanwhile middle.disk).memoryFiles, env.now⟩) :
    (env.meanwhile middle.disk).Shrinks (handed cat nodeName obs done.length)
      (leftState (collectorCycle cat nodeName env middle)).disk := by
  have registered : registry cat nodeName obs done.length = middle.keepAliveDict := by
    rw [registry_eq_registryAfter, agrees]
    exact (nodeCollector_keepAliveDict ranDone).1.symm
  unfold collectorCycle
  cases listed : env.podList with
  | none => exact .of_memoryFiles_eq rfl rfl
  | some podList =>
      dsimp only
      split
      · exact .of_memoryFiles_eq rfl rfl
      · rw [handed, registered, reads podList listed]
        have shrinks := deleteTensors_shrinks env.fails
          (collectCycle cat nodeName middle.keepAliveDict
            ⟨podList, (env.meanwhile middle.disk).memoryFiles, env.now⟩).1 (env.meanwhile middle.disk)
        split <;> rename_i ran <;> simpa only [ran, leftState_ok, leftState_error] using shrinks

end

/-- A cycle in which no call raises, no pod runs and the clock reads 0. -/
def quietCycle : CycleEnv := ⟨id, some [], false, 0, noFaults⟩

/-- One quiet cycle over `publishedDisk` records `a` at 0, as `registry` does. -/
theorem quietCycle_refines_registry :
    (∅ : KeepAliveDict).insert "a" 0 = registry emptyCatalogue "n" (fun _ => ⟨[], ["a"], 0⟩) 1 :=
  have ran : nodeCollector emptyCatalogue "n" [quietCycle] ⟨∅, publishedDisk⟩ =
      .ok () ⟨(∅ : KeepAliveDict).insert "a" 0, publishedDisk⟩ := rfl
  nodeCollector_refines_registry ran _ rfl

/-- A cycle in which no call raises and no pod runs, one grace period after 0. -/
def lateCycle : CycleEnv := ⟨id, some [], false, keepAliveDelta, noFaults⟩

/-- After a quiet cycle at 0, the cycle one grace period later removes `a`'s
cache file, which `Run` hands over at that cycle. -/
theorem lateCycle_removes_handed :
    publishedDisk.Shrinks (handed emptyCatalogue "n" (fun j => ⟨[], ["a"], j * keepAliveDelta⟩) 1)
        (leftState (collectorCycle emptyCatalogue "n" lateCycle
          ⟨(∅ : KeepAliveDict).insert "a" 0, publishedDisk⟩)).disk ∧
      "a" ∉ (leftState (collectorCycle emptyCatalogue "n" lateCycle
          ⟨(∅ : KeepAliveDict).insert "a" 0, publishedDisk⟩)).disk.memoryFiles :=
  ⟨@collectorCycle_removes_only_handed emptyCatalogue "n" [quietCycle] publishedDisk
      ⟨(∅ : KeepAliveDict).insert "a" 0, publishedDisk⟩ rfl (fun j => ⟨[], ["a"], j * keepAliveDelta⟩)
      rfl lateCycle
      (fun _ listed => by cases listed; rfl),
    by decide⟩

/-! ## The collector alone -/

namespace Race

/-- The race world `w` ends where the sequential computation ended with
`result`, for a collector called with `rest` still to handle after it: on
return, at the next tensor with no file open; on an exception, raised on the
tensor the exception names.  Either way with the same listing of
`MEMORY_PATH`. -/
def EndsAs (lockFiles : TensorId → Option Nat) (fresh : Nat) (rest : List TensorId) :
    EStateM.Result Raised Disk Unit → World → Prop
  | .ok _ disk, w => w = start lockFiles disk.memoryFiles [] fresh rest
  | .error e disk, w => w.pc = .raised ∧ w.memoryFiles = disk.memoryFiles ∧ w.todo.head? = e.tensor

/-- With no reader and no other process, the collector's calls on its current
tensor, each succeeding or failing as `fails` says, end where the sequential
handling of that tensor ends. -/
theorem collector_alone_one (fails : Call → TensorId → Bool) (lockFiles : TensorId → Option Nat)
    (disk : Disk) (fresh : Nat) (t : TensorId) (rest : List TensorId)
    (sameLocks : ∀ t, t ∈ disk.lockFiles ↔ (lockFiles t).isSome) :
    ∃ actions w, (∀ a ∈ actions, a = .collector ∨ a = .collectorFails) ∧
      run (start lockFiles disk.memoryFiles [] fresh (t :: rest)) actions = some w ∧
      EndsAs lockFiles fresh rest (deleteTensor fails t disk) w := by
  by_cases present : t ∈ disk.lockFiles ∧ t ∈ disk.memoryFiles
  swap
  · rw [deleteTensor_of_not_present present]
    cases named : lockFiles t with
    | none => exact ⟨[.collector], _, by simp, by simp [run, step, collectorStep, start, named], rfl⟩
    | some inode =>
        have cached : t ∉ disk.memoryFiles := fun cached =>
          present ⟨(sameLocks t).mpr (by simp [named]), cached⟩
        exact ⟨[.collector, .collector], _, by simp,
          by simp [run, step, collectorStep, start, named, cached], rfl⟩
  obtain ⟨locked, cached⟩ := present
  obtain ⟨inode, named⟩ := Option.isSome_iff_exists.mp ((sameLocks t).mp locked)
  have raisedAt : ∀ call memoryFiles held,
      EndsAs lockFiles fresh rest (.error ⟨call, some t⟩ ⟨disk.lockFiles, memoryFiles, held⟩)
        { start lockFiles memoryFiles [] fresh (t :: rest) with pc := .raised } :=
    fun _ _ _ => ⟨rfl, rfl, rfl⟩
  simp only [deleteTensor, estate_bind_apply, estate_get_apply, locked, cached, and_self, if_true,
    syscall, removeMemoryFile, Disk.openForWrite_of_mem t disk locked]
  cases fails .openLock t <;> simp only [Bool.false_eq_true, if_false, if_true]
  · cases fails .lockExclusive t <;> simp only [Bool.false_eq_true, if_false, if_true]
    · cases fails .remove t <;> simp only [Bool.false_eq_true, if_false, if_true, true_or, false_or,
        Disk.acquire_memoryFiles, cached, not_true_eq_false]
      · cases fails .unlock t <;> simp only [Bool.false_eq_true, if_false, if_true]
        · exact ⟨List.replicate 6 .collector, _, by simp,
            by simp [run, step, collectorStep, start, named, cached, Disk.unlinkMemory], rfl⟩
        · exact ⟨[.collector, .collector, .collector, .collector, .collector, .collectorFails], _,
            by simp, by simp [run, step, collectorStep, start, World.canRaise, named, cached,
              Disk.unlinkMemory], raisedAt _ _ _⟩
      · exact ⟨[.collector, .collector, .collector, .collector, .collectorFails], _, by simp,
          by simp [run, step, collectorStep, start, World.canRaise, named, cached], raisedAt _ _ _⟩
    · exact ⟨[.collector, .collector, .collector, .collectorFails], _, by simp,
        by simp [run, step, collectorStep, start, World.canRaise, named, cached], raisedAt _ _ _⟩
  · exact ⟨[.collector, .collector, .collectorFails], _, by simp,
      by simp [run, step, collectorStep, start, World.canRaise, named, cached], raisedAt _ _ _⟩

/-- The collector alone in `Race` ends where the sequential `delete_tensors`
of `Evict` ends, for every placement of failing calls, every disk and every
expired list: its calls, each succeeding or failing as `fails` says, end with
nothing left to do when the sequential model returns, and raised on the
tensor the sequential exception names when it raises; either way with the
same listing of `MEMORY_PATH`.  So the results on `Race` hold for every
placement of failures. -/
theorem collector_alone_refines (fails : Call → TensorId → Bool) (lockFiles : TensorId → Option Nat)
    (disk : Disk) (fresh : Nat) (expired : List TensorId)
    (sameLocks : ∀ t, t ∈ disk.lockFiles ↔ (lockFiles t).isSome) :
    ∃ actions w, (∀ a ∈ actions, a = .collector ∨ a = .collectorFails) ∧
      run (start lockFiles disk.memoryFiles [] fresh expired) actions = some w ∧
      EndsAs lockFiles fresh [] (deleteTensors fails expired disk) w := by
  induction expired generalizing disk with
  | nil => exact ⟨[], _, by simp, rfl, rfl⟩
  | cons t rest ih =>
      obtain ⟨first, w₁, own₁, ran₁, ends₁⟩ := collector_alone_one fails lockFiles disk fresh t rest sameLocks
      simp only [deleteTensors, estate_bind_apply]
      cases handled : deleteTensor fails t disk with
      | error e after =>
          rw [handled] at ends₁
          exact ⟨first, w₁, own₁, ran₁, ends₁⟩
      | ok _ middle =>
          rw [handled] at ends₁
          have keeps : middle.lockFiles = disk.lockFiles := by
            rcases deleteTensor_outcome fails t disk with ⟨_, ran, shrinks, -⟩ | ⟨_, _, ran, -, -⟩ <;>
              rw [handled] at ran <;> cases ran
            exact shrinks.lockFiles_eq
          obtain ⟨second, w, own₂, ran₂, ends⟩ := ih middle (keeps ▸ sameLocks)
          refine ⟨first ++ second, w, fun a member => ?_, ?_, ends⟩
          · exact (List.mem_append.mp member).elim (own₁ a) (own₂ a)
          · rw [run_append, ran₁, Option.some_bind, ends₁, ran₂]

/-- `os.remove` fails on `a`: the collector alone raises on `a`, as the
sequential model does. -/
theorem published_alone_refines :
    ∃ actions w, (∀ a ∈ actions, a = .collector ∨ a = .collectorFails) ∧
      run (start (fun t => if t = "a" then some 0 else none) publishedDisk.memoryFiles [] 1 ["a"])
        actions = some w ∧
      EndsAs (fun t => if t = "a" then some 0 else none) 1 []
        (deleteTensors (fun call _ => call == .remove) ["a"] publishedDisk) w :=
  collector_alone_refines _ _ publishedDisk 1 ["a"] fun t => by
    by_cases same : t = "a" <;> simp [publishedDisk, same]

end Race

end Collector
end Tetris
