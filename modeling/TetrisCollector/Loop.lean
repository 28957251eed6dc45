import TetrisCollector.Cycle
import TetrisCollector.Evict

namespace Tetris
namespace Collector

/-!
# The loop of `node_collector`, with its failures

A cycle sleeps, lists the pods, lists `MEMORY_PATH`, computes the expired
set (`collectCycle`) and hands it to `delete_tensors`.  Every call but the
clock can raise, and the collector has no `try` anywhere: an exception leaves
the cycle, the loop, `node_collector` and `main`, and the process ends.

`CycleEnv` is everything the world does and answers in one cycle: what other
processes do to the disk during the sleep, whether each call raises, and the
values the others return.  `nodeCollector` runs the loop over a finite prefix
of cycles; the loop of the code is the limit of these prefixes.  The main
result says where an exception leaves the run.  Last, `main` reads the node's
name from `/root/hostname` and strips the white space around it.
-/

/-- What the world does and answers during one cycle: what other processes
do to the disk while the collector sleeps; `v1.list_namespaced_pod(namespace)
.items`, or `none` when it raises; whether `os.listdir(MEMORY_PATH)` raises;
the reading of `datetime.datetime.now()`; and which calls of `delete_tensors`
raise. -/
structure CycleEnv where
  meanwhile : Disk → Disk
  podList : Option (List Pod)
  listdirFails : Bool
  now : Timestamp
  fails : Call → TensorId → Bool

/-- The collector's state between cycles: its registry and the disk. -/
structure CollectorState where
  keepAliveDict : KeepAliveDict
  disk : Disk

section

variable (cat : Catalogue) (nodeName : String)

/-- One pass of `while True:` in `node_collector`. -/
def collectorCycle (env : CycleEnv) : EStateM Raised CollectorState Unit := fun state =>
  let disk := env.meanwhile state.disk
  match env.podList with
  | none => .error ⟨.listNamespacedPod, none⟩ { state with disk := disk }
  | some podList =>
      if env.listdirFails then .error ⟨.listdir, none⟩ { state with disk := disk }
      else
        let cycle := collectCycle cat nodeName state.keepAliveDict ⟨podList, disk.memoryFiles, env.now⟩
        match deleteTensors env.fails cycle.1 disk with
        | .ok () disk => .ok () ⟨cycle.2, disk⟩
        | .error e disk => .error e ⟨cycle.2, disk⟩

/-- The first cycles of `node_collector`, one for each environment. -/
def nodeCollector : List CycleEnv → EStateM Raised CollectorState Unit
  | [] => pure ()
  | env :: envs => do
      collectorCycle cat nodeName env
      nodeCollector envs

theorem nodeCollector_append (done rest : List CycleEnv) (state : CollectorState) :
    nodeCollector cat nodeName (done ++ rest) state =
      match nodeCollector cat nodeName done state with
      | .ok () state => nodeCollector cat nodeName rest state
      | .error e state => .error e state := by
  induction done generalizing state with
  | nil => rfl
  | cons env done ih =>
      simp only [List.cons_append, nodeCollector, estate_bind_apply]
      cases collectorCycle cat nodeName env state with
      | ok _ state => exact ih state
      | error e state => rfl

/-- A failing call of `delete_tensors` leaves the cycle with the same
exception and disk, after the registry update of `get_expired_tensor`. -/
theorem collectorCycle_of_deleteTensors_error {env : CycleEnv} {state : CollectorState}
    {podList : List Pod} (listed : env.podList = some podList) (readable : env.listdirFails = false)
    {e : Raised} {disk : Disk}
    (raises : deleteTensors env.fails (collectCycle cat nodeName state.keepAliveDict
      ⟨podList, (env.meanwhile state.disk).memoryFiles, env.now⟩).1 (env.meanwhile state.disk) =
        .error e disk) :
    collectorCycle cat nodeName env state = .error e ⟨(collectCycle cat nodeName state.keepAliveDict
      ⟨podList, (env.meanwhile state.disk).memoryFiles, env.now⟩).2, disk⟩ := by
  simp only [collectorCycle, listed, readable, raises]
  rfl

/-- Nothing catches an exception.  An exception raised in a cycle ends the
run there, with that exception and no later cycle.  A failed pod listing or
listing of `MEMORY_PATH` raises out of its cycle with the registry untouched,
rather than giving an empty snapshot, and an exception of `delete_tensors`
leaves its cycle as it is.  An exception while one tensor is handled ends
`delete_tensors` before the tensors after it.  `open(lock_file, "w")`,
`lockf(f, LOCK_EX)` and `os.remove` each raise when they fail; when
`os.remove` raises, the exclusive lock on the tensor's lock file is still
held as the exception leaves. -/
theorem raise_ends_nodeCollector :
    (∀ (done rest : List CycleEnv) (env : CycleEnv) (start middle after : CollectorState)
        (e : Raised),
      nodeCollector cat nodeName done start = .ok () middle →
      collectorCycle cat nodeName env middle = .error e after →
      nodeCollector cat nodeName (done ++ env :: rest) start = .error e after) ∧
    (∀ (env : CycleEnv) (state : CollectorState), env.podList = none →
      collectorCycle cat nodeName env state =
        .error ⟨.listNamespacedPod, none⟩ { state with disk := env.meanwhile state.disk }) ∧
    (∀ (env : CycleEnv) (state : CollectorState) (podList : List Pod),
      env.podList = some podList → env.listdirFails = true →
      collectorCycle cat nodeName env state =
        .error ⟨.listdir, none⟩ { state with disk := env.meanwhile state.disk }) ∧
    (∀ (env : CycleEnv) (state : CollectorState) (podList : List Pod) (e : Raised) (disk : Disk),
      env.podList = some podList → env.listdirFails = false →
      deleteTensors env.fails (collectCycle cat nodeName state.keepAliveDict
        ⟨podList, (env.meanwhile state.disk).memoryFiles, env.now⟩).1 (env.meanwhile state.disk) =
          .error e disk →
      collectorCycle cat nodeName env state = .error e ⟨(collectCycle cat nodeName state.keepAliveDict
        ⟨podList, (env.meanwhile state.disk).memoryFiles, env.now⟩).2, disk⟩) ∧
    (∀ (fails : Call → TensorId → Bool) (done rest : List TensorId) (t : TensorId)
        (disk middle after : Disk) (e : Raised),
      deleteTensors fails done disk = .ok () middle → deleteTensor fails t middle = .error e after →
      deleteTensors fails (done ++ t :: rest) disk = .error e after) ∧
    (∀ (fails : Call → TensorId → Bool) (t : TensorId) (disk : Disk),
      t ∈ disk.lockFiles → t ∈ disk.memoryFiles → fails .openLock t = true →
      deleteTensor fails t disk = .error ⟨.openLock, some t⟩ disk) ∧
    (∀ (fails : Call → TensorId → Bool) (t : TensorId) (disk : Disk),
      t ∈ disk.lockFiles → t ∈ disk.memoryFiles → fails .openLock t = false →
      fails .lockExclusive t = true →
      deleteTensor fails t disk = .error ⟨.lockExclusive, some t⟩ disk) ∧
    (∀ (fails : Call → TensorId → Bool) (t : TensorId) (disk : Disk),
      t ∈ disk.lockFiles → t ∈ disk.memoryFiles →
      fails .openLock t = false → fails .lockExclusive t = false → fails .remove t = true →
      deleteTensor fails t disk = .error ⟨.remove, some t⟩ (disk.acquire t) ∧
        t ∈ (disk.acquire t).held) := by
  refine ⟨fun done rest env start middle after e ranDone raises => ?_,
    fun env state unlisted => ?_, fun env state podList listed unreadable => ?_,
    fun _ _ _ _ _ listed readable raises => collectorCycle_of_deleteTensors_error cat nodeName listed
      readable raises,
    fun fails done rest t disk middle after e ranDone raises => ?_,
    fun _ _ _ locked cached openFails => deleteTensor_open_raises locked cached openFails,
    fun _ _ _ locked cached opens lockFails => deleteTensor_lockExclusive_raises locked cached opens
      lockFails,
    fun fails t disk locked cached opens locks removeFails =>
      ⟨deleteTensor_remove_raises locked cached opens locks removeFails, by simp [Disk.acquire]⟩⟩
  · simp only [nodeCollector_append, ranDone, nodeCollector, estate_bind_apply, raises]
  · simp [collectorCycle, unlisted]
  · simp [collectorCycle, listed, unreadable]
  · simp only [deleteTensors_append, ranDone, deleteTensors, estate_bind_apply, raises]

end

/-- `f.read().strip()`: the text without the white space around it. -/
def pyStrip (text : String) : String :=
  ⟨((text.data.dropWhile isPySpace).reverse.dropWhile isPySpace).reverse⟩

/-- `main()`: the node name is the stripped text of `/root/hostname`; then
`node_collector` loads the catalogue from the listing of `MODEL_PATH` and the
manifests, and runs its loop from an empty `keep_alive_dict`. -/
def main (hostname : String) (manifest : ModelId → String) (models : List ModelId)
    (envs : List CycleEnv) (disk : Disk) : EStateM.Result Raised CollectorState Unit :=
  nodeCollector (Catalogue.load manifest models) (pyStrip hostname) envs ⟨∅, disk⟩

/-- `dropWhile` keeps a list whose first element fails the test. -/
theorem dropWhile_of_head {α : Type} {p : α → Bool} {l : List α} (kept : ∀ a ∈ l.head?, p a = false) :
    l.dropWhile p = l := by
  cases l with
  | nil => rfl
  | cons a rest => exact List.dropWhile_cons_of_neg (by simp [kept a rfl])

/-- `strip()` gives back a text that neither starts nor ends with white space
from that text with any white space around it. -/
theorem pyStrip_pad {pad name pad' : List Char} (leading : ∀ c ∈ pad, isPySpace c)
    (trailing : ∀ c ∈ pad', isPySpace c) (first : ∀ c ∈ name.head?, isPySpace c = false)
    (last : ∀ c ∈ name.getLast?, isPySpace c = false) :
    pyStrip ⟨pad ++ name ++ pad'⟩ = ⟨name⟩ := by
  cases name with
  | nil =>
      have blank : ∀ c ∈ pad ++ pad', isPySpace c := fun c member =>
        (List.mem_append.mp member).elim (leading c) (trailing c)
      simp [pyStrip, List.dropWhile_eq_nil_iff.mpr blank]
  | cons c rest =>
      have spaced : ∀ b ∈ pad'.reverse, isPySpace b := fun b member => trailing b (List.mem_reverse.mp member)
      have ends : ∀ b ∈ (c :: rest).reverse.head?, isPySpace b = false := by rwa [List.head?_reverse]
      rw [pyStrip, List.append_assoc, List.dropWhile_append_of_pos leading,
        @dropWhile_of_head _ isPySpace ((c :: rest) ++ pad') first, List.reverse_append,
        List.dropWhile_append_of_pos spaced, dropWhile_of_head ends, List.reverse_reverse]

/-- Whatever white space surrounds the node's name in `/root/hostname` (the
newline that `hostname > /root/hostname` writes, say), `main` runs
`node_collector` for exactly that name, provided the name itself neither
starts nor ends with white space. -/
theorem main_collects_for_hostname (pad name pad' : List Char) (leading : ∀ c ∈ pad, isPySpace c)
    (trailing : ∀ c ∈ pad', isPySpace c) (first : ∀ c ∈ name.head?, isPySpace c = false)
    (last : ∀ c ∈ name.getLast?, isPySpace c = false) (manifest : ModelId → String)
    (models : List ModelId) (envs : List CycleEnv) (disk : Disk) :
    main ⟨pad ++ name ++ pad'⟩ manifest models envs disk =
      nodeCollector (Catalogue.load manifest models) ⟨name⟩ envs ⟨∅, disk⟩ := by
  rw [main, pyStrip_pad leading trailing first last]

/-- A host name file `n` followed by a newline. -/
theorem main_collects_for_newline_hostname :
    main "n\n" (fun _ => "") [] [] ⟨[], [], []⟩ =
      nodeCollector (Catalogue.load (fun _ => "") []) "n" [] ⟨∅, ⟨[], [], []⟩⟩ :=
  main_collects_for_hostname [] ['n'] ['\n'] (by decide) (by decide) (by decide) (by decide)
    (fun _ => "") [] [] ⟨[], [], []⟩

/-- A catalogue with no model. -/
def emptyCatalogue : Catalogue := ⟨[], ∅, fun _ member => absurd member (List.not_mem_nil _)⟩

/-- A cycle whose listing of `MEMORY_PATH` raises. -/
def listdirFailing : CycleEnv := ⟨id, some [], true, 0, noFaults⟩

/-- A disk where tensor `a` has its lock file and its cache file. -/
def publishedDisk : Disk := ⟨["a"], ["a"], []⟩

/-- A quiet cycle at 0 records `a`; the cycle a grace period later hands `a`
to `delete_tensors`, whose `os.remove` fails, and the exception ends the run
before the cycle after it, with the lock on `a` held.  A failing `open` and a
failing `lockf` raise on `a` and leave the disk as it was. -/
theorem raise_ends_nodeCollector_instances :
    nodeCollector emptyCatalogue "n" ([⟨id, some [], false, 0, noFaults⟩] ++
        ⟨id, some [], false, keepAliveDelta, fun call _ => call == .remove⟩ :: [listdirFailing])
        ⟨∅, publishedDisk⟩ =
      .error ⟨.remove, some "a"⟩ ⟨(∅ : KeepAliveDict).insert "a" 0, publishedDisk.acquire "a"⟩ ∧
    deleteTensor (fun call _ => call == .openLock) "a" publishedDisk =
      .error ⟨.openLock, some "a"⟩ publishedDisk ∧
    deleteTensor (fun call _ => call == .lockExclusive) "a" publishedDisk =
      .error ⟨.lockExclusive, some "a"⟩ publishedDisk ∧
    "a" ∈ (publishedDisk.acquire "a").held :=
  have spec := raise_ends_nodeCollector emptyCatalogue "n"
  ⟨spec.1 [⟨id, some [], false, 0, noFaults⟩] [listdirFailing] _ _
      ⟨(∅ : KeepAliveDict).insert "a" 0, publishedDisk⟩ _ _ rfl
      (spec.2.2.2.1 _ _ [] _ (publishedDisk.acquire "a") rfl rfl rfl),
    spec.2.2.2.2.2.1 _ "a" publishedDisk (by decide) (by decide) rfl,
    spec.2.2.2.2.2.2.1 _ "a" publishedDisk (by decide) (by decide) rfl rfl,
    (spec.2.2.2.2.2.2.2 (fun call _ => call == .remove) "a" publishedDisk (by decide) (by decide)
      rfl rfl rfl).2⟩

/-- The loop does not survive a failed listing: a run whose first cycle
cannot list `MEMORY_PATH` ends with that exception. -/
theorem listdir_failure_ends_run :
    ¬ ∀ (cat : Catalogue) (nodeName : String) (envs : List CycleEnv) (disk : Disk),
      ∃ state, nodeCollector cat nodeName envs ⟨∅, disk⟩ = .ok () state := by
  intro alwaysReturns
  obtain ⟨state, returned⟩ := alwaysReturns emptyCatalogue "n" [listdirFailing] publishedDisk
  cases returned

end Collector
end Tetris
