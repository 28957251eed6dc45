import TetrisCollector.Basic

namespace Tetris
namespace Collector

/-!
# `delete_tensors`

For each expired tensor the collector checks that both its lock file and its
cache file exist, opens the lock file for writing, takes an exclusive
`lockf` lock on it, removes the cache file, and releases the lock.  Nothing
catches an exception: a call that raises ends the loop, and the disk keeps
whatever the calls before it did.  The model is therefore a computation in
`EStateM` over the disk, with an exception type that records the call that
raised.

Here the collector runs alone on the disk.  Which calls raise is a parameter,
`fails`, so that every placement of failures is covered.  The interleaving
of these calls with other processes is the subject of `Interleaving`.
-/

/-- The part of the node's file system that the collector touches: the
entries of `LOCK_PATH` and of `MEMORY_PATH`, and the lock files on which this
process holds its `LOCK_EX` lock.  An entry is a plain file named by a tensor;
directories and symbolic links under the two paths are outside the model. -/
structure Disk where
  lockFiles : List TensorId
  memoryFiles : List TensorId
  held : List TensorId
  deriving DecidableEq, Repr

/-- The calls of a cycle that can raise: `v1.list_namespaced_pod(namespace)`,
`os.listdir(MEMORY_PATH)`, `open(lock_file, "w")`, `fcntl.lockf(f,
fcntl.LOCK_EX)`, `os.remove(memory_file)` and `fcntl.lockf(f, fcntl.LOCK_UN)`. -/
inductive Call
  | listNamespacedPod
  | listdir
  | openLock
  | lockExclusive
  | remove
  | unlock
  deriving DecidableEq, Repr

/-- An exception that escapes a cycle: the call that raised, and the tensor
it was about for the calls of `delete_tensors`. -/
structure Raised where
  call : Call
  tensor : Option TensorId
  deriving DecidableEq, Repr

namespace Disk

/-- `open(lock_file, "w")` creates the lock file when it is missing; an
existing file is truncated, which no listing shows. -/
def openForWrite (t : TensorId) (disk : Disk) : Disk :=
  { disk with lockFiles := setAdd disk.lockFiles t }

/-- The exclusive lock on `t`'s lock file is taken. -/
def acquire (t : TensorId) (disk : Disk) : Disk :=
  { disk with held := setAdd disk.held t }

/-- The lock on `t`'s lock file is released. -/
def release (t : TensorId) (disk : Disk) : Disk :=
  { disk with held := disk.held.filter (fun u => u ≠ t) }

/-- `t`'s entry leaves `MEMORY_PATH`. -/
def unlinkMemory (t : TensorId) (disk : Disk) : Disk :=
  { disk with memoryFiles := disk.memoryFiles.filter (fun u => u ≠ t) }

variable (t : TensorId) (disk : Disk)

@[simp] theorem openForWrite_memoryFiles : (disk.openForWrite t).memoryFiles = disk.memoryFiles := rfl
@[simp] theorem openForWrite_held : (disk.openForWrite t).held = disk.held := rfl
@[simp] theorem acquire_lockFiles : (disk.acquire t).lockFiles = disk.lockFiles := rfl
@[simp] theorem acquire_memoryFiles : (disk.acquire t).memoryFiles = disk.memoryFiles := rfl
@[simp] theorem release_lockFiles : (disk.release t).lockFiles = disk.lockFiles := rfl
@[simp] theorem release_memoryFiles : (disk.release t).memoryFiles = disk.memoryFiles := rfl
@[simp] theorem unlinkMemory_lockFiles : (disk.unlinkMemory t).lockFiles = disk.lockFiles := rfl
@[simp] theorem unlinkMemory_held : (disk.unlinkMemory t).held = disk.held := rfl

theorem openForWrite_of_mem (present : t ∈ disk.lockFiles) : disk.openForWrite t = disk := by
  simp [openForWrite, setAdd, present]

end Disk

section EStateM

variable {ε σ α β : Type}

@[simp] theorem estate_bind_apply (x : EStateM ε σ α) (f : α → EStateM ε σ β) (s : σ) :
    (x >>= f) s = match x s with
      | .ok a s => f a s
      | .error e s => .error e s := rfl

@[simp] theorem estate_pure_apply (a : α) (s : σ) : (pure a : EStateM ε σ α) s = .ok a s := rfl

@[simp] theorem estate_get_apply (s : σ) : (get : EStateM ε σ σ) s = .ok s s := rfl

/-- The state a computation leaves, whether it returns or raises. -/
def leftState : EStateM.Result ε σ α → σ
  | .ok _ s => s
  | .error _ s => s

@[simp] theorem leftState_ok (a : α) (s : σ) : leftState (.ok a s : EStateM.Result ε σ α) = s := rfl

@[simp] theorem leftState_error (e : ε) (s : σ) : leftState (.error e s : EStateM.Result ε σ α) = s := rfl

end EStateM

/-- A call of `delete_tensors` on `t` that raises when `fails` says so and
otherwise has `effect` on the disk. -/
def syscall (fails : Call → TensorId → Bool) (call : Call) (t : TensorId) (effect : Disk → Disk) :
    EStateM Raised Disk Unit := fun disk =>
  if fails call t then .error ⟨call, some t⟩ disk else .ok () (effect disk)

/-- `os.remove(memory_file)`: besides the failures of the other calls, it
raises `FileNotFoundError` when the entry is already gone. -/
def removeMemoryFile (fails : Call → TensorId → Bool) (t : TensorId) : EStateM Raised Disk Unit :=
  fun disk =>
    if fails .remove t ∨ t ∉ disk.memoryFiles then .error ⟨.remove, some t⟩ disk
    else .ok () (disk.unlinkMemory t)

/-- The body of the loop of `delete_tensors`, on tensor `t`. -/
def deleteTensor (fails : Call → TensorId → Bool) (t : TensorId) : EStateM Raised Disk Unit := do
  let disk ← get
  if t ∈ disk.lockFiles ∧ t ∈ disk.memoryFiles then
    syscall fails .openLock t (Disk.openForWrite t)
    syscall fails .lockExclusive t (Disk.acquire t)
    removeMemoryFile fails t
    syscall fails .unlock t (Disk.release t)

/-- `delete_tensors(expired_tensor_set)`, the set walked in iteration order. -/
def deleteTensors (fails : Call → TensorId → Bool) : List TensorId → EStateM Raised Disk Unit
  | [] => pure ()
  | t :: rest => do
      deleteTensor fails t
      deleteTensors fails rest

/-- No call raises. -/
def noFaults : Call → TensorId → Bool := fun _ _ => false

/-! ## The loop -/

/-- An exception raised while handling one tensor ends `delete_tensors`: the
tensors after it are not handled. -/
theorem deleteTensors_append (fails : Call → TensorId → Bool) (done rest : List TensorId)
    (disk : Disk) :
    deleteTensors fails (done ++ rest) disk =
      match deleteTensors fails done disk with
      | .ok () disk => deleteTensors fails rest disk
      | .error e disk => .error e disk := by
  induction done generalizing disk with
  | nil => rfl
  | cons t done ih =>
      simp only [List.cons_append, deleteTensors, estate_bind_apply]
      cases deleteTensor fails t disk with
      | ok _ disk => exact ih disk
      | error e disk => rfl

theorem deleteTensor_of_not_present {fails : Call → TensorId → Bool} {t : TensorId} {disk : Disk}
    (absent : ¬ (t ∈ disk.lockFiles ∧ t ∈ disk.memoryFiles)) :
    deleteTensor fails t disk = .ok () disk := by
  simp [deleteTensor, absent]

/-- When `open(lock_file, "w")` raises, nothing has changed. -/
theorem deleteTensor_open_raises {fails : Call → TensorId → Bool} {t : TensorId} {disk : Disk}
    (locked : t ∈ disk.lockFiles) (cached : t ∈ disk.memoryFiles) (openFails : fails .openLock t = true) :
    deleteTensor fails t disk = .error ⟨.openLock, some t⟩ disk := by
  simp [deleteTensor, locked, cached, syscall, openFails]

/-- When `lockf(f, LOCK_EX)` raises, no lock is held and no file has changed. -/
theorem deleteTensor_lockExclusive_raises {fails : Call → TensorId → Bool} {t : TensorId}
    {disk : Disk} (locked : t ∈ disk.lockFiles) (cached : t ∈ disk.memoryFiles)
    (opens : fails .openLock t = false) (lockFails : fails .lockExclusive t = true) :
    deleteTensor fails t disk = .error ⟨.lockExclusive, some t⟩ disk := by
  simp [deleteTensor, locked, cached, syscall, opens, lockFails, Disk.openForWrite_of_mem t disk locked]

/-- When `os.remove` raises, the unlock after it is skipped: the exception
leaves `delete_tensors` with the exclusive lock still held. -/
theorem deleteTensor_remove_raises {fails : Call → TensorId → Bool} {t : TensorId} {disk : Disk}
    (locked : t ∈ disk.lockFiles) (cached : t ∈ disk.memoryFiles)
    (opens : fails .openLock t = false) (locks : fails .lockExclusive t = false)
    (removeFails : fails .remove t = true) :
    deleteTensor fails t disk = .error ⟨.remove, some t⟩ (disk.acquire t) := by
  simp [deleteTensor, locked, cached, syscall, removeMemoryFile, opens, locks, removeFails,
    Disk.openForWrite_of_mem t disk locked]

/-! ## Without failures -/

/-- What handling `t` does when no call raises. -/
def evictOne (t : TensorId) (disk : Disk) : Disk :=
  if t ∈ disk.lockFiles ∧ t ∈ disk.memoryFiles then
    (((disk.openForWrite t).acquire t).unlinkMemory t).release t
  else disk

theorem deleteTensor_noFaults (t : TensorId) (disk : Disk) :
    deleteTensor noFaults t disk = .ok () (evictOne t disk) := by
  by_cases present : t ∈ disk.lockFiles ∧ t ∈ disk.memoryFiles
  · simp [deleteTensor, evictOne, present, syscall, removeMemoryFile, noFaults]
  · rw [deleteTensor_of_not_present present, evictOne, if_neg present]

theorem evictOne_memoryFiles (t : TensorId) (disk : Disk) :
    (evictOne t disk).memoryFiles =
      if t ∈ disk.lockFiles ∧ t ∈ disk.memoryFiles then disk.memoryFiles.filter (fun u => u ≠ t)
      else disk.memoryFiles := by
  unfold evictOne
  split <;> rfl

theorem evictOne_lockFiles (t : TensorId) (disk : Disk) :
    (evictOne t disk).lockFiles = disk.lockFiles := by
  unfold evictOne
  split
  · rename_i present
    simp [Disk.openForWrite_of_mem t disk present.1]
  · rfl

theorem mem_evictOne_memoryFiles {t u : TensorId} {disk : Disk} :
    u ∈ (evictOne t disk).memoryFiles ↔ u ∈ disk.memoryFiles ∧ ¬ (u = t ∧ t ∈ disk.lockFiles) := by
  rw [evictOne_memoryFiles]
  split
  · rename_i present
    simp [present.1]
  · rename_i absent
    exact ⟨fun member => ⟨member, fun ⟨same, locked⟩ => absent ⟨locked, same ▸ member⟩⟩, And.left⟩

theorem evictOne_held {t u : TensorId} {disk : Disk} (held : u ∈ (evictOne t disk).held) :
    u ∈ disk.held := by
  unfold evictOne at held
  split at held
  · simp only [Disk.release, Disk.acquire, List.mem_filter, mem_setAdd, Disk.unlinkMemory_held,
      Disk.openForWrite_held] at held
    exact held.1.resolve_right (by simpa using held.2)
  · exact held

/-- With no failing call and no other process, `delete_tensors(E)` returns
normally, leaves the lock files as they were, and leaves exactly the cache
files that were there except those of tensors of `E` with a lock file.  It
holds no lock afterwards that it did not hold before. -/
theorem deleteTensors_evicts_locked (expired : List TensorId) (disk : Disk) :
    ∃ disk', deleteTensors noFaults expired disk = .ok () disk' ∧
      disk'.lockFiles = disk.lockFiles ∧
      (∀ t, t ∈ disk'.memoryFiles ↔
        t ∈ disk.memoryFiles ∧ ¬ (t ∈ expired ∧ t ∈ disk.lockFiles)) ∧
      (∀ t, t ∈ disk'.held → t ∈ disk.held) := by
  induction expired generalizing disk with
  | nil => exact ⟨disk, rfl, rfl, fun t => by simp, fun _ held => held⟩
  | cons t rest ih =>
      obtain ⟨disk', run, locks, memory, held⟩ := ih (evictOne t disk)
      have sameLocks := evictOne_lockFiles t disk
      refine ⟨disk', ?_, locks.trans sameLocks, fun u => ?_, fun u member => evictOne_held (held u member)⟩
      · simp [deleteTensors, deleteTensor_noFaults, run]
      · rw [memory, mem_evictOne_memoryFiles, sameLocks]
        by_cases same : u = t
        · subst same; simp +contextual
        · simp [same]

/-! ## With failures -/

namespace Disk

/-- What `delete_tensors` may have done to the disk `before` when it stops at
`after`, whatever raised: no lock file appears or disappears, no cache file
appears, and a cache file disappears only for a tensor of `expired` that has
a lock file. -/
structure Shrinks (expired : List TensorId) (before after : Disk) : Prop where
  lockFiles_eq : after.lockFiles = before.lockFiles
  memoryFiles_subset : ∀ t, t ∈ after.memoryFiles → t ∈ before.memoryFiles
  removed : ∀ t, t ∈ before.memoryFiles → t ∉ after.memoryFiles →
    t ∈ expired ∧ t ∈ before.lockFiles

variable {expired : List TensorId}

theorem Shrinks.of_memoryFiles_eq {before after : Disk} (locks : after.lockFiles = before.lockFiles)
    (memory : after.memoryFiles = before.memoryFiles) : Shrinks expired before after :=
  ⟨locks, fun _ member => memory ▸ member, fun _ was gone => absurd (memory ▸ was) gone⟩

theorem Shrinks.trans {d₁ d₂ d₃ : Disk} (first : Shrinks expired d₁ d₂)
    (second : Shrinks expired d₂ d₃) :
    Shrinks expired d₁ d₃ where
  lockFiles_eq := second.lockFiles_eq.trans first.lockFiles_eq
  memoryFiles_subset t member := first.memoryFiles_subset t (second.memoryFiles_subset t member)
  removed t was gone := by
    by_cases kept : t ∈ d₂.memoryFiles
    · exact (second.removed t kept gone).imp_right (first.lockFiles_eq ▸ ·)
    · exact first.removed t was kept

theorem Shrinks.mono {expired' : List TensorId} {before after : Disk}
    (shrinks : Shrinks expired before after) (wider : expired ⊆ expired') :
    Shrinks expired' before after :=
  ⟨shrinks.lockFiles_eq, shrinks.memoryFiles_subset,
    fun t was gone => (shrinks.removed t was gone).imp_left (@wider t)⟩

/-- Removing the cache file of a tensor with a lock file. -/
theorem shrinks_unlinkMemory {t : TensorId} {disk : Disk} (locked : t ∈ disk.lockFiles) :
    Shrinks [t] disk (disk.unlinkMemory t) :=
  ⟨rfl, fun _ member => List.mem_of_mem_filter member, fun u was gone => by
    have same : u = t := by simpa [unlinkMemory, was] using gone
    exact ⟨List.mem_singleton.2 same, same ▸ locked⟩⟩

end Disk

/-- Every way handling one tensor can end, whatever raises: it returns with no
new lock held, or it raises an exception that names the tensor, with at most
that tensor's lock newly held.  Either way the disk only shrinks. -/
theorem deleteTensor_outcome (fails : Call → TensorId → Bool) (t : TensorId) (disk : Disk) :
    (∃ after, deleteTensor fails t disk = .ok () after ∧ disk.Shrinks [t] after ∧
      ∀ u ∈ after.held, u ∈ disk.held) ∨
    (∃ call after, deleteTensor fails t disk = .error ⟨call, some t⟩ after ∧
      disk.Shrinks [t] after ∧ ∀ u ∈ after.held, u ∈ disk.held ∨ u = t) := by
  by_cases present : t ∈ disk.lockFiles ∧ t ∈ disk.memoryFiles
  swap
  · exact .inl ⟨disk, deleteTensor_of_not_present present, .of_memoryFiles_eq rfl rfl, fun _ => id⟩
  have unchanged : disk.Shrinks [t] (disk.acquire t) := .of_memoryFiles_eq rfl rfl
  have unlinked : disk.Shrinks [t] ((disk.acquire t).unlinkMemory t) :=
    unchanged.trans (Disk.shrinks_unlinkMemory present.1)
  have acquired : ∀ u ∈ (disk.acquire t).held, u ∈ disk.held ∨ u = t := fun _ => mem_setAdd.mp
  simp only [deleteTensor, estate_bind_apply, estate_get_apply, present, and_self, if_true, syscall,
    removeMemoryFile, Disk.openForWrite_of_mem t disk present.1]
  cases fails .openLock t <;> simp only [Bool.false_eq_true, if_false, if_true]
  · cases fails .lockExclusive t <;> simp only [Bool.false_eq_true, if_false, if_true]
    · cases fails .remove t <;>
        simp only [Bool.false_eq_true, if_false, if_true, true_or, false_or, Disk.acquire_memoryFiles,
          present.2, not_true_eq_false]
      · cases fails .unlock t <;> simp only [Bool.false_eq_true, if_false, if_true]
        · refine .inl ⟨_, rfl, unlinked.trans (.of_memoryFiles_eq rfl rfl), fun u member => ?_⟩
          simp only [Disk.release, List.mem_filter, Disk.unlinkMemory_held] at member
          exact (acquired u member.1).resolve_right (by simpa using member.2)
        · exact .inr ⟨_, _, rfl, unlinked, acquired⟩
      · exact .inr ⟨_, _, rfl, unchanged, acquired⟩
    · exact .inr ⟨_, _, rfl, .of_memoryFiles_eq rfl rfl, fun _ => .inl⟩
  · exact .inr ⟨_, _, rfl, .of_memoryFiles_eq rfl rfl, fun _ => .inl⟩

/-- Whatever calls raise, `delete_tensors` only shrinks the disk, and only by
the cache files of expired tensors with a lock file. -/
theorem deleteTensors_shrinks (fails : Call → TensorId → Bool) (expired : List TensorId) (disk : Disk) :
    disk.Shrinks expired (leftState (deleteTensors fails expired disk)) := by
  induction expired generalizing disk with
  | nil => exact .of_memoryFiles_eq rfl rfl
  | cons t rest ih =>
      have first : [t] ⊆ t :: rest := List.cons_subset.2 ⟨List.mem_cons_self t rest, List.nil_subset _⟩
      simp only [deleteTensors, estate_bind_apply]
      rcases deleteTensor_outcome fails t disk with ⟨middle, handled, shrinks, _⟩ |
          ⟨call, after, raised, shrinks, _⟩
      · rw [handled]
        exact (shrinks.mono first).trans ((ih middle).mono (List.subset_cons_self t rest))
      · rw [raised]
        exact shrinks.mono first

/-- With no failing call, `delete_tensors` returns, and every expired tensor
with a lock file has lost its cache file. -/
theorem deleteTensors_noFaults_removes (expired : List TensorId) (disk : Disk) :
    ∃ after, deleteTensors noFaults expired disk = .ok () after ∧
      ∀ t ∈ expired, t ∈ disk.lockFiles → t ∉ after.memoryFiles := by
  induction expired generalizing disk with
  | nil => exact ⟨disk, rfl, fun _ member => nomatch member⟩
  | cons t rest ih =>
      obtain ⟨after, ran, removed⟩ := ih (evictOne t disk)
      have later := deleteTensors_shrinks noFaults rest (evictOne t disk)
      rw [ran, leftState_ok] at later
      refine ⟨after, by simp only [deleteTensors, estate_bind_apply, deleteTensor_noFaults, ran],
        fun u listed locked kept => ?_⟩
      rcases List.mem_cons.mp listed with rfl | member
      · exact (mem_evictOne_memoryFiles.mp (later.memoryFiles_subset u kept)).2 ⟨rfl, locked⟩
      · exact removed u member (by rw [evictOne_lockFiles]; exact locked) kept

/-- Whatever calls raise, `delete_tensors` either returns, holding no lock it
did not hold before, or raises an exception that names one of the expired
tensors, with at most that tensor's lock newly held. -/
theorem deleteTensors_held (fails : Call → TensorId → Bool) (expired : List TensorId) (disk : Disk) :
    (∃ after, deleteTensors fails expired disk = .ok () after ∧ ∀ u ∈ after.held, u ∈ disk.held) ∨
    (∃ t ∈ expired, ∃ call after, deleteTensors fails expired disk = .error ⟨call, some t⟩ after ∧
      ∀ u ∈ after.held, u ∈ disk.held ∨ u = t) := by
  induction expired generalizing disk with
  | nil => exact .inl ⟨disk, rfl, fun _ => id⟩
  | cons t rest ih =>
      simp only [deleteTensors, estate_bind_apply]
      rcases deleteTensor_outcome fails t disk with ⟨middle, handled, -, held⟩ |
          ⟨call, after, raised, -, held⟩
      · rw [handled]
        rcases ih middle with ⟨after, ran, held'⟩ | ⟨u, listed, call, after, raised, held'⟩
        · exact .inl ⟨after, ran, fun v member => held v (held' v member)⟩
        · exact .inr ⟨u, List.mem_cons_of_mem t listed, call, after, raised,
            fun v member => (held' v member).imp_left (held v)⟩
      · rw [raised]
        exact .inr ⟨t, List.mem_cons_self t rest, call, after, rfl, held⟩

/-- Whatever calls raise, `delete_tensors` never creates or removes a lock
file, never creates a cache file, and removes only cache files of expired
tensors that have a lock file.  It either returns, holding no lock it did not
hold before, or raises an exception that names one of the expired tensors,
with at most that tensor's lock newly held. -/
theorem deleteTensors_outcome (fails : Call → TensorId → Bool) (expired : List TensorId) (disk : Disk) :
    (∃ after, deleteTensors fails expired disk = .ok () after ∧ disk.Shrinks expired after ∧
      ∀ u ∈ after.held, u ∈ disk.held) ∨
    (∃ t ∈ expired, ∃ call after, deleteTensors fails expired disk = .error ⟨call, some t⟩ after ∧
      disk.Shrinks expired after ∧ ∀ u ∈ after.held, u ∈ disk.held ∨ u = t) := by
  have shrinks := deleteTensors_shrinks fails expired disk
  rcases deleteTensors_held fails expired disk with ⟨after, ran, held⟩ |
      ⟨t, listed, call, after, raised, held⟩
  · exact .inl ⟨after, ran, by simpa [ran] using shrinks, held⟩
  · exact .inr ⟨t, listed, call, after, raised, by simpa [raised] using shrinks, held⟩

end Collector
end Tetris
