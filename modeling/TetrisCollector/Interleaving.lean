import TetrisCollector.Basic
import Mathlib.Logic.Function.Basic

namespace Tetris
namespace Collector

/-!
# `delete_tensors` among other processes

The collector shares `LOCK_PATH` and `MEMORY_PATH` with the serving
processes.  A reader locks a tensor's lock file while it maps the cache file,
and other processes may remove cache files and lock files.  The collector's
calls are separate system calls, and any of these actions can fall between
two of them.

A path of `LOCK_PATH` names an inode, and `lockf` locks the inode, not the
path: once a lock file is removed, a new file under the same path is a new
inode, with locks of its own.  The world records, for each tensor, the inode
its lock-file path names; the inodes locked by readers; and where the
collector is in the loop body of `delete_tensors`.  `step` is one atomic
action of one party, and `none` when that action is not enabled: the
collector's `LOCK_EX` waits while a reader holds a lock on the inode, a reader
waits while the collector holds it, and no other process removes a file of
the tensor whose exclusive lock the collector holds.

The collector's `open`, `lockf` and `os.remove` can also raise of
themselves, whatever the others do: `open` or `os.remove` on a directory
entry, a refused permission, an interrupted wait, a failing unlock.  Such a
failure is an action of its own, `collectorFails`, enabled whenever the
collector's next call is one of these; `os.remove` on a vanished cache file
raises through the collector's own step.

No action publishes a file: the serving side's creation of lock and cache
files is outside the model, and the results on the lock discipline are for
interleavings without it.  They need that restriction.  A lock file
published again under the same path between the collector's `open` and its
`lockf` is a new inode that a reader can lock while the collector locks the
old one.
-/

namespace Race

/-- Where the collector is in the loop body of `delete_tensors`, for the first
tensor it has still to handle: before `os.path.exists(lock_file)`, before
`os.path.exists(memory_file)`, before `open(lock_file, "w")`, before
`lockf(f, LOCK_EX)` with the lock file open on `inode`, before `os.remove`
with the exclusive lock on `inode` held, before `lockf(f, LOCK_UN)`; or gone,
after a call raised. -/
inductive Pc where
  | checkLock
  | checkMemory
  | openLock
  | lockExclusive (inode : Nat)
  | remove (inode : Nat)
  | unlock (inode : Nat)
  | raised
  deriving DecidableEq, Repr

/-- The shared directories and the collector's position: the inode that each
tensor's lock-file path names, if it exists; the entries of `MEMORY_PATH`; the
inodes on which readers hold locks, one entry per lock; an inode number that
no file has had yet; and the expired tensors still to be handled, the current
one first. -/
structure World where
  lockFiles : TensorId → Option Nat
  memoryFiles : List TensorId
  readers : List Nat
  fresh : Nat
  todo : List TensorId
  pc : Pc

/-- The actions of the parties: the collector makes its next call; its next
call raises of itself; a reader locks `t`'s lock file; a reader releases one
of its locks on `inode`; another process removes `t`'s cache file, or `t`'s
lock file. -/
inductive Action where
  | collector
  | collectorFails
  | readerLock (t : TensorId)
  | readerUnlock (inode : Nat)
  | removeMemory (t : TensorId)
  | removeLock (t : TensorId)
  deriving DecidableEq, Repr

namespace World

/-- The inode of the lock file the collector has open. -/
def opened (w : World) : Option Nat :=
  match w.pc with
  | .lockExclusive inode | .remove inode | .unlock inode => some inode
  | _ => none

/-- The inode on which the collector holds its exclusive lock. -/
def exclusive (w : World) : Option Nat :=
  match w.pc with
  | .remove inode | .unlock inode => some inode
  | _ => none

/-- `open(lock_file, "w")` on a missing path: a new file, on a new inode. -/
def createLock (w : World) (t : TensorId) : World :=
  { w with lockFiles := Function.update w.lockFiles t (some w.fresh), fresh := w.fresh + 1 }

/-- Whether the collector holds the exclusive lock taken for tensor `t`. -/
def holdsLockOf (w : World) (t : TensorId) : Bool :=
  w.exclusive.isSome && w.todo.head? == some t

/-- Whether the collector's next call is `open`, `lockf` or `os.remove`, the
calls that can raise of themselves. -/
def canRaise (w : World) : Bool :=
  match w.pc with
  | .openLock | .lockExclusive _ | .remove _ | .unlock _ => true
  | _ => false

end World

/-- The collector's next call, when it can make one, as it returns; the same
call raising of itself is the action `collectorFails` of `step`. -/
def collectorStep (w : World) : Option World :=
  match w.todo with
  | [] => none
  | t :: rest =>
      match w.pc with
      | .checkLock =>
          some (if (w.lockFiles t).isSome then { w with pc := .checkMemory } else { w with todo := rest })
      | .checkMemory =>
          some (if t ∈ w.memoryFiles then { w with pc := .openLock }
            else { w with todo := rest, pc := .checkLock })
      | .openLock =>
          some (match w.lockFiles t with
            | some inode => { w with pc := .lockExclusive inode }
            | none => { w.createLock t with pc := .lockExclusive w.fresh })
      | .lockExclusive inode =>
          if inode ∈ w.readers then none else some { w with pc := .remove inode }
      | .remove inode =>
          some (if t ∈ w.memoryFiles then
              { w with memoryFiles := w.memoryFiles.filter (fun u => u ≠ t), pc := .unlock inode }
            else { w with pc := .raised })
      | .unlock _ => some { w with todo := rest, pc := .checkLock }
      | .raised => none

/-- One action, when it is enabled. -/
def step (w : World) : Action → Option World
  | .collector => collectorStep w
  | .collectorFails => if w.canRaise then some { w with pc := .raised } else none
  | .readerLock t =>
      match w.lockFiles t with
      | some inode =>
          if w.exclusive = some inode then none else some { w with readers := inode :: w.readers }
      | none => none
  | .readerUnlock inode =>
      if inode ∈ w.readers then some { w with readers := w.readers.erase inode } else none
  | .removeMemory t =>
      if t ∈ w.memoryFiles ∧ w.holdsLockOf t = false then
        some { w with memoryFiles := w.memoryFiles.filter (fun u => u ≠ t) }
      else none
  | .removeLock t =>
      if (w.lockFiles t).isSome ∧ w.holdsLockOf t = false then
        some { w with lockFiles := Function.update w.lockFiles t none }
      else none

/-- An interleaving of actions, as long as each is enabled. -/
def run (w : World) : List Action → Option World
  | [] => some w
  | a :: actions => (step w a).bind fun next => run next actions

theorem run_append (w : World) (first second : List Action) :
    run w (first ++ second) = (run w first).bind fun next => run next second := by
  induction first generalizing w with
  | nil => rfl
  | cons a first ih =>
      simp only [List.cons_append, run]
      cases step w a with
      | none => rfl
      | some next => exact ih next

/-- The world as `delete_tensors(expired)` is called. -/
def start (lockFiles : TensorId → Option Nat) (memoryFiles : List TensorId) (readers : List Nat)
    (fresh : Nat) (expired : List TensorId) : World :=
  ⟨lockFiles, memoryFiles, readers, fresh, expired, .checkLock⟩

/-! ## What the collector's calls change -/

/-- Everything one call of the collector can do, with the guard under which
it does it. -/
theorem collectorStep_cases {w w' : World} (stepped : collectorStep w = some w') :
    ∃ t rest, w.todo = t :: rest ∧
      (w' = { w with todo := rest, pc := .checkLock } ∨
        (w.pc = .checkLock ∧ (w.lockFiles t).isSome ∧ w' = { w with pc := .checkMemory }) ∨
        (w.pc = .checkMemory ∧ t ∈ w.memoryFiles ∧ w' = { w with pc := .openLock }) ∨
        (w.pc = .openLock ∧ ∃ inode, w.lockFiles t = some inode ∧
          w' = { w with pc := .lockExclusive inode }) ∨
        (w.pc = .openLock ∧ w.lockFiles t = none ∧
          w' = { w.createLock t with pc := .lockExclusive w.fresh }) ∨
        (∃ inode, w.pc = .lockExclusive inode ∧ inode ∉ w.readers ∧ w' = { w with pc := .remove inode }) ∨
        (∃ inode, w.pc = .remove inode ∧ t ∈ w.memoryFiles ∧
          w' = { w with memoryFiles := w.memoryFiles.filter (fun u => u ≠ t), pc := .unlock inode }) ∨
        (∃ inode, w.pc = .remove inode ∧ t ∉ w.memoryFiles ∧ w' = { w with pc := .raised })) := by
  obtain ⟨lockFiles, memoryFiles, readers, fresh, todo, pc⟩ := w
  cases todo with
  | nil => cases stepped
  | cons t rest =>
      refine ⟨t, rest, rfl, ?_⟩
      cases pc <;> simp only [collectorStep, Option.some.injEq, reduceCtorEq] at stepped
      case checkLock | checkMemory | openLock | lockExclusive | remove => split at stepped <;> simp_all
      case unlock => simp [← stepped]

/-- A call of the collector leaves `MEMORY_PATH` as it was, except the remove
of the current tensor's cache file while it holds the exclusive lock. -/
theorem collectorStep_memoryFiles {w w' : World} (stepped : collectorStep w = some w') :
    w'.memoryFiles = w.memoryFiles ∨
      ∃ t rest inode, w.todo = t :: rest ∧ w.pc = .remove inode ∧
        w'.memoryFiles = w.memoryFiles.filter (fun u => u ≠ t) := by
  obtain ⟨t, rest, todo, cases⟩ := collectorStep_cases stepped
  rcases cases with rfl | ⟨-, -, rfl⟩ | ⟨-, -, rfl⟩ | ⟨-, -, -, rfl⟩ | ⟨-, -, rfl⟩ | ⟨-, -, -, rfl⟩ |
      ⟨inode, pc, -, rfl⟩ | ⟨-, -, -, rfl⟩
  all_goals first
    | exact .inl rfl
    | exact .inr ⟨t, rest, inode, todo, pc, rfl⟩

/-- The collector never creates a cache file. -/
theorem collectorStep_memoryFiles_subset {w w' : World} (stepped : collectorStep w = some w')
    {u : TensorId} (member : u ∈ w'.memoryFiles) : u ∈ w.memoryFiles := by
  rcases collectorStep_memoryFiles stepped with same | ⟨t, rest, inode, _, _, removed⟩
  · exact same ▸ member
  · rw [removed] at member
    exact List.mem_of_mem_filter member

/-! ## The lock discipline -/

theorem World.opened_of_exclusive {w : World} {inode : Nat} (held : w.exclusive = some inode) :
    w.opened = some inode := by
  unfold World.exclusive at held
  unfold World.opened
  split at held <;> simp_all

/-- While the collector has a lock file open, the current tensor's lock-file
path names the inode it opened, or nothing.  While it holds the exclusive
lock, no reader holds a lock on that inode. -/
structure Safe (w : World) : Prop where
  path : ∀ t inode, w.todo.head? = some t → w.opened = some inode →
    w.lockFiles t = none ∨ w.lockFiles t = some inode
  unread : ∀ inode, w.exclusive = some inode → inode ∉ w.readers

/-- A world where the collector has no lock file open is safe. -/
theorem safe_of_opened_none {w : World} (closed : w.opened = none) : Safe w := by
  constructor
  · intro _ _ _ nowOpen
    rw [closed] at nowOpen
    cases nowOpen
  · intro _ held
    rw [World.opened_of_exclusive held] at closed
    cases closed

/-- A step that changes neither the current tensor's lock-file path, nor the
readers, nor what the collector has open or locked keeps the world safe. -/
theorem Safe.transfer {w w' : World} (safe : Safe w) (todo : w'.todo = w.todo)
    (lockFiles : w'.lockFiles = w.lockFiles) (readers : w'.readers = w.readers)
    (opened : w'.opened = w.opened) (exclusive : w'.exclusive = w.exclusive) : Safe w' :=
  ⟨fun t inode current nowOpen => by
      rw [lockFiles]; exact safe.path t inode (todo ▸ current) (opened ▸ nowOpen),
    fun inode held => by rw [readers]; exact safe.unread inode (exclusive ▸ held)⟩

theorem collectorStep_safe {w w' : World} (safe : Safe w) (stepped : collectorStep w = some w') :
    Safe w' := by
  obtain ⟨t, rest, todo, cases⟩ := collectorStep_cases stepped
  have current : ∀ u, w.todo.head? = some u → u = t := fun u found =>
    Option.some.inj (found.symm.trans (by rw [todo]; rfl))
  rcases cases with rfl | ⟨-, -, rfl⟩ | ⟨-, -, rfl⟩ | ⟨-, inode, named, rfl⟩ | ⟨-, -, rfl⟩ |
      ⟨inode, pc, unread, rfl⟩ | ⟨inode, pc, -, rfl⟩ | ⟨-, -, -, rfl⟩
  · exact safe_of_opened_none rfl
  · exact safe_of_opened_none rfl
  · exact safe_of_opened_none rfl
  · refine ⟨fun u i head opened => ?_, fun _ held => by cases held⟩
    cases current u head
    cases opened
    exact .inr named
  · refine ⟨fun u i head opened => ?_, fun _ held => by cases held⟩
    cases current u head
    cases opened
    exact .inr (Function.update_same _ _ _)
  · exact ⟨fun u i head opened => safe.path u i head (by simpa [World.opened, pc] using opened),
      fun i held => by cases held; exact unread⟩
  · exact safe.transfer rfl rfl rfl (by simp [World.opened, pc]) (by simp [World.exclusive, pc])
  · exact safe_of_opened_none rfl

/-- Every action of every party keeps the world safe. -/
theorem step_safe {w w' : World} (safe : Safe w) {a : Action} (stepped : step w a = some w') :
    Safe w' := by
  cases a with
  | collector => exact collectorStep_safe safe stepped
  | collectorFails =>
      simp only [step] at stepped
      split at stepped
      · cases stepped
        exact safe_of_opened_none rfl
      · cases stepped
  | readerLock t =>
      simp only [step] at stepped
      split at stepped
      · rename_i inode _
        split at stepped
        · cases stepped
        · rename_i free
          cases stepped
          refine ⟨safe.path, fun i held => ?_⟩
          simp only [List.mem_cons, not_or]
          exact ⟨fun same => free (same ▸ held), safe.unread i held⟩
      · cases stepped
  | readerUnlock inode =>
      simp only [step] at stepped
      split at stepped
      · cases stepped
        exact ⟨safe.path, fun i held member => safe.unread i held (List.mem_of_mem_erase member)⟩
      · cases stepped
  | removeMemory t =>
      simp only [step] at stepped
      split at stepped
      · cases stepped
        exact safe.transfer rfl rfl rfl rfl rfl
      · cases stepped
  | removeLock t =>
      simp only [step] at stepped
      split at stepped
      · cases stepped
        refine ⟨fun u i current nowOpen => ?_, safe.unread⟩
        by_cases same : u = t
        · subst same
          exact .inl (Function.update_same _ _ _)
        · dsimp only
          rw [Function.update_noteq same]
          exact safe.path u i current nowOpen
      · cases stepped

theorem run_safe {w w' : World} (safe : Safe w) {actions : List Action}
    (ran : run w actions = some w') : Safe w' := by
  induction actions generalizing w with
  | nil => cases ran; exact safe
  | cons a actions ih =>
      obtain ⟨next, stepped, rest⟩ := Option.bind_eq_some.mp ran
      exact ih (step_safe safe stepped) rest

/-- In a safe world, a call of the collector that removes `t`'s cache file
makes it while no reader holds a lock on the inode `t`'s lock-file path names. -/
theorem Safe.unread_of_removes {w w' : World} (safe : Safe w) (removes : collectorStep w = some w')
    {t : TensorId} (was : t ∈ w.memoryFiles) (gone : t ∉ w'.memoryFiles) {inode : Nat}
    (current : w.lockFiles t = some inode) : inode ∉ w.readers := by
  rcases collectorStep_memoryFiles removes with same | ⟨u, rest, held, todo, pc, removed⟩
  · exact absurd (same ▸ was) gone
  · have same : t = u := by
      by_contra other
      rw [removed] at gone
      exact gone (List.mem_filter.mpr ⟨was, by simpa using other⟩)
    subst same
    have exclusive : w.exclusive = some held := by simp [World.exclusive, pc]
    rcases safe.path t held (by simp [todo]) (World.opened_of_exclusive exclusive) with
      absent | named
    · rw [absent] at current; cases current
    · rw [named] at current
      cases current
      exact safe.unread _ exclusive

/-- The collector never removes a cache file while a reader holds a lock on
that tensor's current lock file, whatever readers and other processes do
between its calls. -/
theorem collector_removes_only_unlocked {lockFiles : TensorId → Option Nat}
    {memoryFiles : List TensorId} {readers : List Nat} {fresh : Nat} {expired : List TensorId}
    {actions : List Action} {w w' : World}
    (reached : run (start lockFiles memoryFiles readers fresh expired) actions = some w)
    (removes : collectorStep w = some w') {t : TensorId} (was : t ∈ w.memoryFiles)
    (gone : t ∉ w'.memoryFiles) {inode : Nat} (current : w.lockFiles t = some inode) :
    inode ∉ w.readers :=
  (run_safe (@safe_of_opened_none (start lockFiles memoryFiles readers fresh expired) rfl)
    reached).unread_of_removes removes was gone current

/-- Tensor `a` is expired, with its lock file on inode 0 and its cache file;
no file has had inode 1. -/
def published : World :=
  start (fun t => if t = "a" then some 0 else none) ["a"] [] 1 ["a"]

/-- Alone on the disk, the collector reaches the remove of `a`'s cache file
holding inode 0, which no reader holds. -/
theorem published_removes_unlocked :
    collectorStep { published with pc := .remove 0 } =
        some { published with memoryFiles := [], pc := .unlock 0 } ∧
      0 ∉ ({ published with pc := .remove 0 } : World).readers :=
  ⟨rfl, @collector_removes_only_unlocked (fun t => if t = "a" then some 0 else none) ["a"] [] 1 ["a"]
    [.collector, .collector, .collector, .collector] { published with pc := .remove 0 }
    { published with memoryFiles := [], pc := .unlock 0 } rfl rfl "a" (by decide) (by decide) 0 rfl⟩

/-! ## Check, then act -/

/-- What falls between the existence checks and the calls that rely on them,
for every expired tensor `t` whose lock file and cache file exist and whose
lock no reader holds.  Another process removes the cache file after the
collector saw it, and `os.remove` raises `FileNotFoundError`.  Another process
removes the lock file after the collector saw it, and `open(lock_file, "w")`
creates a new one, on a new inode.  A reader that locked the old inode still
holds its lock when the collector, locking the new one, removes the cache
file. -/
theorem deleteTensors_races (lockFiles : TensorId → Option Nat) (memoryFiles : List TensorId)
    (readers : List Nat) (fresh : Nat) (t : TensorId) (rest : List TensorId) (inode : Nat)
    (named : lockFiles t = some inode) (cached : t ∈ memoryFiles) (unread : inode ∉ readers)
    (freshFree : fresh ∉ readers) (older : inode < fresh) :
    (run (start lockFiles memoryFiles readers fresh (t :: rest))
      [.collector, .collector, .removeMemory t, .collector, .collector, .collector]).map World.pc =
        some .raised ∧
    (run (start lockFiles memoryFiles readers fresh (t :: rest))
      [.collector, .removeLock t, .collector, .collector]).map (fun w => w.lockFiles t) =
        some (some fresh) ∧
    ∃ w, run (start lockFiles memoryFiles readers fresh (t :: rest))
      [.collector, .readerLock t, .removeLock t, .collector, .collector, .collector, .collector] =
        some w ∧ inode ∈ w.readers ∧ t ∉ w.memoryFiles := by
  refine ⟨?_, ?_, ?_⟩ <;>
    simp [run, step, collectorStep, start, World.holdsLockOf, World.exclusive, World.createLock,
      named, cached, unread, freshFree, Nat.ne_of_gt older]

theorem published_races :
    (run published [.collector, .collector, .removeMemory "a", .collector, .collector,
      .collector]).map World.pc = some .raised ∧
    (run published [.collector, .removeLock "a", .collector, .collector]).map
      (fun w => w.lockFiles "a") = some (some 1) ∧
    ∃ w, run published [.collector, .readerLock "a", .removeLock "a", .collector, .collector,
      .collector, .collector] = some w ∧ 0 ∈ w.readers ∧ "a" ∉ w.memoryFiles :=
  deleteTensors_races _ ["a"] [] 1 "a" [] 0 rfl (by decide) (by decide) (by decide) (by decide)

end Race

end Collector
end Tetris
