import TetrisCollector.Interleaving

namespace Tetris
namespace Collector

/-!
# What the lock discipline guarantees

`Interleaving` shows three things that go wrong between the collector's
checks and the calls that rely on them.  This module shows what holds all
the same, for every starting disk and every interleaving of the collector
with readers and other processes, and what each failure needs.

A reader that has locked a tensor's lock file keeps the tensor's cache file
for as long as it holds the lock and no other process removes the lock file:
the collector would have to lock the same inode first.  `delete_tensors`
raises only when one of its calls fails of itself or after another process
has removed the cache file of an expired tensor, and `open(lock_file, "w")`
creates a lock file only after another process has removed one.  So each of
the three failures of `Interleaving` needs the removal it shows.  And the
collector waits for nothing but readers' locks: once they are released and
while no call fails, it runs to the end of its list.
-/

namespace Race

/-! ## What one action changes -/

theorem step_collectorFails {w w' : World} (stepped : step w .collectorFails = some w') :
    w.canRaise = true ∧ w' = { w with pc := .raised } := by
  simp only [step] at stepped
  split at stepped <;> simp_all

theorem step_readerLock {w w' : World} {t : TensorId} (stepped : step w (.readerLock t) = some w') :
    ∃ inode, w.lockFiles t = some inode ∧ w' = { w with readers := inode :: w.readers } := by
  simp only [step] at stepped
  split at stepped
  · split at stepped <;> simp_all
  · cases stepped

theorem step_readerUnlock {w w' : World} {inode : Nat}
    (stepped : step w (.readerUnlock inode) = some w') :
    w' = { w with readers := w.readers.erase inode } := by
  simp only [step] at stepped
  split at stepped <;> simp_all

theorem step_removeMemory {w w' : World} {t : TensorId} (stepped : step w (.removeMemory t) = some w') :
    w' = { w with memoryFiles := w.memoryFiles.filter (fun u => u ≠ t) } := by
  simp only [step] at stepped
  split at stepped <;> simp_all

theorem step_removeLock {w w' : World} {t : TensorId} (stepped : step w (.removeLock t) = some w') :
    w' = { w with lockFiles := Function.update w.lockFiles t none } := by
  simp only [step] at stepped
  split at stepped <;> simp_all

/-- A call of the collector leaves the readers' locks alone, only drops
tensors from its list, and never changes a lock-file path that names an
inode. -/
theorem collectorStep_frame {w w' : World} (stepped : collectorStep w = some w') :
    w'.readers = w.readers ∧ (∀ u ∈ w'.todo, u ∈ w.todo) ∧
      ∀ t inode, w.lockFiles t = some inode → w'.lockFiles t = some inode := by
  obtain ⟨t, rest, todo, cases⟩ := collectorStep_cases stepped
  rcases cases with rfl | ⟨-, -, rfl⟩ | ⟨-, -, rfl⟩ | ⟨-, -, -, rfl⟩ | ⟨-, absent, rfl⟩ | ⟨-, -, -, rfl⟩ |
      ⟨-, -, -, rfl⟩ | ⟨-, -, -, rfl⟩
  · exact ⟨rfl, fun u member => todo ▸ List.mem_cons_of_mem t member, fun _ _ => id⟩
  pick_goal 4
  · refine ⟨rfl, fun _ => id, fun u inode named => ?_⟩
    have other : u ≠ t := by
      rintro rfl
      rw [absent] at named
      cases named
    exact (Function.update_noteq other _ _).trans named
  all_goals exact ⟨rfl, fun _ => id, fun _ _ => id⟩

/-! ## The collector raises only after a concurrent removal -/

/-- The collector has seen the current tensor's cache file and not yet
removed it: its calls from `open(lock_file, "w")` to `os.remove`. -/
def World.checkedCache (w : World) : Bool :=
  match w.pc with
  | .openLock | .lockExclusive _ | .remove _ => true
  | _ => false

/-- The collector has not raised; between its check of the current tensor's
cache file and its remove, that file is there; and the tensors it has still
to handle are among `expired`. -/
structure Armed (expired : List TensorId) (w : World) : Prop where
  running : w.pc ≠ .raised
  cached : ∀ t, w.todo.head? = some t → w.checkedCache = true → t ∈ w.memoryFiles
  pending : ∀ u ∈ w.todo, u ∈ expired

theorem armed_start (lockFiles : TensorId → Option Nat) (memoryFiles : List TensorId)
    (readers : List Nat) (fresh : Nat) (expired : List TensorId) :
    Armed expired (start lockFiles memoryFiles readers fresh expired) :=
  ⟨nofun, fun _ _ checked => (nomatch checked), fun _ => id⟩

section

variable {expired : List TensorId} {w w' : World}

theorem Armed.of_collectorStep (armed : Armed expired w) (stepped : collectorStep w = some w') :
    Armed expired w' := by
  obtain ⟨t, rest, todo, cases⟩ := collectorStep_cases stepped
  have head : w.todo.head? = some t := by rw [todo]; rfl
  have current : ∀ u, w.todo.head? = some u → u = t := fun u found =>
    Option.some.inj (found.symm.trans head)
  rcases cases with rfl | ⟨-, -, rfl⟩ | ⟨-, cached, rfl⟩ | ⟨pc, -, -, rfl⟩ | ⟨pc, -, rfl⟩ |
      ⟨inode, pc, -, rfl⟩ | ⟨-, -, -, rfl⟩ | ⟨inode, pc, gone, rfl⟩
  · exact ⟨nofun, fun _ _ checked => (nomatch checked),
      fun u member => armed.pending u (todo ▸ List.mem_cons_of_mem t member)⟩
  · exact ⟨nofun, fun _ _ checked => (nomatch checked), armed.pending⟩
  · exact ⟨nofun, fun u found _ => current u found ▸ cached, armed.pending⟩
  · exact ⟨nofun, fun u found _ => armed.cached u found (by simp [World.checkedCache, pc]),
      armed.pending⟩
  · exact ⟨nofun, fun u found _ => armed.cached u found (by simp [World.checkedCache, pc]),
      armed.pending⟩
  · exact ⟨nofun, fun u found _ => armed.cached u found (by simp [World.checkedCache, pc]),
      armed.pending⟩
  · exact ⟨nofun, fun _ _ checked => (nomatch checked), armed.pending⟩
  · exact absurd (armed.cached t head (by simp [World.checkedCache, pc])) gone

/-- Every action but a failing call and the removal of an expired tensor's
cache file keeps the collector armed. -/
theorem Armed.of_step {a : Action} (armed : Armed expired w) (stepped : step w a = some w')
    (succeeds : a ≠ .collectorFails) (allowed : ∀ t ∈ expired, a ≠ .removeMemory t) :
    Armed expired w' := by
  cases a with
  | collector => exact armed.of_collectorStep stepped
  | collectorFails => exact absurd rfl succeeds
  | readerLock t =>
      obtain ⟨_, -, rfl⟩ := step_readerLock stepped
      exact ⟨armed.running, armed.cached, armed.pending⟩
  | readerUnlock inode =>
      rw [step_readerUnlock stepped]
      exact ⟨armed.running, armed.cached, armed.pending⟩
  | removeLock t =>
      rw [step_removeLock stepped]
      exact ⟨armed.running, armed.cached, armed.pending⟩
  | removeMemory t =>
      rw [step_removeMemory stepped]
      refine ⟨armed.running, fun u head checked => ?_, armed.pending⟩
      have other : u ≠ t := fun same =>
        allowed t (same ▸ armed.pending u (List.mem_of_mem_head? head)) rfl
      exact List.mem_filter.mpr ⟨armed.cached u head checked, by simpa using other⟩

theorem Armed.of_run {actions : List Action} (armed : Armed expired w) (ran : run w actions = some w')
    (succeeds : Action.collectorFails ∉ actions)
    (allowed : ∀ t ∈ expired, Action.removeMemory t ∉ actions) : Armed expired w' := by
  induction actions generalizing w with
  | nil => cases ran; exact armed
  | cons a actions ih =>
      obtain ⟨next, stepped, rest⟩ := Option.bind_eq_some.mp ran
      obtain ⟨first, later⟩ := List.ne_and_not_mem_of_not_mem_cons succeeds
      refine ih (armed.of_step stepped (Ne.symm first) fun t listed same => ?_) rest later
        fun t listed member => allowed t listed (List.mem_cons_of_mem a member)
      exact allowed t listed (same ▸ List.mem_cons_self a actions)

end

/-- In every interleaving in which no call of the collector fails of itself
and no other process removes the cache file of an expired tensor,
`delete_tensors` never raises, whatever readers do and whatever other files
other processes remove: `os.remove` always finds the file its check saw. -/
theorem never_raises_without_cache_removal {lockFiles : TensorId → Option Nat}
    {memoryFiles : List TensorId} {readers : List Nat} {fresh : Nat} {expired : List TensorId}
    {actions : List Action} {w : World} (noFailure : Action.collectorFails ∉ actions)
    (noRemoval : ∀ t ∈ expired, Action.removeMemory t ∉ actions)
    (reached : run (start lockFiles memoryFiles readers fresh expired) actions = some w) :
    w.pc ≠ .raised :=
  ((armed_start lockFiles memoryFiles readers fresh expired).of_run reached noFailure
    noRemoval).running

/-- A reader locks `a`'s lock file and another process removes it while the
collector waits for the lock: the collector has not raised. -/
theorem published_never_raises :
    ∃ w, run published [.readerLock "a", .collector, .collector, .collector, .removeLock "a"] =
      some w ∧ w.pc ≠ .raised :=
  ⟨_, rfl, @never_raises_without_cache_removal (fun t => if t = "a" then some 0 else none) ["a"] [] 1
    ["a"] [.readerLock "a", .collector, .collector, .collector, .removeLock "a"] _ (by decide) (by decide)
    rfl⟩

/-! ## A lock file is created only after a concurrent removal -/

/-- The lock files are `lockFiles`; and from its check of the current
tensor's lock file to its `open`, the collector has seen that file. -/
structure LockSeen (lockFiles : TensorId → Option Nat) (w : World) : Prop where
  unchanged : w.lockFiles = lockFiles
  seen : ∀ t, w.todo.head? = some t → w.pc = .checkMemory ∨ w.pc = .openLock → (w.lockFiles t).isSome

section

variable {lockFiles : TensorId → Option Nat} {w w' : World}

theorem LockSeen.of_elsewhere (unchanged : w.lockFiles = lockFiles) (notMemory : w.pc ≠ .checkMemory)
    (notOpen : w.pc ≠ .openLock) : LockSeen lockFiles w :=
  ⟨unchanged, fun _ _ pc => (pc.elim notMemory notOpen).elim⟩

theorem LockSeen.of_collectorStep (seen : LockSeen lockFiles w) (stepped : collectorStep w = some w') :
    LockSeen lockFiles w' := by
  obtain ⟨t, rest, todo, cases⟩ := collectorStep_cases stepped
  have head : w.todo.head? = some t := by rw [todo]; rfl
  have current : ∀ u, w.todo.head? = some u → u = t := fun u found =>
    Option.some.inj (found.symm.trans head)
  rcases cases with rfl | ⟨-, named, rfl⟩ | ⟨pc, -, rfl⟩ | ⟨-, -, -, rfl⟩ | ⟨pc, absent, rfl⟩ |
      ⟨-, -, -, rfl⟩ | ⟨-, -, -, rfl⟩ | ⟨-, -, -, rfl⟩
  · exact .of_elsewhere seen.unchanged nofun nofun
  · exact ⟨seen.unchanged, fun u found _ => current u found ▸ named⟩
  · exact ⟨seen.unchanged, fun u found _ => seen.seen u found (.inl pc)⟩
  · exact .of_elsewhere seen.unchanged nofun nofun
  · have named := seen.seen t head (.inr pc)
    rw [absent] at named
    cases named
  all_goals exact .of_elsewhere seen.unchanged nofun nofun

/-- Every action but the removal of a lock file keeps the lock files as they
were and the collector's view of them right. -/
theorem LockSeen.of_step {a : Action} (seen : LockSeen lockFiles w) (stepped : step w a = some w')
    (allowed : ∀ t, a ≠ .removeLock t) : LockSeen lockFiles w' := by
  cases a with
  | collector => exact seen.of_collectorStep stepped
  | collectorFails =>
      obtain ⟨-, rfl⟩ := step_collectorFails stepped
      exact .of_elsewhere seen.unchanged nofun nofun
  | readerLock t =>
      obtain ⟨_, -, rfl⟩ := step_readerLock stepped
      exact ⟨seen.unchanged, seen.seen⟩
  | readerUnlock inode =>
      rw [step_readerUnlock stepped]
      exact ⟨seen.unchanged, seen.seen⟩
  | removeMemory t =>
      rw [step_removeMemory stepped]
      exact ⟨seen.unchanged, seen.seen⟩
  | removeLock t => exact absurd rfl (allowed t)

theorem LockSeen.of_run {actions : List Action} (seen : LockSeen lockFiles w)
    (ran : run w actions = some w') (allowed : ∀ t, Action.removeLock t ∉ actions) :
    LockSeen lockFiles w' := by
  induction actions generalizing w with
  | nil => cases ran; exact seen
  | cons a actions ih =>
      obtain ⟨next, stepped, rest⟩ := Option.bind_eq_some.mp ran
      refine ih (seen.of_step stepped fun t same => ?_) rest
        fun t member => allowed t (List.mem_cons_of_mem a member)
      exact allowed t (same ▸ List.mem_cons_self a actions)

end

/-- In every interleaving in which no other process removes a lock file, the
lock files stay as they were: `open(lock_file, "w")` never creates one, and
the lock the collector takes is on the file its check saw. -/
theorem lockFiles_unchanged_without_lock_removal {lockFiles : TensorId → Option Nat}
    {memoryFiles : List TensorId} {readers : List Nat} {fresh : Nat} {expired : List TensorId}
    {actions : List Action} {w : World} (noRemoval : ∀ t, Action.removeLock t ∉ actions)
    (reached : run (start lockFiles memoryFiles readers fresh expired) actions = some w) :
    w.lockFiles = lockFiles :=
  ((LockSeen.of_elsewhere rfl nofun nofun : LockSeen lockFiles
    (start lockFiles memoryFiles readers fresh expired)).of_run reached noRemoval).unchanged

/-- A reader locks `a`'s lock file while the collector works through `a`:
the lock files are as they were when it has finished. -/
theorem published_lockFiles_unchanged :
    ∃ w, run published [.collector, .readerLock "a", .collector, .collector, .readerUnlock 0,
      .collector, .collector, .collector] = some w ∧
      w.todo = [] ∧ w.lockFiles = fun t => if t = "a" then some 0 else none :=
  ⟨_, rfl, rfl, @lockFiles_unchanged_without_lock_removal (fun t => if t = "a" then some 0 else none)
    ["a"] [] 1 ["a"] [.collector, .readerLock "a", .collector, .collector, .readerUnlock 0,
      .collector, .collector, .collector] _ (fun _ member => by simp at member) rfl⟩

/-! ## A reader's lock keeps the cache file -/

section

variable {t : TensorId} {inode : Nat} {w w' : World}

/-- A reader's lock on the inode of `t`'s lock file outlives every action but
the removal of that lock file and the release of that lock. -/
theorem holding_of_step {a : Action} (holding : inode ∈ w.readers ∧ w.lockFiles t = some inode)
    (stepped : step w a = some w') (keeps : a ≠ .removeLock t ∧ a ≠ .readerUnlock inode) :
    inode ∈ w'.readers ∧ w'.lockFiles t = some inode := by
  cases a with
  | collector =>
      obtain ⟨readers, -, named⟩ := collectorStep_frame stepped
      exact ⟨readers ▸ holding.1, named t inode holding.2⟩
  | collectorFails =>
      obtain ⟨-, rfl⟩ := step_collectorFails stepped
      exact holding
  | readerLock u =>
      obtain ⟨i, -, rfl⟩ := step_readerLock stepped
      exact ⟨List.mem_cons_of_mem i holding.1, holding.2⟩
  | readerUnlock i =>
      rw [step_readerUnlock stepped]
      have other : inode ≠ i := fun same => keeps.2 (by rw [same])
      exact ⟨(List.mem_erase_of_ne other).mpr holding.1, holding.2⟩
  | removeMemory u =>
      rw [step_removeMemory stepped]
      exact holding
  | removeLock u =>
      rw [step_removeLock stepped]
      have other : t ≠ u := fun same => keeps.1 (by rw [same])
      exact ⟨holding.1, (Function.update_noteq other _ _).trans holding.2⟩

theorem holding_of_run {actions : List Action}
    (holding : inode ∈ w.readers ∧ w.lockFiles t = some inode) (ran : run w actions = some w')
    (keeps : ∀ a ∈ actions, a ≠ .removeLock t ∧ a ≠ .readerUnlock inode) :
    inode ∈ w'.readers ∧ w'.lockFiles t = some inode := by
  induction actions generalizing w with
  | nil => cases ran; exact holding
  | cons a actions ih =>
      obtain ⟨next, stepped, rest⟩ := Option.bind_eq_some.mp ran
      exact ih (holding_of_step holding stepped (keeps a (List.mem_cons_self a actions))) rest
        fun b member => keeps b (List.mem_cons_of_mem a member)

end

/-- A reader that has locked `t`'s lock file keeps `t`'s cache file against
the collector for as long as it holds that lock and no other process removes
the lock file: whatever readers, other processes and the collector do in
between, no call of the collector removes the cache file. -/
theorem reader_lock_keeps_cache {lockFiles : TensorId → Option Nat} {memoryFiles : List TensorId}
    {readers : List Nat} {fresh : Nat} {expired : List TensorId} {pre mid : List Action}
    {w₁ w w' : World} {t : TensorId} {inode : Nat}
    (before : run (start lockFiles memoryFiles readers fresh expired) pre = some w₁)
    (named : w₁.lockFiles t = some inode) (locked : run w₁ (.readerLock t :: mid) = some w)
    (kept : ∀ a ∈ mid, a ≠ .removeLock t ∧ a ≠ .readerUnlock inode)
    (removes : collectorStep w = some w') (cached : t ∈ w.memoryFiles) : t ∈ w'.memoryFiles := by
  have safe : Safe w :=
    run_safe (run_safe (@safe_of_opened_none (start lockFiles memoryFiles readers fresh expired) rfl)
      before) locked
  obtain ⟨w₂, lockStep, rest⟩ := Option.bind_eq_some.mp locked
  obtain ⟨i, lockedInode, rfl⟩ := step_readerLock lockStep
  rw [named, Option.some.injEq] at lockedInode
  subst lockedInode
  have locks : inode ∈ ({ w₁ with readers := inode :: w₁.readers } : World).readers ∧
      w₁.lockFiles t = some inode := ⟨List.mem_cons_self inode _, named⟩
  have holding := holding_of_run locks rest kept
  by_contra gone
  exact safe.unread_of_removes removes cached gone holding.2 holding.1

theorem published_keeps_cache_while_locked :
    ∃ w w', run published [.readerLock "a", .collector] = some w ∧ collectorStep w = some w' ∧
      "a" ∈ w'.memoryFiles :=
  ⟨_, _, rfl, rfl, @reader_lock_keeps_cache (fun t => if t = "a" then some 0 else none) ["a"] [] 1
    ["a"] [] [.collector] published _ _ "a" 0 rfl rfl rfl (by decide) rfl (by decide)⟩

/-! ## The collector waits only for readers -/

/-- How many calls the current tensor still needs. -/
def Pc.callsLeft : Pc → Nat
  | .checkLock => 6
  | .checkMemory => 5
  | .openLock => 4
  | .lockExclusive _ => 3
  | .remove _ => 2
  | .unlock _ => 1
  | .raised => 0

/-- A measure of the collector's remaining work, which each of its calls
lowers. -/
def World.callsLeft (w : World) : Nat :=
  6 * w.todo.length + w.pc.callsLeft

/-- With no reader holding a lock, the collector can always make its next
call until it is done or has raised, and each call lowers its remaining
work. -/
theorem collectorStep_alone {w : World} (idle : w.readers = []) (busy : w.todo ≠ [])
    (running : w.pc ≠ .raised) :
    ∃ w', collectorStep w = some w' ∧ w'.readers = [] ∧
      (w'.pc = .raised ∨ w'.callsLeft < w.callsLeft) := by
  obtain ⟨lockFiles, memoryFiles, readers, fresh, todo, pc⟩ := w
  cases todo with
  | nil => exact absurd rfl busy
  | cons t rest =>
      subst idle
      cases pc <;> simp [collectorStep, World.callsLeft, Pc.callsLeft] at running ⊢
      all_goals first | omega | (split <;> simp [World.createLock] <;> omega)

/-- With no reader holding a lock, the collector alone runs to the end of its
list or to the raise of `os.remove`. -/
theorem collector_alone_finishes (w : World) (idle : w.readers = []) :
    ∃ n w', run w (List.replicate n .collector) = some w' ∧ (w'.todo = [] ∨ w'.pc = .raised) := by
  generalize remaining : w.callsLeft = m
  induction m using Nat.strong_induction_on generalizing w with
  | _ m ih =>
      by_cases finished : w.todo = [] ∨ w.pc = .raised
      · exact ⟨0, w, rfl, finished⟩
      obtain ⟨busy, running⟩ := not_or.mp finished
      obtain ⟨next, stepped, idle', progress⟩ := collectorStep_alone idle busy running
      have first : ∀ n, run w (List.replicate (n + 1) .collector) =
          run next (List.replicate n .collector) := fun n => by
        simp only [List.replicate_succ, run, step, stepped, Option.some_bind]
      rcases progress with raised | smaller
      · exact ⟨1, next, first 0, .inr raised⟩
      · obtain ⟨n, w', ran, done⟩ := ih _ (remaining ▸ smaller) next idle' rfl
        exact ⟨n + 1, w', (first n).trans ran, done⟩

/-- Readers release their locks, one after the other. -/
theorem run_release (w : World) :
    run w (w.readers.map .readerUnlock) = some { w with readers := [] } := by
  obtain ⟨lockFiles, memoryFiles, readers, fresh, todo, pc⟩ := w
  induction readers with
  | nil => rfl
  | cons inode readers ih =>
      simp only [List.map_cons, run, step, List.mem_cons_self, if_true, List.erase_cons_head,
        Option.some_bind]
      exact ih

/-- From every point of every interleaving in which no call of the collector
has failed of itself and no other process has removed the cache file of an
expired tensor, once the readers release their locks the collector's own
calls, none of them failing, take `delete_tensors` to the end of its list. -/
theorem finishes_once_readers_release {lockFiles : TensorId → Option Nat}
    {memoryFiles : List TensorId} {readers : List Nat} {fresh : Nat} {expired : List TensorId}
    {actions : List Action} {w : World} (noFailure : Action.collectorFails ∉ actions)
    (noRemoval : ∀ t ∈ expired, Action.removeMemory t ∉ actions)
    (reached : run (start lockFiles memoryFiles readers fresh expired) actions = some w) :
    ∃ n w', run w (w.readers.map .readerUnlock ++ List.replicate n .collector) = some w' ∧
      w'.todo = [] := by
  have armed := (armed_start lockFiles memoryFiles readers fresh expired).of_run reached noFailure
    noRemoval
  obtain ⟨n, w', ran, finished⟩ := collector_alone_finishes { w with readers := [] } rfl
  have ranAll : run w (w.readers.map .readerUnlock ++ List.replicate n .collector) = some w' := by
    rw [run_append, run_release, Option.some_bind, ran]
  have succeeds : Action.collectorFails ∉ w.readers.map .readerUnlock ++ List.replicate n .collector :=
    fun member => by simp at member
  have onlyOwn : ∀ t ∈ expired,
      Action.removeMemory t ∉ w.readers.map .readerUnlock ++ List.replicate n .collector :=
    fun _ _ member => by simp at member
  exact ⟨n, w', ranAll, finished.resolve_right (armed.of_run ranAll succeeds onlyOwn).running⟩

/-- A reader holds `a`'s lock while the collector waits for it; once the
reader lets go, the collector finishes. -/
theorem published_finishes_after_release :
    ∃ w, run published [.readerLock "a", .collector, .collector, .collector] = some w ∧
      collectorStep w = none ∧
      ∃ n w', run w (w.readers.map .readerUnlock ++ List.replicate n .collector) = some w' ∧
        w'.todo = [] :=
  ⟨_, rfl, rfl, @finishes_once_readers_release (fun t => if t = "a" then some 0 else none) ["a"] []
    1 ["a"] [.readerLock "a", .collector, .collector, .collector] _ (by decide) (by decide) rfl⟩

end Race

end Collector
end Tetris
