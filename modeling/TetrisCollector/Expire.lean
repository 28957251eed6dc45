import TetrisCollector.Basic

namespace Tetris
namespace Collector

/-!
# `get_expired_tensor`

The function walks the stale set once.  A tensor the registry already tracks
is expired when its recorded reading plus the grace period is not later than
the clock; a tensor it does not track is recorded at the clock and is not
looked at again in this call.  The registry is mutated in place while the
set is walked, so the loop is modelled as a fold that threads both the
expired set and the registry.

The code reads the clock at each use.  A call is modelled with one reading
`now`, the granularity at which the collector's cycles are compared; the last
section runs the loop with a reading per pass and shows that its decisions
lie between those of the one-reading model at the call's first and last
readings.

The main result describes a whole call without the loop: the expired tensors are the tracked stale tensors whose grace period has
run out, and the registry gains exactly the untracked stale tensors, all at
`now`.  It holds for every iteration order, and for lists with repeats,
because an entry recorded at `now` is never overdue at `now`.
-/

/-- A tensor whose recorded reading plus the grace period is not later than
`now`. -/
def Overdue (now : Timestamp) (keepAliveDict : KeepAliveDict) (t : TensorId) : Prop :=
  ∃ since, keepAliveDict.lookup t = some since ∧ since + keepAliveDelta ≤ now

/-- One pass of the loop body of `get_expired_tensor` on tensor `t`. -/
def expireStep (now : Timestamp) (state : List TensorId × KeepAliveDict) (t : TensorId) :
    List TensorId × KeepAliveDict :=
  match state.2.lookup t with
  | some since =>
      if since + keepAliveDelta ≤ now then (setAdd state.1 t, state.2) else state
  | none => (state.1, state.2.insert t now)

/-- `get_expired_tensor(delete_tensor_set, keep_alive_dict)` with the clock
reading `now`: the expired set, and the registry as the call leaves it. -/
def getExpiredTensor (deleteTensorSet : List TensorId) (keepAliveDict : KeepAliveDict)
    (now : Timestamp) : List TensorId × KeepAliveDict :=
  deleteTensorSet.foldl (expireStep now) ([], keepAliveDict)

/-! ## One pass -/

section Step

variable {now : Timestamp} {state : List TensorId × KeepAliveDict} {t u : TensorId}

theorem expireStep_lookup :
    (expireStep now state t).2.lookup u =
      if u = t ∧ state.2.lookup t = none then some now else state.2.lookup u := by
  unfold expireStep
  split
  · rename_i since found
    simp only [found, reduceCtorEq, and_false, if_false]
    split <;> rfl
  · rename_i missing
    by_cases same : u = t
    · subst same; simp [missing, AList.lookup_insert]
    · simp [same, AList.lookup_insert_ne]

/-- An entry the pass records is never overdue at the same reading, so a pass
changes no tensor's overdue status. -/
theorem overdue_expireStep :
    Overdue now (expireStep now state t).2 u ↔ Overdue now state.2 u := by
  rw [Overdue, Overdue, expireStep_lookup]
  by_cases recorded : u = t ∧ state.2.lookup t = none
  · rw [if_pos recorded, recorded.1, recorded.2]
    constructor
    · rintro ⟨since, recordedNow, overdue⟩
      cases recordedNow
      exact absurd overdue (Nat.not_le.mpr (Nat.lt_add_of_pos_right keepAliveDelta_pos))
    · rintro ⟨_, found, _⟩
      cases found
  · rw [if_neg recorded]

theorem mem_expireStep :
    u ∈ (expireStep now state t).1 ↔ u ∈ state.1 ∨ (u = t ∧ Overdue now state.2 t) := by
  unfold expireStep Overdue
  split
  · rename_i since found
    split <;> simp_all
  · rename_i missing
    simp [missing]

end Step

/-! ## The whole loop -/

theorem lookup_foldl_expireStep (now : Timestamp) (stale : List TensorId)
    (state : List TensorId × KeepAliveDict) (u : TensorId) :
    (stale.foldl (expireStep now) state).2.lookup u =
      if u ∈ stale ∧ state.2.lookup u = none then some now else state.2.lookup u := by
  induction stale generalizing state with
  | nil => simp
  | cons t stale ih =>
      rw [List.foldl_cons, ih, expireStep_lookup]
      by_cases same : u = t
      · subst same; by_cases missing : state.2.lookup u = none <;> simp [missing]
      · simp [same]

theorem mem_foldl_expireStep (now : Timestamp) (stale : List TensorId)
    (state : List TensorId × KeepAliveDict) (u : TensorId) :
    u ∈ (stale.foldl (expireStep now) state).1 ↔
      u ∈ state.1 ∨ (u ∈ stale ∧ Overdue now state.2 u) := by
  induction stale generalizing state with
  | nil => simp
  | cons t stale ih =>
      rw [List.foldl_cons, ih, overdue_expireStep, mem_expireStep]
      by_cases same : u = t
      · subst same; simp only [List.mem_cons, true_or, true_and]; tauto
      · simp [same]

theorem mem_getExpiredTensor {stale : List TensorId} {keepAliveDict : KeepAliveDict}
    {now : Timestamp} {t : TensorId} :
    t ∈ (getExpiredTensor stale keepAliveDict now).1 ↔ t ∈ stale ∧ Overdue now keepAliveDict t := by
  simpa using mem_foldl_expireStep now stale ([], keepAliveDict) t

theorem lookup_getExpiredTensor {stale : List TensorId} {keepAliveDict : KeepAliveDict}
    {now : Timestamp} {t : TensorId} :
    (getExpiredTensor stale keepAliveDict now).2.lookup t =
      if t ∈ stale ∧ keepAliveDict.lookup t = none then some now else keepAliveDict.lookup t :=
  lookup_foldl_expireStep now stale ([], keepAliveDict) t

/-- What one call of `get_expired_tensor` returns and leaves behind, for every
stale set, registry and reading: the expired set is exactly the stale tensors
already tracked whose grace period has run out; the registry gains each
untracked stale tensor at `now` and keeps every other entry; and a tensor the
call records is not returned by it. -/
theorem getExpiredTensor_spec (stale : List TensorId) (keepAliveDict : KeepAliveDict)
    (now : Timestamp) :
    (∀ t, t ∈ (getExpiredTensor stale keepAliveDict now).1 ↔
      t ∈ stale ∧ ∃ since, keepAliveDict.lookup t = some since ∧ since + keepAliveDelta ≤ now) ∧
    (∀ t, (getExpiredTensor stale keepAliveDict now).2.lookup t =
      if t ∈ stale ∧ t ∉ keepAliveDict then some now else keepAliveDict.lookup t) ∧
    (∀ t, t ∈ stale → t ∉ keepAliveDict → t ∉ (getExpiredTensor stale keepAliveDict now).1) := by
  refine ⟨fun t => ?_, fun t => ?_, fun t _ untracked => ?_⟩
  · rw [mem_getExpiredTensor, Overdue]
  · simp only [lookup_getExpiredTensor, AList.lookup_eq_none]
  · simp [mem_getExpiredTensor, Overdue, AList.lookup_eq_none.mpr untracked]

/-! ## A reading at every pass

The code calls `datetime.datetime.now()` once in each pass, in whichever
branch the pass takes, so the clock may move while the set is walked.
`expireLoop` runs the loop so, pass `i` reading `clock i`.  Its decisions lie
between those of the one-reading model at the earliest and at the latest
reading of the call, provided the set has no repeats, as a Python set has
none: a tensor recorded by one pass and met again by a later one could
otherwise expire within the call.
-/

/-- The loop of `get_expired_tensor` with a fresh reading of the clock at
each pass: pass `i` reads `clock i`. -/
def expireLoop : (Nat → Timestamp) → List TensorId → List TensorId × KeepAliveDict →
    List TensorId × KeepAliveDict
  | _, [], state => state
  | clock, t :: rest, state => expireLoop (fun i => clock (i + 1)) rest (expireStep (clock 0) state t)

/-- `get_expired_tensor(delete_tensor_set, keep_alive_dict)` reading the
clock at each pass. -/
def getExpiredTensorClocked (clock : Nat → Timestamp) (deleteTensorSet : List TensorId)
    (keepAliveDict : KeepAliveDict) : List TensorId × KeepAliveDict :=
  expireLoop clock deleteTensorSet ([], keepAliveDict)

theorem Overdue.mono {now now' : Timestamp} {keepAliveDict : KeepAliveDict} {t : TensorId}
    (overdue : Overdue now keepAliveDict t) (later : now ≤ now') : Overdue now' keepAliveDict t :=
  let ⟨since, found, due⟩ := overdue
  ⟨since, found, due.trans later⟩

section Clocked

variable {clock : Nat → Timestamp} {stale : List TensorId} {state : List TensorId × KeepAliveDict}
  {start stop : Timestamp} {u : TensorId}

theorem expireStep_lookup_of_ne {now : Timestamp} {t : TensorId} (other : u ≠ t) :
    (expireStep now state t).2.lookup u = state.2.lookup u := by
  rw [expireStep_lookup, if_neg fun same => other same.1]

/-- An entry the loop finds, or that no pass looks at, stays as it is. -/
theorem lookup_expireLoop_of_tracked (tracked : u ∈ stale → state.2.lookup u ≠ none) :
    (expireLoop clock stale state).2.lookup u = state.2.lookup u := by
  induction stale generalizing clock state with
  | nil => rfl
  | cons t rest ih =>
      have kept : (expireStep (clock 0) state t).2.lookup u = state.2.lookup u := by
        rw [expireStep_lookup, if_neg]
        rintro ⟨rfl, missing⟩
        exact tracked (List.mem_cons_self u rest) missing
      rw [expireLoop, ih fun listed => kept ▸ tracked (List.mem_cons_of_mem t listed), kept]

/-- A stale tensor the registry did not hold is recorded at one of the
call's readings. -/
theorem lookup_expireLoop_of_untracked
    (bounded : ∀ i < stale.length, start ≤ clock i ∧ clock i ≤ stop) (listed : u ∈ stale)
    (missing : state.2.lookup u = none) :
    ∃ since, (expireLoop clock stale state).2.lookup u = some since ∧
      start ≤ since ∧ since ≤ stop := by
  induction stale generalizing clock state with
  | nil => nomatch listed
  | cons t rest ih =>
      have later : ∀ i < rest.length, start ≤ clock (i + 1) ∧ clock (i + 1) ≤ stop :=
        fun i lt => bounded (i + 1) (Nat.succ_lt_succ lt)
      rw [expireLoop]
      by_cases same : u = t
      · subst same
        have recorded : (expireStep (clock 0) state u).2.lookup u = some (clock 0) := by
          rw [expireStep_lookup, if_pos ⟨rfl, missing⟩]
        refine ⟨clock 0, ?_, bounded 0 (Nat.succ_pos _)⟩
        rw [lookup_expireLoop_of_tracked fun _ => recorded ▸ Option.some_ne_none _, recorded]
      · exact ih later ((List.mem_cons.mp listed).resolve_left same)
          (by rw [expireStep_lookup_of_ne same, missing])

/-- A tensor overdue at the earliest reading is returned. -/
theorem mem_expireLoop_of_overdue (early : ∀ i < stale.length, start ≤ clock i)
    (overdue : u ∈ state.1 ∨ (u ∈ stale ∧ Overdue start state.2 u)) :
    u ∈ (expireLoop clock stale state).1 := by
  induction stale generalizing clock state with
  | nil => simpa using overdue
  | cons t rest ih =>
      refine ih (fun i lt => early (i + 1) (Nat.succ_lt_succ lt)) ?_
      rw [mem_expireStep]
      rcases overdue with kept | ⟨listed, overdue⟩
      · exact .inl (.inl kept)
      by_cases same : u = t
      · exact .inl (.inr ⟨same, same ▸ overdue.mono (early 0 (Nat.succ_pos _))⟩)
      · refine .inr ⟨(List.mem_cons.mp listed).resolve_left same, ?_⟩
        rwa [Overdue, expireStep_lookup_of_ne same]

/-- In a walk without repeats, a returned tensor is overdue at the latest
reading. -/
theorem overdue_of_mem_expireLoop (late : ∀ i < stale.length, clock i ≤ stop) (distinct : stale.Nodup)
    (expired : u ∈ (expireLoop clock stale state).1) :
    u ∈ state.1 ∨ (u ∈ stale ∧ Overdue stop state.2 u) := by
  induction stale generalizing clock state with
  | nil => exact .inl expired
  | cons t rest ih =>
      obtain ⟨fresh, distinct⟩ := List.nodup_cons.mp distinct
      rcases ih (fun i lt => late (i + 1) (Nat.succ_lt_succ lt)) distinct expired with
        stepped | ⟨listed, overdue⟩
      · rcases mem_expireStep.mp stepped with kept | ⟨rfl, overdue⟩
        · exact .inl kept
        · exact .inr ⟨List.mem_cons_self u rest, overdue.mono (late 0 (Nat.succ_pos _))⟩
      · have other : u ≠ t := fun same => fresh (same ▸ listed)
        refine .inr ⟨List.mem_cons_of_mem t listed, ?_⟩
        rwa [Overdue, ← expireStep_lookup_of_ne other]

end Clocked

/-- `get_expired_tensor` as the code runs it, reading the clock at each pass,
for every stale set without repeats, every registry, and readings that all
lie between `start` and `stop`: it returns every tensor that the one-reading
model returns at `start`, and only tensors that model returns at `stop`; the
registry keeps every entry it had, and each untracked stale tensor is
recorded at a reading between `start` and `stop`. -/
theorem getExpiredTensorClocked_between (clock : Nat → Timestamp) (stale : List TensorId)
    (keepAliveDict : KeepAliveDict) {start stop : Timestamp}
    (bounded : ∀ i < stale.length, start ≤ clock i ∧ clock i ≤ stop) (distinct : stale.Nodup) :
    (∀ t, t ∈ (getExpiredTensor stale keepAliveDict start).1 →
      t ∈ (getExpiredTensorClocked clock stale keepAliveDict).1) ∧
    (∀ t, t ∈ (getExpiredTensorClocked clock stale keepAliveDict).1 →
      t ∈ (getExpiredTensor stale keepAliveDict stop).1) ∧
    (∀ t, (t ∈ stale → t ∈ keepAliveDict) →
      (getExpiredTensorClocked clock stale keepAliveDict).2.lookup t = keepAliveDict.lookup t) ∧
    (∀ t, t ∈ stale → t ∉ keepAliveDict → ∃ since,
      (getExpiredTensorClocked clock stale keepAliveDict).2.lookup t = some since ∧
        start ≤ since ∧ since ≤ stop) :=
  ⟨fun _ returned => mem_expireLoop_of_overdue (fun i lt => (bounded i lt).1)
      (.inr (mem_getExpiredTensor.mp returned)),
    fun t returned => mem_getExpiredTensor.mpr ((overdue_of_mem_expireLoop
      (fun i lt => (bounded i lt).2) distinct returned).resolve_left (List.not_mem_nil t)),
    fun _ tracked => lookup_expireLoop_of_tracked fun listed =>
      AList.lookup_eq_none.not.mpr (not_not.mpr (tracked listed)),
    fun _ listed untracked =>
      lookup_expireLoop_of_untracked bounded listed (AList.lookup_eq_none.mpr untracked)⟩

/-- One pass finds `a`, tracked since `0`, a grace period later; the next,
a microsecond later, records `b`. -/
theorem slowCall_between :
    "a" ∈ (getExpiredTensorClocked (fun i => keepAliveDelta + i) ["a", "b"]
        ((∅ : KeepAliveDict).insert "a" 0)).1 ∧
      ∃ since, (getExpiredTensorClocked (fun i => keepAliveDelta + i) ["a", "b"]
          ((∅ : KeepAliveDict).insert "a" 0)).2.lookup "b" = some since ∧
        keepAliveDelta ≤ since ∧ since ≤ keepAliveDelta + 1 :=
  have between := getExpiredTensorClocked_between (fun i => keepAliveDelta + i) ["a", "b"]
    ((∅ : KeepAliveDict).insert "a" 0)
    (fun i lt => ⟨Nat.le_add_right _ i, Nat.add_le_add_left (Nat.le_of_lt_succ lt) _⟩) (by decide)
  ⟨between.1 "a" (by decide), between.2.2.2 "b" (by decide) (by decide)⟩

end Collector
end Tetris
