import Mathlib.Data.List.AList
import Mathlib.Data.List.Infix

namespace Tetris
namespace Collector

/-!
# Names, the clock, and the Python containers of the collector

`collector-kp/collector.py` reclaims the tensors that serving processes publish
in a shared-memory directory.  Everything it manipulates is a name: model
names listed in `MODEL_PATH`, tensor names listed in `MEMORY_PATH` (and in
`LOCK_PATH` for their lock files), and pod names answered by the cluster.
Timestamps are readings of `datetime.datetime.now()`, which has microsecond
resolution; the grace period is the `timedelta` built from `KEEP_ALIVE`.

A Python `set` is given by its elements in iteration order.  CPython fixes
no order, so every result about a set below is stated through membership
and holds for every order.  The one dictionary that outlives a cycle,
`keep_alive_dict`, is an `AList`: a finite map whose keys are distinct by
construction, as the keys of a Python `dict` are.
-/

/-- A tensor's name: an entry of `MEMORY_PATH`, and of `LOCK_PATH` once its
lock file is published. -/
abbrev TensorId := String

/-- A model's name: an entry of `MODEL_PATH`. -/
abbrev ModelId := String

/-- A reading of `datetime.datetime.now()`, in microseconds. -/
abbrev Timestamp := Nat

/-- `KEEP_ALIVE`, the grace period, in minutes. -/
def keepAlive : Nat := 1

/-- `datetime.timedelta(minutes=KEEP_ALIVE)`, in microseconds. -/
def keepAliveDelta : Nat := keepAlive * 60 * 1000000

theorem keepAliveDelta_pos : 0 < keepAliveDelta := by decide

/-! ## Sets -/

section PySet

variable {α : Type} [DecidableEq α]

/-- `s.add(x)`: a new element goes last in the iteration order. -/
def setAdd (s : List α) (x : α) : List α :=
  if x ∈ s then s else s ++ [x]

/-- `set(xs)`, equally the loop that adds the elements of `xs` one by one to
an empty set. -/
def pySet (xs : List α) : List α :=
  xs.foldl setAdd []

/-- `s.union(u)`. -/
def setUnion (s u : List α) : List α :=
  u.foldl setAdd s

/-- `s.difference(u)`. -/
def setDifference (s u : List α) : List α :=
  s.filter (fun x => x ∉ u)

@[simp] theorem mem_setAdd {s : List α} {x y : α} : y ∈ setAdd s x ↔ y ∈ s ∨ y = x := by
  unfold setAdd
  split <;> simp_all [or_iff_left_of_imp]

theorem mem_foldl_setAdd {s : List α} {xs : List α} {y : α} :
    y ∈ xs.foldl setAdd s ↔ y ∈ s ∨ y ∈ xs := by
  induction xs generalizing s with
  | nil => simp
  | cons x xs ih => simp [ih, or_assoc, or_left_comm]

@[simp] theorem mem_pySet {xs : List α} {y : α} : y ∈ pySet xs ↔ y ∈ xs := by
  simp [pySet, mem_foldl_setAdd]

@[simp] theorem mem_setUnion {s u : List α} {y : α} : y ∈ setUnion s u ↔ y ∈ s ∨ y ∈ u :=
  mem_foldl_setAdd

@[simp] theorem mem_setDifference {s u : List α} {y : α} :
    y ∈ setDifference s u ↔ y ∈ s ∧ y ∉ u := by
  simp [setDifference]

end PySet

/-! ## The registry of unused tensors -/

/-- `keep_alive_dict`: for each tracked tensor, the clock reading at which the
collector recorded it. -/
abbrev KeepAliveDict := AList (fun _ : TensorId => Timestamp)

/-! ## Pods and names -/

/-- The two fields of a listed pod that the collector reads:
`pod.metadata.name`, and `pod.spec.node_name`, unset while the pod is not
scheduled. -/
structure Pod where
  name : String
  nodeName : Option String
  deriving DecidableEq, Repr

/-- Python's `model in p` on strings: `model` occurs in `p` as a contiguous
run of characters.  The empty name occurs in every string. -/
def isSubstring (model p : String) : Bool :=
  decide (model.data <:+: p.data)

theorem isSubstring_iff {model p : String} :
    isSubstring model p = true ↔ model.data <:+: p.data := by
  simp [isSubstring]

end Collector
end Tetris
