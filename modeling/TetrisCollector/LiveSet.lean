import TetrisCollector.Basic

namespace Tetris
namespace Collector

/-!
# The catalogue and the live set

Before its loop `node_collector` reads the installed models once
(`get_models`) and, for each, the whitespace-separated tensor names of its
manifest (`get_tensors`).  Each cycle then keeps the pods scheduled on this
node, calls a model running when its name occurs inside one of their names
(`is_running`), and unions the tensors of the running models.

`Catalogue` packages the two startup results with the fact that every model
is a key of `model_tensors`: the lookup `model_tensors[m]` of the loop can
never raise for a model of the catalogue.  Reading a manifest is a startup
step whose failure ends the process before the loop; the manifests enter
here as their text.
-/

/-! ## Startup: `get_tensors` -/

/-- The characters at which Python's `str.split()` splits: those for which
`str.isspace` holds. -/
def isPySpace (c : Char) : Bool :=
  (0x09 ≤ c.toNat && c.toNat ≤ 0x0D) || (0x1C ≤ c.toNat && c.toNat ≤ 0x20) ||
    c.toNat == 0x85 || c.toNat == 0xA0 || c.toNat == 0x1680 ||
    (0x2000 ≤ c.toNat && c.toNat ≤ 0x200A) || c.toNat == 0x2028 || c.toNat == 0x2029 ||
    c.toNat == 0x202F || c.toNat == 0x205F || c.toNat == 0x3000

/-- `text.split()`: the maximal runs of non-space characters, so that no
piece is empty. -/
def pySplit (text : String) : List String :=
  (text.split isPySpace).filter (fun piece => piece ≠ "")

/-- `get_tensors(models)`, given the text of each model's manifest
`MODEL_PATH + model`. -/
def getTensors (manifest : ModelId → String) (models : List ModelId) :
    AList (fun _ : ModelId => List TensorId) :=
  models.foldl (fun modelTensors model => modelTensors.insert model (pySet (pySplit (manifest model)))) ∅

theorem lookup_foldl_insert (manifest : ModelId → String) (models : List ModelId)
    (start : AList (fun _ : ModelId => List TensorId)) (m : ModelId) :
    (models.foldl (fun modelTensors model =>
        modelTensors.insert model (pySet (pySplit (manifest model)))) start).lookup m =
      if m ∈ models then some (pySet (pySplit (manifest m))) else start.lookup m := by
  induction models generalizing start with
  | nil => simp
  | cons model models ih =>
      rw [List.foldl_cons, ih]
      by_cases same : m = model
      · subst same; simp [AList.lookup_insert]
      · simp [same, AList.lookup_insert_ne]

/-- Every model gets its manifest's tensor set, and nothing else is a key. -/
theorem lookup_getTensors (manifest : ModelId → String) (models : List ModelId) (m : ModelId) :
    (getTensors manifest models).lookup m =
      if m ∈ models then some (pySet (pySplit (manifest m))) else none := by
  simp [getTensors, lookup_foldl_insert]

/-- The startup state of `node_collector`: `models` and a `model_tensors`
that has an entry for each of them. -/
structure Catalogue where
  models : List ModelId
  modelTensors : AList (fun _ : ModelId => List TensorId)
  covers : ∀ m ∈ models, m ∈ modelTensors

namespace Catalogue

/-- `models = get_models()` (the listing of `MODEL_PATH`) followed by
`model_tensors = get_tensors(models)`. -/
def load (manifest : ModelId → String) (models : List ModelId) : Catalogue where
  models := models
  modelTensors := getTensors manifest models
  covers := fun m member => by
    rw [← AList.lookup_isSome, lookup_getTensors, if_pos member]
    rfl

/-- `model_tensors[m]`.  The default is never taken for a model of the
catalogue (`lookup_tensorsOf`). -/
def tensorsOf (cat : Catalogue) (m : ModelId) : List TensorId :=
  (cat.modelTensors.lookup m).getD []

theorem lookup_tensorsOf (cat : Catalogue) {m : ModelId} (member : m ∈ cat.models) :
    cat.modelTensors.lookup m = some (cat.tensorsOf m) := by
  obtain ⟨tensors, found⟩ := Option.isSome_iff_exists.mp (AList.lookup_isSome.mpr (cat.covers m member))
  simp [tensorsOf, found]

theorem tensorsOf_load (manifest : ModelId → String) (models : List ModelId) {m : ModelId}
    (member : m ∈ models) : (load manifest models).tensorsOf m = pySet (pySplit (manifest m)) := by
  simp [tensorsOf, load, lookup_getTensors, member]

end Catalogue

/-! ## Each cycle: running pods, running models, running tensors -/

/-- `is_running(model, pods)`: the loop returns at the first pod whose name
contains the model's name. -/
def isRunning (model : ModelId) : List String → Bool
  | [] => false
  | p :: pods => if isSubstring model p then true else isRunning model pods

theorem isRunning_iff {model : ModelId} {pods : List String} :
    isRunning model pods = true ↔ ∃ p ∈ pods, isSubstring model p = true := by
  induction pods with
  | nil => simp [isRunning]
  | cons p pods ih => by_cases found : isSubstring model p = true <;> simp [isRunning, found, ih]

/-- `running_pods`: the names of the listed pods scheduled on `node_name`. -/
def runningPods (nodeName : String) (podList : List Pod) : List String :=
  (podList.filter (fun pod => pod.nodeName = some nodeName)).map Pod.name

/-- A model runs on the node exactly when its name occurs in the name of a
listed pod scheduled on the node. -/
theorem exists_runningPods_isSubstring {nodeName : String} {podList : List Pod} {m : ModelId} :
    (∃ p ∈ runningPods nodeName podList, isSubstring m p = true) ↔
      ∃ pod ∈ podList, pod.nodeName = some nodeName ∧ m.data <:+: pod.name.data := by
  simp only [runningPods, List.mem_map, List.mem_filter, decide_eq_true_eq, isSubstring_iff]
  constructor
  · rintro ⟨_, ⟨pod, ⟨listed, onNode⟩, rfl⟩, inside⟩
    exact ⟨pod, listed, onNode, inside⟩
  · rintro ⟨pod, listed, onNode, inside⟩
    exact ⟨pod.name, ⟨pod, ⟨listed, onNode⟩, rfl⟩, inside⟩

/-- `running_models`, in the order of `models`. -/
def runningModels (cat : Catalogue) (pods : List String) : List ModelId :=
  cat.models.filter (fun m => isRunning m pods)

/-- `running_tensor_set`: the union, model by model, of the running models'
tensor sets. -/
def runningTensorSet (cat : Catalogue) (pods : List String) : List TensorId :=
  (runningModels cat pods).foldl (fun running m => setUnion running (cat.tensorsOf m)) []

theorem mem_foldl_setUnion (cat : Catalogue) (ms : List ModelId) (start : List TensorId)
    (t : TensorId) :
    t ∈ ms.foldl (fun running m => setUnion running (cat.tensorsOf m)) start ↔
      t ∈ start ∨ ∃ m ∈ ms, t ∈ cat.tensorsOf m := by
  induction ms generalizing start with
  | nil => simp
  | cons m ms ih => simp [ih, or_assoc]

/-- A tensor is running exactly when some model of the catalogue that occurs in
a pod name lists it. -/
theorem mem_runningTensorSet {cat : Catalogue} {pods : List String} {t : TensorId} :
    t ∈ runningTensorSet cat pods ↔
      ∃ m ∈ cat.models, (∃ p ∈ pods, isSubstring m p = true) ∧ t ∈ cat.tensorsOf m := by
  simp [runningTensorSet, mem_foldl_setUnion, runningModels, isRunning_iff, and_assoc]

/-- `get_existing_tensors()`, given the listing `os.listdir(MEMORY_PATH)`. -/
def getExistingTensors (mFiles : List TensorId) : List TensorId :=
  mFiles.foldl setAdd []

@[simp] theorem mem_getExistingTensors {mFiles : List TensorId} {t : TensorId} :
    t ∈ getExistingTensors mFiles ↔ t ∈ mFiles := by
  simp [getExistingTensors, mem_foldl_setAdd]

end Collector
end Tetris
