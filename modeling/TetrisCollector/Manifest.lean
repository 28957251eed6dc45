import TetrisCollector.LiveSet
import Mathlib.Data.String.Basic
import Mathlib.Data.List.Basic

namespace Tetris
namespace Collector

/-!
# Manifests

A model's manifest under `MODEL_PATH` is a text of tensor ids separated by
white space, and `get_tensors` reads it with `str.split()`.  Python's
`split` with no argument cuts at every run of white space and drops the
empty pieces.  So every id the collector reads is a non-empty word without
white space, and a manifest written as such words separated by single
spaces is read back as exactly those words.

`String.split` works on byte positions; `String.split_of_valid` turns it into
`List.splitOnP` on the characters, where the two facts are proved.
-/

theorem pySplit_eq_splitOnP (text : String) :
    pySplit text = ((text.data.splitOnP isPySpace).map String.mk).filter (fun piece => piece ≠ "") := by
  rw [pySplit, String.split_of_valid]

/-- No piece that `splitOnP` cuts at white space contains white space. -/
theorem noSpace_of_mem_splitOnP {text piece : List Char} (member : piece ∈ text.splitOnP isPySpace) :
    ∀ c ∈ piece, isPySpace c = false := by
  induction text generalizing piece with
  | nil =>
      rw [List.splitOnP_nil, List.mem_singleton] at member
      subst member
      exact fun _ absent => nomatch absent
  | cons x xs ih =>
      rw [List.splitOnP_cons] at member
      split at member
      · rcases List.mem_cons.mp member with rfl | later
        · exact fun _ absent => nomatch absent
        · exact ih later
      · rename_i notSpace
        obtain ⟨first, rest, split⟩ := List.exists_cons_of_ne_nil (List.splitOnP_ne_nil isPySpace xs)
        rw [split] at member ih
        rcases List.mem_cons.mp member with rfl | later
        · intro c member
          rcases List.mem_cons.mp member with rfl | inFirst
          · simpa using notSpace
          · exact ih (List.mem_cons_self first rest) c inFirst
        · exact ih (List.mem_cons_of_mem first later)

theorem data_intercalate_go (acc s : String) (pieces : List String) :
    (String.intercalate.go acc s pieces).data = acc.data ++ (pieces.map fun a => s.data ++ a.data).flatten := by
  induction pieces generalizing acc with
  | nil => simp [String.intercalate.go]
  | cons a pieces ih => simp [String.intercalate.go, ih]

/-- The text of tensor ids written with single spaces. -/
theorem data_intercalate_space (a : String) (rest : List String) :
    (" ".intercalate (a :: rest)).data = a.data ++ (rest.map fun b => ' ' :: b.data).flatten := by
  simp [String.intercalate, data_intercalate_go]

theorem splitOnP_written (a : String) (rest : List String)
    (clean : ∀ tok ∈ a :: rest, ∀ c ∈ tok.data, isPySpace c = false) :
    (a.data ++ (rest.map fun b => ' ' :: b.data).flatten).splitOnP isPySpace =
      (a :: rest).map String.data := by
  induction rest generalizing a with
  | nil =>
      simpa using List.splitOnP_eq_single isPySpace a.data
        fun c member => by simp [clean a (List.mem_cons_self a []) c member]
  | cons b rest ih =>
      have split := List.splitOnP_first isPySpace a.data
        (fun c member => by simp [clean a (List.mem_cons_self a _) c member]) ' ' rfl
        (b.data ++ (rest.map fun b => ' ' :: b.data).flatten)
      rw [List.map_cons, List.flatten_cons, List.cons_append, split, ih b
        fun tok member => clean tok (List.mem_cons_of_mem a member)]
      rfl

/-- Reading back tensor ids written with single spaces gives them back, in
order, when none is empty and none contains white space. -/
theorem pySplit_intercalate (toks : List String)
    (wellFormed : ∀ tok ∈ toks, tok ≠ "" ∧ ∀ c ∈ tok.data, isPySpace c = false) :
    pySplit (" ".intercalate toks) = toks := by
  cases toks with
  | nil => simp [pySplit_eq_splitOnP, String.intercalate]
  | cons a rest =>
      have unchanged : (fun tok : String => String.mk tok.data) = id := rfl
      rw [pySplit_eq_splitOnP, data_intercalate_space,
        splitOnP_written a rest fun tok member => (wellFormed tok member).2, List.map_map,
        Function.comp_def, unchanged, List.map_id, List.filter_eq_self]
      exact fun tok member => decide_eq_true (wellFormed tok member).1

/-- Each word of `pySplit` is non-empty and has no white space. -/
theorem wellFormed_of_mem_pySplit {text t : String} (member : t ∈ pySplit text) :
    t ≠ "" ∧ ∀ c ∈ t.data, isPySpace c = false := by
  rw [pySplit_eq_splitOnP, List.mem_filter, List.mem_map] at member
  obtain ⟨⟨piece, cut, rfl⟩, nonempty⟩ := member
  exact ⟨of_decide_eq_true nonempty, noSpace_of_mem_splitOnP cut⟩

/-- For every listing of `MODEL_PATH` and all manifest texts, each tensor id
that `get_tensors` reads is non-empty and free of white space; and manifests
that list ids of that kind separated by single spaces are read back as
exactly the sets of those ids. -/
theorem load_reads_manifests :
    (∀ (manifest : ModelId → String) (models : List ModelId) (m : ModelId),
      ∀ t ∈ (Catalogue.load manifest models).tensorsOf m, t ≠ "" ∧ ∀ c ∈ t.data, isPySpace c = false) ∧
    (∀ (ids : ModelId → List TensorId) (models : List ModelId) (m : ModelId),
      (∀ t ∈ ids m, t ≠ "" ∧ ∀ c ∈ t.data, isPySpace c = false) → m ∈ models →
      (Catalogue.load (fun model => " ".intercalate (ids model)) models).tensorsOf m = pySet (ids m)) := by
  refine ⟨fun manifest models m t member => ?_, fun ids models m wellFormed listed => ?_⟩
  · by_cases listed : m ∈ models
    · rw [Catalogue.tensorsOf_load manifest models listed, mem_pySet] at member
      exact wellFormed_of_mem_pySplit member
    · simp [Catalogue.tensorsOf, Catalogue.load, lookup_getTensors, listed] at member
  · rw [Catalogue.tensorsOf_load _ models listed, pySplit_intercalate (ids m) wellFormed]

theorem load_reads_sampleManifest :
    (∀ t ∈ ["a", "b"], t ≠ "" ∧ ∀ c ∈ t.data, isPySpace c = false) ∧
      (Catalogue.load (fun _ => " ".intercalate ["a", "b"]) ["m1"]).tensorsOf "m1" = pySet ["a", "b"] :=
  have wellFormed : ∀ t ∈ ["a", "b"], t ≠ "" ∧ ∀ c ∈ t.data, isPySpace c = false := by decide
  ⟨wellFormed, load_reads_manifests.2 (fun _ => ["a", "b"]) ["m1"] "m1" wellFormed (by decide)⟩

end Collector
end Tetris
