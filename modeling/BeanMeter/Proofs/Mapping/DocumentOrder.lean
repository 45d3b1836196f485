import BeanMeter.Proofs.Collection.Entries
import BeanMeter.Proofs.Mapping.ReadPlan
import BeanMeter.Proofs.Mapping.Uniqueness

/-! # The order of documents

Documents are merged one after the other, and each is compared with those before it. Whether they
can be merged does not depend on the order all the same: what is compared is whether two documents
define one metric, and that is symmetric. The order in which the mappings are listed then shows in
nothing but the order of the observations.

* `Registry.mergeable_perm` — documents that can be merged can be merged in any order.
* `Registry.readPlan_congr` — the plan depends on which mappings there are only.
* `Registry.ofDocuments_perm` — the same documents in another order make the same plan, and the same
  observations up to their order.
-/

namespace BeanMeter

namespace Registry

variable {batches reordered : List (List AttributeMapping)} {r s : Registry}

theorem mergeable_perm (perm : batches.Perm reordered) (mergeable : Mergeable batches) :
    Mergeable reordered where
  apart := (perm.pairwise_iff (Std.Symm.symm _ _)).mp mergeable.apart
  coherent := fun ms member => mergeable.coherent ms (perm.mem_iff.mpr member)

/-! ## The plan -/

section

variable {first second : List AttributeMapping}

/-- Both plans in the making list the same attributes for the same patterns. -/
theorem foldl_planStep_congr (same : ∀ m, m ∈ first ↔ m ∈ second) :
    first.foldl planStep .empty = second.foldl planStep .empty := by
  apply SortedMap.ext_get?
  intro pattern
  have listed : pattern ∈ (first.foldl planStep .empty).keys ↔
      pattern ∈ (second.foldl planStep .empty).keys := by
    simp only [mem_keys_foldl_iff, same]
  have lists : ∀ attr, Lists (first.foldl planStep .empty) pattern attr ↔
      Lists (second.foldl planStep .empty) pattern attr := by
    simp only [lists_foldl_iff, same, implies_true]
  rw [SortedMap.mem_keys_iff, SortedMap.mem_keys_iff] at listed
  cases left : (first.foldl planStep .empty).get? pattern with
  | none =>
    cases right : (second.foldl planStep .empty).get? pattern with
    | none => rfl
    | some attributes => simp [left, right] at listed
  | some attributes =>
    cases right : (second.foldl planStep .empty).get? pattern with
    | none => simp [left, right] at listed
    | some others =>
      have keys : attributes = others := by
        apply SortedMap.ext_keys
        simpa [Lists, left, right] using lists
      rw [keys]

theorem readPlan_congr (same : ∀ m, m ∈ r.mappings ↔ m ∈ s.mappings) : r.readPlan = s.readPlan := by
  rw [readPlan, readPlan, attributesByPattern_eq, attributesByPattern_eq, foldl_planStep_congr same]

end

/-! ## Documents -/

variable {documents others : List (String × String)}

theorem ofDocuments_of_perm (perm : documents.Perm others) (loaded : ofDocuments documents = .ok r) :
    ∃ s, ofDocuments others = .ok s ∧ r.mappings.Perm s.mappings := by
  obtain ⟨batches, read, mergeable, rfl⟩ := ofDocuments_eq_ok_iff.mp loaded
  -- Every document is read by itself, and so the batches change places with the documents.
  obtain ⟨g, each, rfl⟩ := mapM_eq_ok_iff.mp read
  have moved : (documents.map g).Perm (others.map g) := perm.map g
  have readable : definitions others = .ok (others.map g) :=
    mapM_eq_ok_iff.mpr ⟨g, fun d member => each d (perm.mem_iff.mpr member), rfl⟩
  exact ⟨⟨(others.map g).flatten⟩,
    ofDocuments_eq_ok_iff.mpr ⟨_, readable, mergeable_perm moved mergeable, rfl⟩, moved.flatten⟩

theorem observe_perm (perm : r.mappings.Perm s.mappings) (results : ReadResults) (timestamp : Int) :
    (r.observe results timestamp).Perm (s.observe results timestamp) :=
  perm.flatMap_right _

/-- Documents are merged in every order or in none. In every order the same is read, and the same is
observed, but for the order of the observations. -/
theorem ofDocuments_perm (perm : documents.Perm others) :
    ((∃ r, ofDocuments documents = .ok r) ↔ ∃ s, ofDocuments others = .ok s) ∧
    ∀ r s, ofDocuments documents = .ok r → ofDocuments others = .ok s →
      r.readPlan = s.readPlan ∧ ∀ results timestamp,
        (r.observe results timestamp).Perm (s.observe results timestamp) := by
  refine ⟨⟨?_, ?_⟩, fun r s loaded reloaded => ?_⟩
  · rintro ⟨r, loaded⟩
    obtain ⟨s, reloaded, -⟩ := ofDocuments_of_perm perm loaded
    exact ⟨s, reloaded⟩
  · rintro ⟨s, loaded⟩
    obtain ⟨r, reloaded, -⟩ := ofDocuments_of_perm perm.symm loaded
    exact ⟨r, reloaded⟩
  · obtain ⟨t, same, moved⟩ := ofDocuments_of_perm perm loaded
    rw [reloaded] at same
    cases same
    exact ⟨readPlan_congr fun m => moved.mem_iff, observe_perm moved⟩

namespace Reordered

/-- Both documents read attributes of the same objects. -/
def used : String × String :=
  ("used", "rules:\n- bean: java.lang:type=Memory\n  mapping:\n    Used:\n")

def free : String × String :=
  ("free", "rules:\n- bean: java.lang:type=Memory\n  mapping:\n    Free:\n")

def mapping (attr origin : String) : AttributeMapping :=
  ⟨⟨"java.lang:type=Memory", "java.lang".toList, [("type", "Memory".toList)], false⟩, attr, none,
    attr, none, none, .gauge, [], origin, 0⟩

theorem loaded : ofDocuments [used, free] = .ok ⟨[mapping "Used" "used", mapping "Free" "free"]⟩ := by
  decide +kernel

def results : ReadResults :=
  (ReadResults.empty.insert "java.lang:type=Memory" "Used" (.integer 5)).insert
    "java.lang:type=Memory" "Free" (.integer 7)

end Reordered

theorem sample_reordered :
    [Reordered.used, Reordered.free].Perm [Reordered.free, Reordered.used] ∧
      ∃ r s, ofDocuments [Reordered.used, Reordered.free] = .ok r ∧
        ofDocuments [Reordered.free, Reordered.used] = .ok s ∧
        r.readPlan = s.readPlan ∧ r.readPlan = [⟨"java.lang:type=Memory", ["Free", "Used"]⟩] ∧
        (r.observe Reordered.results 0).map (·.name) = ["Used", "Free"] ∧
        (r.observe Reordered.results 0).Perm (s.observe Reordered.results 0) := by
  have perm : [Reordered.used, Reordered.free].Perm [Reordered.free, Reordered.used] :=
    .swap _ _ []
  obtain ⟨both, same⟩ := ofDocuments_perm perm
  obtain ⟨s, reloaded⟩ := both.mp ⟨_, Reordered.loaded⟩
  obtain ⟨plan, observed⟩ := same _ s Reordered.loaded reloaded
  exact ⟨perm, _, s, Reordered.loaded, reloaded, plan, by decide +kernel, by decide +kernel,
    observed Reordered.results 0⟩

end Registry

end BeanMeter
