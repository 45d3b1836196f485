import BeanMeter.Proofs.Agent.Deliveries
import BeanMeter.Proofs.Collection.Overlay

/-! # Entries are independent

What the entries of a bulk read leave in the results is what each of them leaves there on its own,
laid over each other in order. Entries that do not contradict each other can come in any order.

* `ReadResults.overlay` — results laid over each other, attribute by attribute.
* `ReadResults.ofResponses_append` — the results of two lists of entries.
* `Response.Fails`, `Response.Agrees` — entries that deliver nothing, and entries that do not
  contradict each other.
* `ReadResults.ofResponses_independent` — the order of the entries does not matter, nor do those
  that fail.
-/

namespace BeanMeter

/-- An entry that answers for no object, reports a failure or has no value. -/
def Response.Fails (r : Response) : Prop :=
  r.request.mbean = none ∨ r.status ≠ 200 ∨ r.value = none

/-- Two entries do not contradict each other: what both deliver for an attribute of an object and
is no placeholder has the same value. -/
def Response.Agrees (r s : Response) : Prop :=
  ∀ name attr, ∀ d ∈ ReadResults.deliveries r, ∀ e ∈ ReadResults.deliveries s,
    d.Gives name attr → e.Gives name attr →
      AttributeValue.ofJson d.value = AttributeValue.ofJson e.value

namespace ReadResults

variable {r s : ReadResults} {name attr : String}

/-! ## Laying results over each other -/

theorem ext_beans (same : ∀ name, r.beans.get? name = s.beans.get? name) : r = s := by
  cases r
  cases s
  exact congrArg ReadResults.mk (SortedMap.ext_get? same)

/-- All attributes of both results; of an attribute that both have the second one counts. -/
def overlay (r s : ReadResults) : ReadResults :=
  ⟨r.beans.overlayWith (fun old new => (old.getD .empty).overlay new) s.beans⟩

theorem get?_beans_overlay (r s : ReadResults) (name : String) :
    (r.overlay s).beans.get? name =
      ((s.beans.get? name).map (r.attributesOf name).overlay).or (r.beans.get? name) :=
  SortedMap.get?_overlayWith _ r.beans s.beans name

theorem attributesOf_overlay (r s : ReadResults) (name : String) :
    (r.overlay s).attributesOf name = (r.attributesOf name).overlay (s.attributesOf name) := by
  rw [attributesOf, get?_beans_overlay, attributesOf, attributesOf]
  cases s.beans.get? name <;> rfl

theorem attribute?_overlay (r s : ReadResults) (name attr : String) :
    (r.overlay s).attribute? name attr = (s.attribute? name attr).or (r.attribute? name attr) := by
  rw [← get?_attributesOf, attributesOf_overlay, SortedMap.get?_overlay, get?_attributesOf,
    get?_attributesOf]

theorem get?_beans_insert (r : ReadResults) (name attr : String) (v : AttributeValue)
    (object : String) : (r.insert name attr v).beans.get? object =
      if object = name then some ((r.attributesOf name).insert attr v) else r.beans.get? object :=
  SortedMap.get?_insert _ _ _ _

theorem overlay_insert (r s : ReadResults) (name attr : String) (v : AttributeValue) :
    r.overlay (s.insert name attr v) = (r.overlay s).insert name attr v := by
  apply ext_beans
  intro object
  rw [get?_beans_overlay, get?_beans_insert, get?_beans_insert, get?_beans_overlay,
    attributesOf_overlay]
  by_cases same : object = name
  · subst same
    simp [SortedMap.overlay_insert]
  · simp [same]

theorem overlay_comm (agree : ∀ name attr v w, r.attribute? name attr = some v →
    s.attribute? name attr = some w → v = w) : r.overlay s = s.overlay r := by
  apply ext_beans
  intro name
  have both : (r.attributesOf name).overlay (s.attributesOf name) =
      (s.attributesOf name).overlay (r.attributesOf name) := by
    apply SortedMap.overlay_comm
    intro attr v w one other
    rw [get?_attributesOf] at one other
    exact agree name attr v w one other
  rw [get?_beans_overlay, get?_beans_overlay]
  cases first : r.beans.get? name with
  | none =>
    cases second : s.beans.get? name with
    | none => rfl
    | some attributes => simp [attributesOf, first, SortedMap.empty_overlay]
  | some attributes =>
    cases second : s.beans.get? name with
    | none => simp [attributesOf, second, SortedMap.empty_overlay]
    | some others => simpa [attributesOf, first, second] using both

/-! ## Entries one after the other -/

theorem overlay_accept (r s : ReadResults) (d : Delivery) :
    r.overlay (s.accept d) = (r.overlay s).accept d := by
  unfold accept
  dsimp only
  split
  · rfl
  · exact overlay_insert r s _ _ _

/-- What is delivered later is laid over what was there before. -/
theorem overlay_foldl (r s : ReadResults) (ds : List Delivery) :
    r.overlay (ds.foldl accept s) = ds.foldl accept (r.overlay s) := by
  induction ds generalizing s with
  | nil => rfl
  | cons d ds ih => rw [List.foldl_cons, List.foldl_cons, ih, overlay_accept]

theorem ofResponses_append (xs ys : List Response) :
    ofResponses (xs ++ ys) = (ofResponses xs).overlay (ofResponses ys) := by
  have nothing (r : ReadResults) : r.overlay empty = r := rfl
  rw [ofResponses, ofResponses, ofResponses, acceptAll, acceptAll, acceptAll, List.flatMap_append,
    List.foldl_append, overlay_foldl, nothing]

theorem deliveries_of_fails {r : Response} (fails : r.Fails) : deliveries r = [] := by
  unfold deliveries
  split
  · next mbean value echo held =>
    rcases fails with unnamed | failure | valueless
    · rw [echo] at unnamed
      cases unnamed
    · rw [if_pos failure]
    · rw [held] at valueless
      cases valueless
  · rfl

theorem ofResponses_of_fails {rs : List Response} (fails : ∀ r ∈ rs, r.Fails) :
    ofResponses rs = empty := by
  have none : rs.flatMap deliveries = [] :=
    List.flatMap_eq_nil_iff.mpr fun r member => deliveries_of_fails (fails r member)
  rw [ofResponses, acceptAll, none]
  rfl

/-! ## The order of the entries -/

theorem ofResponses_pair_comm {r s : Response} (agrees : r.Agrees s) :
    ofResponses [r, s] = ofResponses [s, r] := by
  have apart (a b : Response) : ofResponses [a, b] = (ofResponses [a]).overlay (ofResponses [b]) :=
    ofResponses_append [a] [b]
  rw [apart, apart]
  apply overlay_comm
  intro name attr v w first second
  have alone (a : Response) : ofResponses [a] = (deliveries a).foldl accept empty := by
    simp [ofResponses, acceptAll]
  rw [alone] at first second
  obtain ⟨d, delivered, gives, rfl⟩ := exists_of_attribute?_foldl first
  obtain ⟨e, also, givesToo, rfl⟩ := exists_of_attribute?_foldl second
  exact agrees name attr d delivered e also gives givesToo

theorem agrees_symm {r s : Response} (agrees : r.Agrees s) : s.Agrees r :=
  fun name attr d delivered e also gives givesToo =>
    (agrees name attr e also d delivered givesToo gives).symm

theorem agrees_of_fails {r s : Response} (fails : s.Fails) : r.Agrees s := by
  intro name attr d delivered e also
  rw [deliveries_of_fails fails] at also
  cases also

/-- Entries that do not contradict each other can come in any order. -/
theorem ofResponses_perm {xs ys : List Response} (agree : xs.Pairwise Response.Agrees)
    (perm : xs.Perm ys) : ofResponses xs = ofResponses ys := by
  induction perm with
  | nil => rfl
  | @cons r xs ys _ ih =>
    obtain ⟨-, others⟩ := List.pairwise_cons.mp agree
    rw [← List.singleton_append, ofResponses_append, ih others, ← ofResponses_append]
    rfl
  | swap r s rest =>
    obtain ⟨first, -⟩ := List.pairwise_cons.mp agree
    have front (a b : Response) :
        ofResponses (a :: b :: rest) = (ofResponses [a, b]).overlay (ofResponses rest) :=
      ofResponses_append [a, b] rest
    rw [front, front, ofResponses_pair_comm (first r List.mem_cons_self)]
  | trans before _ ih later =>
    rw [ih agree, later (agree.perm before agrees_symm)]

/-- Every list of entries leaves what its parts leave on their own, laid over each other. Entries
that fail leave nothing, and as long as no two entries contradict each other, neither their order
nor failed entries between them make a difference. -/
theorem ofResponses_independent :
    (∀ xs ys, ofResponses (xs ++ ys) = (ofResponses xs).overlay (ofResponses ys) ∧
      ∀ name attr, (ofResponses (xs ++ ys)).attribute? name attr =
        ((ofResponses ys).attribute? name attr).or ((ofResponses xs).attribute? name attr)) ∧
    (∀ before r later, r.Fails →
      ofResponses (before ++ r :: later) = ofResponses (before ++ later)) ∧
    (∀ xs ys failed, xs.Pairwise Response.Agrees → (∀ r ∈ failed, r.Fails) →
      ys.Perm (xs ++ failed) → ofResponses ys = ofResponses xs) := by
  refine ⟨fun xs ys => ⟨ofResponses_append xs ys, fun name attr => ?_⟩, ?_, ?_⟩
  · rw [ofResponses_append, attribute?_overlay]
  · intro before r later fails
    have own : deliveries r = [] := deliveries_of_fails fails
    simp [ofResponses, acceptAll, own]
  · intro xs ys failed agree fails perm
    have none (rs : List Response) : ofResponses (rs ++ failed) = ofResponses rs := by
      rw [ofResponses_append, ofResponses_of_fails fails]
      rfl
    -- A failed entry contradicts nothing, so that all entries together still agree.
    have all : (xs ++ failed).Pairwise Response.Agrees := by
      rw [List.pairwise_append]
      refine ⟨agree, List.pairwise_of_forall_mem_list ?_, ?_⟩
      · exact fun r _ s member => agrees_of_fails (fails s member)
      · exact fun r _ s member => agrees_of_fails (fails s member)
    rw [← ofResponses_perm all perm.symm, none]

namespace Sample

/-- An entry for many objects, with an attribute that could not be read. -/
def many : Response :=
  ⟨⟨some "java.lang:type=*", some (.arr [.str "Usage", .str "Verbose"]), some "read"⟩,
    some (.obj [("java.lang:type=Memory",
      .obj [("Usage", .int 5), ("Verbose", .str "ERROR: denied")])]), 200, 0, none, none⟩

/-- An entry for one of these objects, in which that attribute could be read. -/
def one : Response :=
  ⟨⟨some "java.lang:type=Memory", some (.arr [.str "Usage", .str "Verbose"]), some "read"⟩,
    some (.obj [("Usage", .int 5), ("Verbose", .bool true)]), 200, 0, none, none⟩

def gone : Response :=
  ⟨⟨some "java.lang:type=Gone", none, some "read"⟩, some (.int 5), 404, 0, some "gone", none⟩

theorem agree : [many, one].Pairwise Response.Agrees := by
  have each : many.Agrees one := by
    intro name attr d delivered e also gives givesToo
    have first : d = ⟨"java.lang:type=Memory", "Usage", .int 5⟩ ∨
        d = ⟨"java.lang:type=Memory", "Verbose", .str "ERROR: denied"⟩ := by
      simpa [deliveries, many, isNamePattern, deliveriesOfPattern, deliveriesOfObject]
        using delivered
    have second : e = ⟨"java.lang:type=Memory", "Usage", .int 5⟩ ∨
        e = ⟨"java.lang:type=Memory", "Verbose", .bool true⟩ := by
      simpa [deliveries, one, isNamePattern, deliveriesOfConcrete, requestedAttributes,
        Json.text?, deliveriesOfObject] using also
    obtain ⟨-, rfl, readable⟩ := gives
    obtain ⟨-, same, -⟩ := givesToo
    rcases first with rfl | rfl
    · rcases second with rfl | rfl
      · rfl
      · exact absurd same (by decide)
    · exact absurd ⟨"denied", rfl⟩ readable
  simpa using each

theorem fails : ∀ r ∈ [gone], r.Fails := by simp [gone, Response.Fails]

end Sample

/-- A placeholder does not stand in the way of the value that another entry delivers. -/
theorem sample_independent :
    [Sample.many, Sample.one].Pairwise Response.Agrees ∧ (∀ r ∈ [Sample.gone], r.Fails) ∧
      ofResponses [Sample.one, Sample.gone, Sample.many] =
        ofResponses [Sample.many, Sample.one] ∧
      (ofResponses [Sample.one, Sample.gone, Sample.many]).attribute?
        "java.lang:type=Memory" "Verbose" = some (.flag true) := by
  obtain ⟨-, -, order⟩ := ofResponses_independent
  have moved : [Sample.one, Sample.gone, Sample.many].Perm
      ([Sample.many, Sample.one] ++ [Sample.gone]) :=
    List.perm_append_singleton Sample.many [Sample.one, Sample.gone]
  have same := order _ _ _ Sample.agree Sample.fails moved
  exact ⟨Sample.agree, Sample.fails, same, rfl⟩

end ReadResults

end BeanMeter
