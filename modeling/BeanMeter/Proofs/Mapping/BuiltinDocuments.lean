import BeanMeter.Mapping.Builtin
import BeanMeter.Mapping.Builtin.Documents
import BeanMeter.Proofs.Outcome
import Mathlib.Data.List.Forall2

/-! # The documents of the built-in catalogs

The tables of the built-in catalogs say what their documents say, so that a run loads its mappings
as if it read the documents.

* `Catalog.documents_read` — every document is read as its table.
* `Registry.resolve_eq_ofDocuments` — the registry of a run is that of the documents of its target
  systems and of the document of the user's.
-/

namespace BeanMeter

namespace Catalog

open Yaml (isAllowed unifyBreaks Token Document)

/-- The part of reading a catalog that comes after the characters of its text have been taken
apart. -/
def ofChars? (cs : List Char) : Option Catalog :=
  if cs.head? ≠ some '\ufeff' ∧ cs.all isAllowed then
    ((Token.scan? (unifyBreaks cs)).bind Document.ofTokens?).bind ofDocument?
  else none

theorem parse_ofList {cs : List Char} {c : Catalog} (read : ofChars? cs = some c)
    (origin : String) : parse (String.ofList cs) origin = .ok c := by
  unfold ofChars? at read
  split at read
  · next plain =>
    obtain ⟨noMark, allowed⟩ := plain
    have normal : Yaml.normalize? (String.ofList cs) = some (unifyBreaks cs) := by
      rw [Yaml.normalize?, String.toList_ofList]
      split
      · next rest => exact absurd rfl noMark
      · rw [if_pos allowed]
    rw [parse, Document.parse?, normal, Option.bind_some, read]
  · cases read

/-- A document is read as a table of the same name, wherever it comes from. -/
def Reads (document : String × String) (table : String × Catalog) : Prop :=
  document.1 = table.1 ∧ ∀ origin, parse document.2 origin = .ok table.2

end Catalog

/-! ## Reading the documents -/

namespace Builtin.Document

section

variable (origin : String)

-- A document is taken apart by unification, which goes through it one character after the other
-- and is still much faster than to compute its characters. Several are read in one lemma, because
-- lemmas are checked side by side and a document takes much memory.
set_option maxRecDepth 100000

theorem brokers_read :
    Catalog.parse activeMq origin = .ok Builtin.activeMq ∧
    Catalog.parse kafka origin = .ok Builtin.kafka ∧
    Catalog.parse kafkaConsumer origin = .ok Builtin.kafkaConsumer ∧
    Catalog.parse kafkaProducer origin = .ok Builtin.kafkaProducer :=
  ⟨Catalog.parse_ofList (by decide +kernel) origin,
    Catalog.parse_ofList (by decide +kernel) origin,
    Catalog.parse_ofList (by decide +kernel) origin,
    Catalog.parse_ofList (by decide +kernel) origin⟩

theorem stores_read :
    Catalog.parse cassandra origin = .ok Builtin.cassandra ∧
    Catalog.parse hbase origin = .ok Builtin.hbase ∧
    Catalog.parse hadoop origin = .ok Builtin.hadoop ∧
    Catalog.parse solr origin = .ok Builtin.solr :=
  ⟨Catalog.parse_ofList (by decide +kernel) origin,
    Catalog.parse_ofList (by decide +kernel) origin,
    Catalog.parse_ofList (by decide +kernel) origin,
    Catalog.parse_ofList (by decide +kernel) origin⟩

theorem servers_read :
    Catalog.parse jetty origin = .ok Builtin.jetty ∧
    Catalog.parse jvm origin = .ok Builtin.jvm ∧
    Catalog.parse tomcat origin = .ok Builtin.tomcat ∧
    Catalog.parse wildfly origin = .ok Builtin.wildfly :=
  ⟨Catalog.parse_ofList (by decide +kernel) origin,
    Catalog.parse_ofList (by decide +kernel) origin,
    Catalog.parse_ofList (by decide +kernel) origin,
    Catalog.parse_ofList (by decide +kernel) origin⟩

end

end Builtin.Document

namespace Catalog

open Builtin.Document in
/-- Every document is read as its table. -/
theorem documents_read : List.Forall₂ Reads documents builtins := by
  simp only [documents, builtins, List.forall₂_cons, Reads, List.Forall₂.nil, and_true, true_and]
  exact ⟨fun origin => (brokers_read origin).1,
    fun origin => (stores_read origin).1,
    fun origin => (stores_read origin).2.1,
    fun origin => (stores_read origin).2.2.1,
    fun origin => (servers_read origin).1,
    fun origin => (servers_read origin).2.1,
    fun origin => (brokers_read origin).2.1,
    fun origin => (brokers_read origin).2.2.1,
    fun origin => (brokers_read origin).2.2.2,
    fun origin => (stores_read origin).2.2.2,
    fun origin => (servers_read origin).2.2.1,
    fun origin => (servers_read origin).2.2.2⟩

theorem exists_document? {system : String} (available : system ∈ availableTargets) :
    ∃ text c, document? system = some text ∧ builtin? system = some c ∧
      ∀ origin, parse text origin = .ok c := by
  have named : documents.map (·.1) = availableTargets := rfl
  have all := documents_read
  rw [← named] at available
  rw [document?, builtin?]
  generalize documents = texts at all available
  generalize builtins = catalogs at all
  induction all with
  | nil => cases available
  | @cons document table texts catalogs reads _ ih =>
    obtain ⟨name, parsed⟩ := reads
    rw [List.find?_cons, List.find?_cons, ← name]
    cases found : document.1 == system with
    | true => exact ⟨_, _, rfl, rfl, parsed⟩
    | false =>
      refine ih ((List.mem_cons.mp available).resolve_left fun same => ?_)
      rw [same, beq_self_eq_true] at found
      cases found

end Catalog

/-! ## Loading the documents -/

namespace Registry

/-- The documents of some target systems, each with where its mappings come from. -/
def builtinDocuments (targets : List String) : Option (List (String × String)) :=
  targets.mapM fun system =>
    (Catalog.document? system).map fun text => (Catalog.builtinOrigin system, text)

variable {targets : List String} {documents : List (String × String)}

theorem exists_builtinDocuments (known : ∀ system ∈ targets, system ∈ availableTargets) :
    ∃ documents catalogs, builtinDocuments targets = some documents ∧
      builtinCatalogs targets = .ok catalogs ∧ List.Forall₂ Catalog.Reads documents catalogs := by
  induction targets with
  | nil => exact ⟨[], [], rfl, rfl, .nil⟩
  | cons system targets ih =>
    obtain ⟨available, others⟩ := List.forall_mem_cons.mp known
    obtain ⟨text, c, written, found, parsed⟩ := Catalog.exists_document? available
    obtain ⟨documents, catalogs, texts, looked, all⟩ := ih others
    refine ⟨(Catalog.builtinOrigin system, text) :: documents,
      (Catalog.builtinOrigin system, c) :: catalogs, ?_, ?_, .cons ⟨rfl, parsed⟩ all⟩
    · rw [builtinDocuments] at texts ⊢
      rw [List.mapM_cons, written, texts]
      rfl
    · rw [builtinCatalogs] at looked ⊢
      rw [List.mapM_cons, found, looked]
      rfl

theorem foldlM_mappings_eq {catalogs : List (String × Catalog)}
    (all : List.Forall₂ Catalog.Reads documents catalogs) (r : Registry) :
    catalogs.foldlM (fun r (origin, c) => (c.mappings origin).bind r.extend) r =
      documents.foldlM
        (fun r (origin, text) => (Catalog.parseMappings text origin).bind r.extend) r := by
  induction all generalizing r with
  | nil => rfl
  | @cons document table documents catalogs reads _ ih =>
    obtain ⟨name, parsed⟩ := reads
    have same : Catalog.parseMappings document.2 document.1 = table.2.mappings table.1 := by
      rw [Catalog.parseMappings, parsed, name]
      rfl
    rw [List.foldlM_cons, List.foldlM_cons]
    dsimp only
    rw [same]
    exact congrArg _ (funext ih)

/-- A run loads what the documents of its target systems say, in the order of the systems, and after
them what the document of the user's says. -/
theorem resolve_eq_ofDocuments {files : Files} {custom : Option String}
    {own : Option (String × String)} (known : ∀ system ∈ targets, system ∈ availableTargets)
    (read : customDocument files custom = .ok own) :
    ∃ documents, builtinDocuments targets = some documents ∧
      resolve files targets custom = ofDocuments (documents ++ own.toList) := by
  obtain ⟨documents, catalogs, texts, looked, all⟩ := exists_builtinDocuments known
  refine ⟨documents, texts, ?_⟩
  rw [resolve, looked, read, ofDocuments, List.foldlM_append, ← foldlM_mappings_eq all]
  -- The documents of the target systems are merged in both; what is left is the one of the user's.
  change Except.bind (catalogs.foldlM _ empty) _ = Except.bind _ _
  congr 1
  funext registry
  cases own with
  | none => rfl
  | some document =>
    rw [Option.toList_some, List.foldlM_cons]
    exact (bind_pure _).symm

end Registry

end BeanMeter
