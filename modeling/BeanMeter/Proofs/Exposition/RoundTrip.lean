import BeanMeter.Proofs.Exposition.Lines

/-! # Reading expositions back

An exposition loses nothing: whatever samples the program makes of observations and of its own
statistics, the text of them says what they were.

* `Exposition.familyNames_eq` — the order of families.
* `Exposition.read?_text_of_named` — any samples with valid names are read back.
* `Exposition.read?_text` — and so are those that the program makes.
-/

namespace BeanMeter.Exposition

variable {samples : List Sample} {timestamps : Bool}

/-! ## Families -/

/-- Families come in the order in which they first occur, each once. -/
theorem familyNames_eq (seen : List String) (samples : List Sample) : familyNames seen samples =
    ((samples.map Sample.family).filter fun name => !seen.contains name).eraseDups := by
  induction samples generalizing seen with
  | nil => simp [familyNames]
  | cons s rest ih =>
    rw [familyNames, List.map_cons]
    split
    · next old => rw [ih, List.filter_cons_of_neg (by rw [old]; decide)]
    · next new =>
      rw [ih, List.filter_cons_of_pos (by rw [Bool.eq_false_iff.mpr new]; rfl),
        List.eraseDups_cons, List.filter_filter]
      congr 3
      funext name
      rw [List.contains_cons, Bool.not_or]

theorem families_eq (samples : List Sample) : families samples =
    (samples.map Sample.family).eraseDups.map fun name =>
      ⟨name, samples.filter fun s => s.family == name⟩ := by
  simp [families, familyNames_eq]

/-- What the lines of a family say. -/
def Block.ofFamily (timestamps : Bool) (f : Family) : Block where
  family := f.name
  help := f.help?
  typeName := f.typeName
  samples := f.samples.map (.ofSample timestamps)

theorem readLines?_samples {rest : List (List Char)} {after : Remainder}
    (named : ∀ s ∈ samples, Named s) (read : readLines? rest = some after) :
    readLines? (samples.map (fun s => (line timestamps s).toList) ++ rest) =
      some (samples.map (.ofSample timestamps) ++ after.1, after.2) := by
  induction samples with
  | nil => exact read
  | cons s samples ih =>
    obtain ⟨own, others⟩ := List.forall_mem_cons.mp named
    rw [List.map_cons, List.cons_append, readLines?, ih others, Option.bind_some,
      addLine?_sample own]
    rfl

theorem readLines?_family {f : Family} {rest : List (List Char)} {blocks : List Block}
    (valid : isName true f.name.toList = true) (named : ∀ s ∈ f.samples, Named s)
    (read : readLines? rest = some ([], blocks)) :
    readLines? ((f.lines timestamps).map String.toList ++ rest) =
      some ([], .ofFamily timestamps f :: blocks) := by
  -- From its type on the family is complete but for its help text.
  have untold : readLines? (("# TYPE " ++ f.name ++ " " ++ f.typeName).toList ::
      (f.samples.map (fun s => (line timestamps s).toList) ++ rest)) =
      some ([], { Block.ofFamily timestamps f with help := none } :: blocks) := by
    rw [readLines?, readLines?_samples named read, Option.bind_some, addLine?_type valid]
    simp [Block.ofFamily]
  cases told : f.help? with
  | none => simpa [Family.lines, told, Function.comp_def, Block.ofFamily] using untold
  | some help =>
    have whole := addLine?_help (b := { Block.ofFamily timestamps f with help := none }) valid rfl
      help blocks
    have lines : (f.lines timestamps).map String.toList =
        ("# HELP " ++ f.name ++ " " ++ escapeHelp help).toList ::
          ("# TYPE " ++ f.name ++ " " ++ f.typeName).toList ::
            f.samples.map (fun s => (line timestamps s).toList) := by
      simp [Family.lines, told]
    rw [lines, List.cons_append, List.cons_append, readLines?, untold, Option.bind_some]
    simpa [Block.ofFamily, told] using whole

theorem readLines?_families {fs : List Family} (valid : ∀ f ∈ fs, isName true f.name.toList = true)
    (named : ∀ f ∈ fs, ∀ s ∈ f.samples, Named s) :
    readLines? ((fs.flatMap (Family.lines timestamps)).map String.toList) =
      some ([], fs.map (.ofFamily timestamps)) := by
  induction fs with
  | nil => rfl
  | cons f fs ih =>
    obtain ⟨own, others⟩ := List.forall_mem_cons.mp valid
    obtain ⟨ownNamed, othersNamed⟩ := List.forall_mem_cons.mp named
    rw [List.flatMap_cons, List.map_append,
      readLines?_family own ownNamed (ih others othersNamed), List.map_cons]

/-! ## Texts -/

theorem newline_not_mem_typeName (f : Family) : '\n' ∉ f.typeName.toList := by
  have one (s : Sample) : '\n' ∉ s.typeName.toList := by
    unfold Sample.typeName
    split
    · decide
    · split <;> decide
  rw [Family.typeName]
  cases f.samples with
  | nil => decide
  | cons s _ => exact one s

theorem newline_not_mem_lines {f : Family} (valid : isName true f.name.toList = true)
    (named : ∀ s ∈ f.samples, Named s) : ∀ l ∈ f.lines timestamps, '\n' ∉ l.toList := by
  have name := newline_not_mem_name valid
  intro l member
  rw [Family.lines, List.mem_append, List.mem_append, List.mem_singleton, List.mem_map] at member
  rcases member with (told | rfl) | ⟨s, own, rfl⟩
  · obtain ⟨help, -, rfl⟩ := Option.map_eq_some_iff.mp (Option.mem_toList.mp told)
    simp [name, newline_not_mem_escapeHelp]
  · simp [name, newline_not_mem_typeName]
  · exact newline_not_mem_line (named s own) timestamps

theorem toList_text (timestamps : Bool) (samples : List Sample) : (text timestamps samples).toList =
    (((families samples).flatMap (Family.lines timestamps)).map String.toList).flatMap
      fun l => l ++ ['\n'] := by
  simp [text, String.toList_join, List.flatMap_map]

theorem read?_text_of_named (named : ∀ s ∈ samples, Named s) :
    read? (text timestamps samples) = some ((families samples).map (.ofFamily timestamps)) := by
  -- The families are those of the samples, and consist of them.
  have valid : ∀ f ∈ families samples, isName true f.name.toList = true := by
    rw [families_eq, List.forall_mem_map]
    intro name member
    obtain ⟨s, own, rfl⟩ := List.mem_map.mp (List.mem_eraseDups.mp member)
    exact (named s own).family
  have own : ∀ f ∈ families samples, ∀ s ∈ f.samples, Named s := by
    rw [families_eq, List.forall_mem_map]
    intro name _ s member
    exact named s (List.mem_of_mem_filter member)
  have clear : ∀ l ∈ ((families samples).flatMap (Family.lines timestamps)).map String.toList,
      '\n' ∉ l := by
    rw [List.forall_mem_map]
    intro l member
    obtain ⟨f, among, written⟩ := List.mem_flatMap.mp member
    exact newline_not_mem_lines (valid f among) (own f among) l written
  rw [read?, toList_text, Text.splitOn_terminated clear, List.getLast?_concat, List.dropLast_concat,
    readLines?_families valid own]

/-- What a text has to say of a family: everything of its samples in order, their first help text,
and the type of the first of them. -/
structure Block.Tells (timestamps : Bool) (own : List Sample) (b : Block) : Prop where
  entries : b.samples = own.map (.ofSample timestamps)
  help : b.help = own.findSome? (·.help)
  typeName : some b.typeName = own.head?.map Sample.typeName

/-- All names in what a text says of a family are names. -/
structure Block.Valid (b : Block) : Prop where
  family : isName true b.family.toList = true
  samples : ∀ e ∈ b.samples, isName true e.name.toList = true
  labels : ∀ e ∈ b.samples, ∀ label ∈ e.labels, isName false label.1.toList = true

/-- The text of the samples of observations, with or without those of the statistics after them,
says of every family once, in order of first occurrence, what there is to say. -/
theorem read?_text (observations : List Observation) (stats : Option ScrapeStats)
    (timestamps : Bool) :
    let samples := observations.map .ofObservation ++ (stats.map ScrapeStats.samples).getD []
    ∃ blocks, read? (text timestamps samples) = some blocks ∧
      blocks.map Block.family = (samples.map Sample.family).eraseDups ∧
      ∀ b ∈ blocks,
        b.Tells timestamps (samples.filter fun s => s.family == b.family) ∧ b.Valid := by
  intro samples
  have named : ∀ s ∈ samples, Named s := by
    intro s member
    rcases List.mem_append.mp member with observed | counted
    · obtain ⟨o, -, rfl⟩ := List.mem_map.mp observed
      exact named_ofObservation o
    · cases stats with
      | none => cases counted
      | some stats => exact named_of_stats counted
  refine ⟨_, read?_text_of_named named, ?_, ?_⟩
  · simp [families_eq, Block.ofFamily, Function.comp_def]
  · rw [families_eq, List.map_map, List.forall_mem_map]
    intro name member
    obtain ⟨first, among, rfl⟩ := List.mem_map.mp (List.mem_eraseDups.mp member)
    have own : ∀ s ∈ samples.filter fun s => s.family == first.family, Named s :=
      fun s among => named s (List.mem_of_mem_filter among)
    refine ⟨⟨rfl, rfl, ?_⟩, (named first among).family, ?_, ?_⟩
    · -- A family that occurs has a first sample.
      cases found : (samples.filter fun s => s.family == first.family) with
      | nil =>
        have none := List.filter_eq_nil_iff.mp found first among
        simp at none
      | cons s rest => simp [Block.ofFamily, Family.typeName, found]
    · exact List.forall_mem_map.mpr fun s among => (own s among).name
    · exact List.forall_mem_map.mpr fun s among => (own s among).labels

/-- Observations of two metrics in turn, one with a label value that has to be escaped. -/
def interleaved : List Observation := [
  ⟨"kafka.lag", .gauge, .ofNat 3, .ofList [("topic", "a\"b\\\nc")], 1000, none, some "Lag"⟩,
  ⟨"jvm.count", .counter, .ofNat 1, .empty, 1000, none, none⟩,
  ⟨"kafka.lag", .gauge, .ofNat 4, .ofList [("topic", "d")], 1000, none, none⟩]

def interleavedBlocks : List Block := [
  ⟨"kafka_lag", some "Lag", "gauge", [⟨"kafka_lag", [("topic", "a\"b\\\nc")], "3", none⟩,
    ⟨"kafka_lag", [("topic", "d")], "4", none⟩]⟩,
  ⟨"jvm_count", none, "counter", [⟨"jvm_count", [], "1", none⟩]⟩]

theorem sample_read_text :
    read? (text false (interleaved.map .ofObservation)) = some interleavedBlocks ∧
      ∀ b ∈ interleavedBlocks, b.Valid := by
  obtain ⟨blocks, read, -, tells⟩ := read?_text interleaved none false
  have whole : interleaved.map .ofObservation ++
      ((none : Option ScrapeStats).map ScrapeStats.samples).getD [] =
        interleaved.map Sample.ofObservation := List.append_nil _
  have own : read? (text false (interleaved.map .ofObservation)) = some interleavedBlocks := by
    decide +kernel
  rw [whole, own] at read
  obtain rfl := Option.some.inj read
  exact ⟨own, fun b member => (tells b member).2⟩

end BeanMeter.Exposition
