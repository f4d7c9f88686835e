import DocTree.Format.Registry
import Mathlib.Data.String.Basic

/-!
# What a registry knows

A registry is told formats one after the other and is asked for them by name.  Its answers depend on
nothing but the history of what it was told: under a name it has the format that was registered last
under that name.  A registration keeps this true (`Holds.register`), so it is true after any number
of them (`Holds.registerAll`), and all questions to a registry are answered from the history alone.
-/

namespace DocTree
namespace Format

section LastNamed

/-- The format that stands last under a name in a history of registrations. -/
def lastNamed (history : List Format) (name : String) : Option Format :=
  history.reverse.find? (·.name == name)

theorem lastNamed_append_singleton
    (history : List Format)
    (format : Format)
    (name : String) :
    lastNamed (history ++ [format]) name =
      if format.name = name then some format else lastNamed history name := by
  rw [lastNamed, List.reverse_append, List.reverse_singleton, List.singleton_append]
  by_cases h : format.name = name
  · rw [if_pos h, List.find?_cons_of_pos (by simpa using h)]
  · rw [if_neg h, List.find?_cons_of_neg (by simpa using h), lastNamed]

theorem isSome_lastNamed_iff
    {history : List Format}
    {name : String} :
    (lastNamed history name).isSome ↔ ∃ format ∈ history, format.name = name := by
  simp [lastNamed, List.find?_isSome]

end LastNamed

namespace Registry

open Build (Conversion)

section Insert

theorem find?_insert
    (format : Format)
    (formats : List Format)
    (name : String) :
    (insert format formats).find? (·.name == name) =
      if format.name = name then some format else formats.find? (·.name == name) := by
  induction formats with
  | nil =>
      by_cases h : format.name = name <;> simp [insert, h]
  | cons f fs ih =>
      rw [insert]
      split
      case isTrue hless =>
        -- The front is passed by, so it is not what is looked for.
        by_cases h : format.name = name
        · have hne : f.name ≠ name := by
            intro heq
            rw [h, heq] at hless
            exact String.lt_irrefl name hless
          rw [List.find?_cons_of_neg (by simpa using hne), ih, if_pos h, if_pos h]
        · rw [if_neg h, List.find?_cons, List.find?_cons, ih, if_neg h]
      case isFalse =>
        split
        case isTrue hsame =>
          have hname : f.name = format.name := by simpa using hsame
          by_cases h : format.name = name
          · simp [h]
          · simp [h, hname]
        case isFalse =>
          by_cases h : format.name = name <;> simp [h]

theorem mem_insert_names
    {format : Format}
    {formats : List Format}
    {name : String}
    (h : name ∈ (insert format formats).map Format.name) :
    name = format.name ∨ name ∈ formats.map Format.name := by
  induction formats with
  | nil =>
      simpa [insert] using h
  | cons f fs ih =>
      rw [insert] at h
      split at h
      · rcases List.mem_cons.mp h with rfl | hmem
        · exact Or.inr List.mem_cons_self
        · exact (ih hmem).imp_right (List.mem_cons_of_mem _)
      · split at h
        · rcases List.mem_cons.mp h with rfl | hmem
          · exact Or.inl rfl
          · exact Or.inr (List.mem_cons_of_mem _ hmem)
        · exact List.mem_cons.mp h

theorem pairwise_insert_names
    {format : Format}
    {formats : List Format}
    (hordered : (formats.map Format.name).Pairwise (· < ·)) :
    ((insert format formats).map Format.name).Pairwise (· < ·) := by
  induction formats with
  | nil =>
      simp [insert]
  | cons f fs ih =>
      obtain ⟨hfront, hrest⟩ := List.pairwise_cons.mp hordered
      rw [insert]
      split
      case isTrue hless =>
        refine List.pairwise_cons.mpr ⟨?_, ih hrest⟩
        intro name hname
        rcases mem_insert_names hname with rfl | hmem
        · exact hless
        · exact hfront name hmem
      case isFalse hnotLess =>
        split
        case isTrue hsame =>
          have hname : f.name = format.name := by simpa using hsame
          refine List.pairwise_cons.mpr ⟨?_, hrest⟩
          rw [← hname]
          exact hfront
        case isFalse hdifferent =>
          have hne : format.name ≠ f.name := by
            intro heq
            simp [heq] at hdifferent
          have hless : format.name < f.name :=
            lt_of_le_of_ne (not_lt.mp hnotLess) hne
          refine List.pairwise_cons.mpr ⟨?_, hordered⟩
          intro name hname
          rcases List.mem_cons.mp hname with rfl | hmem
          · exact hless
          · exact lt_trans hless (hfront name hmem)

end Insert

section History

/-- Register formats one after the other. -/
def registerAll (registry : Registry) (formats : List Format) : Registry :=
  formats.foldl register registry

/-- A registry has ordered names, and under each name what stands last under it in a history. -/
structure Holds (history : List Format) (registry : Registry) : Prop where
  ordered : registry.names.Pairwise (· < ·)
  last : ∀ name, registry.formats.find? (·.name == name) = lastNamed history name

theorem Holds.empty : Holds [] Registry.empty :=
  ⟨List.Pairwise.nil, fun _ => rfl⟩

/-- One registration adds the format to the history. -/
theorem Holds.register
    {history : List Format}
    {registry : Registry}
    (h : Holds history registry)
    (format : Format) :
    Holds (history ++ [format]) (registry.register format) where
  ordered := pairwise_insert_names h.ordered
  last := by
    intro name
    rw [lastNamed_append_singleton, ← h.last]
    exact find?_insert format registry.formats name

theorem Holds.registerAll
    {history : List Format}
    {registry : Registry}
    (h : Holds history registry)
    (formats : List Format) :
    Holds (history ++ formats) (registry.registerAll formats) := by
  induction formats generalizing history registry with
  | nil =>
      simpa [Registry.registerAll] using h
  | cons format formats ih =>
      simpa [Registry.registerAll] using ih (h.register format)

theorem Holds.builtin : Holds [treevizFormat, jsonFormat] Registry.builtin :=
  Holds.empty.registerAll [treevizFormat, jsonFormat]

end History

section Answers

theorem has_eq_isSome (registry : Registry) (name : String) :
    registry.has name = (registry.formats.find? (·.name == name)).isSome := by
  rw [Bool.eq_iff_iff, has, List.any_eq_true, List.find?_isSome]

theorem has_iff_mem_names
    {registry : Registry}
    {name : String} :
    registry.has name = true ↔ name ∈ registry.names := by
  simp [has, names]

theorem exists_find_iff
    {registry : Registry}
    {name : String} :
    (∃ format, registry.find name = .ok format) ↔ name ∈ registry.names := by
  rw [← has_iff_mem_names, has_eq_isSome, find]
  cases registry.formats.find? (·.name == name) <;> simp

theorem Holds.mem_names_iff
    {history : List Format}
    {registry : Registry}
    (h : Holds history registry)
    {name : String} :
    name ∈ registry.names ↔ ∃ format ∈ history, format.name = name := by
  rw [← has_iff_mem_names, has_eq_isSome, h.last, isSome_lastNamed_iff]

/-- The answer of a registry with a history to the question for a name. -/
def answer (history : List Format) (name : String) : Except Error Format :=
  match lastNamed history name with
  | some format => .ok format
  | none => .error (.formatNotFound name)

theorem Holds.find_eq
    {history : List Format}
    {registry : Registry}
    (h : Holds history registry)
    (name : String) :
    registry.find name = answer history name := by
  rw [find, h.last]
  rfl

theorem Holds.serializeWith_eq
    {history : List Format}
    {registry : Registry}
    (h : Holds history registry)
    (name : String)
    (params : Params)
    (conversion : Conversion) :
    registry.serializeWith name params conversion =
      (answer history name).bind fun format => format.serializeWith params conversion := by
  rw [serializeWith, h.find_eq]
  cases answer history name <;> rfl

/-- A format serializes the same way with no parameters and with none given. -/
def IgnoresAbsence (format : Format) : Prop :=
  ∀ conversion, format.serialize conversion = format.serializeWith Params.empty conversion

theorem ignoresAbsence_treevizFormat : IgnoresAbsence treevizFormat :=
  fun _ => rfl

theorem ignoresAbsence_jsonFormat : IgnoresAbsence jsonFormat :=
  fun _ => rfl

/-- Another name is answered as before a registration. -/
theorem answers_register_of_ne
    (registry : Registry)
    {format : Format}
    {name : String}
    (h : format.name ≠ name) :
    (registry.register format).find name = registry.find name ∧
      (registry.register format).has name = registry.has name := by
  rw [find, find, has_eq_isSome, has_eq_isSome, register, find?_insert, if_neg h]
  exact ⟨rfl, rfl⟩

end Answers

/-- A registry that starts empty or with the built-in formats and then is told any formats: its
names are ordered and are those it started with and those it was told; the three ways of asking for
a name agree; under a name it has the format that came last; and it serializes with that format or
reports that there is none.  Another registration changes no other name.  The built-in formats do
the same with no parameters as without parameters. -/
theorem registry_tells_history
    (start : Registry)
    (initial : List Format)
    (hstart : start = Registry.empty ∧ initial = [] ∨
      start = Registry.builtin ∧ initial = [treevizFormat, jsonFormat])
    (formats : List Format) :
    let registry := start.registerAll formats
    registry.names.Pairwise (· < ·) ∧
      (∀ name, name ∈ registry.names ↔
        name ∈ start.names ∨ ∃ format ∈ formats, format.name = name) ∧
      (∀ name, (registry.has name = true ↔ name ∈ registry.names) ∧
        ((∃ format, registry.find name = .ok format) ↔ name ∈ registry.names)) ∧
      (∀ name, registry.find name = answer (initial ++ formats) name) ∧
      (∀ name params conversion,
        registry.serializeWith name params conversion =
          (answer (initial ++ formats) name).bind fun format =>
            format.serializeWith params conversion) ∧
      (∀ name conversion,
        registry.serialize name conversion =
          registry.serializeWith name Params.empty conversion) ∧
      (∀ format name, format.name ≠ name →
        (name ∈ (registry.register format).names ↔ name ∈ registry.names) ∧
        (registry.register format).has name = registry.has name ∧
        (registry.register format).find name = registry.find name ∧
        ∀ params conversion,
          (registry.register format).serializeWith name params conversion =
            registry.serializeWith name params conversion ∧
          (registry.register format).serialize name conversion =
            registry.serialize name conversion) ∧
      IgnoresAbsence treevizFormat ∧ IgnoresAbsence jsonFormat := by
  have hbegin : Holds initial start := by
    rcases hstart with ⟨rfl, rfl⟩ | ⟨rfl, rfl⟩
    · exact Holds.empty
    · exact Holds.builtin
  have hrun := hbegin.registerAll formats
  refine ⟨hrun.ordered, ?_, fun name => ⟨has_iff_mem_names, exists_find_iff⟩, hrun.find_eq,
    hrun.serializeWith_eq, fun _ _ => rfl, ?_, ignoresAbsence_treevizFormat,
    ignoresAbsence_jsonFormat⟩
  · intro name
    rw [hrun.mem_names_iff, hbegin.mem_names_iff]
    simp only [List.mem_append, or_and_right, exists_or]
  · intro format name hne
    obtain ⟨hfind, hhas⟩ := answers_register_of_ne (start.registerAll formats) hne
    have hserialize : ∀ params conversion,
        ((start.registerAll formats).register format).serializeWith name params conversion =
          (start.registerAll formats).serializeWith name params conversion := by
      intro params conversion
      rw [serializeWith, serializeWith, hfind]
    refine ⟨?_, hhas, hfind, fun params conversion => ⟨hserialize params conversion, ?_⟩⟩
    · rw [← has_iff_mem_names, hhas, has_iff_mem_names]
    · exact hserialize Params.empty conversion

/-- A format may take the place of a built-in one: here the JSON text is given out as the drawing,
and the JSON format is still there. -/
theorem registry_tells_history_replaced :
    let second : Format := { jsonFormat with name := "treeviz" }
    let registry := Registry.builtin.registerAll [second]
    (Registry.builtin = Registry.empty ∧ [treevizFormat, jsonFormat] = [] ∨
      Registry.builtin = Registry.builtin ∧
        [treevizFormat, jsonFormat] = [treevizFormat, jsonFormat]) ∧
      registry.find "treeviz" = .ok second ∧
      registry.find "json" = .ok jsonFormat ∧
      registry.find "count" = .error (.formatNotFound "count") := by
  intro second registry
  have hbuiltin : Registry.builtin = Registry.empty ∧ [treevizFormat, jsonFormat] = [] ∨
      Registry.builtin = Registry.builtin ∧
        [treevizFormat, jsonFormat] = [treevizFormat, jsonFormat] :=
    Or.inr ⟨rfl, rfl⟩
  obtain ⟨_, _, _, hfind, _⟩ := registry_tells_history Registry.builtin _ hbuiltin [second]
  exact ⟨hbuiltin, hfind "treeviz", hfind "json", hfind "count"⟩

end Registry

end Format
end DocTree
