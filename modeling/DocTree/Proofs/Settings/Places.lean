import DocTree.Proofs.Format.Params
import DocTree.Proofs.Settings.Decoding
import DocTree.Proofs.Text.Lowercase
import DocTree.Settings.Load

/-!
# Places of settings after a value is put

A value that is put at a place leaves every other place alone, and what then stands at its own place
depends on the value and on what stood there before (`Value.onto`).  A tree of values that says
something about settings only (`Assigns`) changes, when it is put into another tree, exactly the
settings for which it has a value (`Value.written?`).
-/

namespace DocTree
namespace Settings

section Latest

variable {α β : Type}

/-- What the last element that gives something gives. -/
def latest? (f : α → Option β) : List α → Option β
  | [] => none
  | a :: rest => (latest? f rest).or (f a)

theorem exists_of_latest?
    {f : α → Option β}
    {list : List α}
    {b : β}
    (h : latest? f list = some b) :
    ∃ a ∈ list, f a = some b := by
  induction list with
  | nil =>
      contradiction
  | cons a rest ih =>
      rw [latest?, Option.or_eq_some_iff] at h
      rcases h with hrest | ⟨_, hfirst⟩
      · obtain ⟨later, hlater, hgives⟩ := ih hrest
        exact ⟨later, List.mem_cons_of_mem a hlater, hgives⟩
      · exact ⟨a, List.mem_cons_self, hfirst⟩

theorem isSome_latest?
    {f : α → Option β}
    {list : List α}
    {a : α}
    (hmem : a ∈ list)
    (h : (f a).isSome = true) :
    (latest? f list).isSome = true := by
  induction list with
  | nil =>
      contradiction
  | cons b rest ih =>
      rw [latest?, Option.isSome_or, Bool.or_eq_true]
      rcases List.mem_cons.mp hmem with rfl | hrest
      · exact .inr h
      · exact .inl (ih hrest)

/-- What the front gives does not count if it gives something only when a later element does. -/
theorem latest?_cons_of_mem
    {f : α → Option β}
    {a later : α}
    {rest : List α}
    (hmem : later ∈ rest)
    (h : (f a).isSome = true → (f later).isSome = true) :
    latest? f (a :: rest) = latest? f rest := by
  rw [latest?]
  cases ha : f a with
  | none =>
      exact Option.or_none
  | some b =>
      rw [ha] at h
      exact Option.or_of_isSome (isSome_latest? hmem (h rfl))

end Latest

namespace Value

section Entries

theorem lookup_replaceEntry
    (key name : String)
    (value : Value)
    (entries : List (String × Value)) :
    (replaceEntry key value entries).lookup name =
      if name = key then some value else entries.lookup name := by
  induction entries with
  | nil =>
      rw [replaceEntry, Format.Params.lookup_cons_eq_ite]
  | cons entry entries ih =>
      obtain ⟨front, old⟩ := entry
      rw [replaceEntry]
      by_cases hfront : front = key
      · rw [if_pos (by simpa using hfront), Format.Params.lookup_cons_eq_ite,
          Format.Params.lookup_cons_eq_ite, hfront]
        by_cases h : name = key
        · rw [if_pos h, if_pos h]
        · rw [if_neg h, if_neg h, if_neg h]
      · rw [if_neg (by simpa using hfront), Format.Params.lookup_cons_eq_ite,
          Format.Params.lookup_cons_eq_ite, ih]
        by_cases h : name = key
        · rw [if_pos h, if_pos h, if_neg (fun heq => hfront (heq.symm.trans h))]
        · rw [if_neg h, if_neg h]

theorem at?_asTable
    (value : Value)
    (name : String)
    (path : List String) :
    value.asTable.at? (name :: path) = value.at? (name :: path) := by
  cases value with
  | scalar => rfl
  | array => rfl
  | table => rfl

theorem withEntry_asTable
    (value inner : Value)
    (key : String) :
    value.asTable.withEntry key inner = value.withEntry key inner := by
  cases value with
  | scalar => rfl
  | array => rfl
  | table => rfl

theorem asTable_eq_table
    (value : Value) :
    ∃ origin entries, value.asTable = table origin entries := by
  cases value with
  | scalar => exact ⟨none, [], rfl⟩
  | array => exact ⟨none, [], rfl⟩
  | table origin entries => exact ⟨origin, entries, rfl⟩

theorem at?_withEntry
    (value inner : Value)
    (key name : String)
    (path : List String) :
    (value.withEntry key inner).at? (name :: path) =
      if name = Text.lowercase key then inner.at? path else value.at? (name :: path) := by
  obtain ⟨origin, entries, htable⟩ := asTable_eq_table value
  rw [← at?_asTable value, withEntry, htable, at?, at?, lookup_replaceEntry]
  by_cases h : name = Text.lowercase key
  · rw [if_pos h, if_pos h, Option.bind_some]
  · rw [if_neg h, if_neg h]

/-- What stands under a key stands under its lower case. -/
theorem entry?_eq_at?
    (value : Value)
    (key : String) :
    value.entry? key = value.at? [Text.lowercase key] := by
  cases value with
  | scalar => rfl
  | array => rfl
  | table _ entries =>
      rw [at?, entry?]
      cases entries.lookup (Text.lowercase key) <;> rfl

end Entries

section Putting

/-- What stands at a place after a value is put there, over what stood there before. -/
def onto (value below : Value) : Value :=
  match value with
  | table _ entries => below.putAll entries
  | other => other

theorem put_eq_withEntry
    (target : Value)
    (key : String)
    (value : Value) :
    target.put key value =
      target.withEntry key (value.onto ((target.at? [Text.lowercase key]).getD emptyTable)) := by
  rw [← entry?_eq_at?]
  cases value with
  | scalar =>
      rw [put]
      rfl
  | array =>
      rw [put]
      rfl
  | table =>
      rw [put]
      rfl

theorem put_asTable
    (target : Value)
    (key : String)
    (value : Value) :
    target.asTable.put key value = target.put key value := by
  rw [put_eq_withEntry, put_eq_withEntry, withEntry_asTable, at?_asTable]

theorem putAll_cons
    (target : Value)
    (entry : String × Value)
    (entries : List (String × Value)) :
    target.putAll (entry :: entries) = (target.put entry.1 entry.2).putAll entries := by
  rw [putAll, putEntry]

theorem at?_put
    (target : Value)
    (key name : String)
    (value : Value)
    (path : List String) :
    (target.put key value).at? (name :: path) =
      if name = Text.lowercase key then
        (value.onto ((target.at? [name]).getD emptyTable)).at? path
      else target.at? (name :: path) := by
  rw [put_eq_withEntry, at?_withEntry]
  by_cases h : name = Text.lowercase key
  · rw [if_pos h, if_pos h, h]
  · rw [if_neg h, if_neg h]

/-- What stands at a place after entries are put into a table, if it is known what each of them
writes there. -/
theorem at?_putAll
    {path : List String}
    {writes : String × Value → Option Value}
    {entries : List (String × Value)}
    (hput : ∀ entry ∈ entries, ∀ target old : Value, target.at? path = some old →
      (target.put entry.1 entry.2).at? path = some ((writes entry).getD old))
    {target old : Value}
    (hold : target.at? path = some old) :
    (target.putAll entries).at? path = some ((latest? writes entries).getD old) := by
  induction entries generalizing target old with
  | nil =>
      exact hold
  | cons entry entries ih =>
      rw [putAll_cons, latest?, Option.getD_or]
      exact ih (fun other hother => hput other (List.mem_cons_of_mem entry hother))
        (hput entry List.mem_cons_self target old hold)

/-- An entry that is replaced changes what is changed inside of it. -/
theorem at?_withEntry_of_not_prefix
    {target inner result : Value}
    {name : String}
    {names : List String}
    (hname : Text.lowercase name = name)
    (hinner : target.at? [name] = some inner)
    (hresult : ∀ path : List String, ¬ names <+: path → ¬ path <+: names →
      result.at? path = inner.at? path)
    {path : List String}
    (hbelow : ¬ name :: names <+: path)
    (habove : ¬ path <+: name :: names) :
    (target.withEntry name result).at? path = target.at? path := by
  cases path with
  | nil =>
      exact absurd List.nil_prefix habove
  | cons front path =>
      rw [at?_withEntry, hname]
      by_cases h : front = name
      · subst h
        rw [List.prefix_cons_inj] at hbelow habove
        rw [if_pos rfl, at?_cons_of_at? hinner, hresult path hbelow habove]
      · rw [if_neg h]

/-- Setting a value at the end of a path of keys. -/
theorem exists_setAt?_keys
    {names : List String}
    (hnames : names ≠ [])
    (hlow : ∀ name ∈ names, Text.lowercase name = name)
    {target old : Value}
    (hold : target.at? names = some old)
    (value : Value) :
    ∃ result, setAt? value (names.map .key) target = some result ∧
      result.at? names = some (value.onto old) ∧
      ∀ path : List String, ¬ names <+: path → ¬ path <+: names →
        result.at? path = target.at? path := by
  induction names generalizing target with
  | nil =>
      contradiction
  | cons name names ih =>
      obtain ⟨inner, hinner, hold⟩ := exists_of_at? hold
      have hname : Text.lowercase name = name := hlow name List.mem_cons_self
      cases names with
      | nil =>
          obtain rfl : inner = old := Option.some.inj hold
          refine ⟨target.withEntry name (value.onto inner), ?_, ?_, fun path hbelow habove => ?_⟩
          · rw [List.map_cons, List.map_nil, setAt?, put_asTable, put_eq_withEntry, hname,
              hinner, Option.getD_some]
          · rw [at?_withEntry, if_pos hname.symm, at?]
          · exact at?_withEntry_of_not_prefix hname hinner
              (fun _ hnil => absurd List.nil_prefix hnil) hbelow habove
      | cons next names =>
          obtain ⟨result, hset, hown, hothers⟩ := ih (List.cons_ne_nil _ _)
            (fun other hother => hlow other (List.mem_cons_of_mem _ hother)) hold
          refine ⟨target.withEntry name result, ?_, ?_, fun path hbelow habove => ?_⟩
          · have hentry : target.entry? name = some inner := by
              rw [entry?_eq_at?, hname, hinner]
            rw [List.map_cons, List.map_cons, setAt?, hentry, Option.getD_some,
              ← List.map_cons, hset, Option.map_some]
            simp
          · rw [at?_withEntry, if_pos hname.symm, hown]
          · exact at?_withEntry_of_not_prefix hname hinner hothers hbelow habove

/-- What a value that is put at a place leaves of a single value that stood there.  A table without
entries leaves it; any other table makes a new table of its entries. -/
def settled (value below : Value) : Value :=
  match value with
  | table _ [] => below
  | table _ (entry :: entries) => emptyTable.putAll (entry :: entries)
  | other => other

theorem onto_scalar
    (value : Value)
    (origin : Option String)
    (data : Scalar) :
    value.onto (scalar origin data) = value.settled (scalar origin data) := by
  cases value with
  | scalar => rfl
  | array => rfl
  | table _ entries =>
      cases entries with
      | nil =>
          rfl
      | cons entry entries =>
          change putAll _ _ = putAll _ _
          rw [putAll_cons, putAll_cons, ← put_asTable]
          rfl

end Putting

end Value

section Names

variable {setting other : Setting}

/-- The text of the path to a setting. -/
def Setting.key (setting : Setting) : String :=
  ".".intercalate setting.path

theorem Setting.parse_key (setting : Setting) :
    Path.parse setting.key = .ok (setting.path.map .key) := by
  cases setting <;> rfl

theorem Setting.path_ne_nil (setting : Setting) :
    setting.path ≠ [] := by
  cases setting <;> exact List.cons_ne_nil _ _

theorem Setting.lowercase_of_mem_path
    {name : String}
    (hname : name ∈ setting.path) :
    Text.lowercase name = name := by
  have hall : ∀ name ∈ setting.path, Text.isPlainLower name = true := by
    cases setting <;> decide
  exact Text.lowercase_eq_self (hall name hname)

/-- No setting stands inside of another one. -/
theorem Setting.eq_of_path_prefix
    (h : setting.path <+: other.path) :
    setting = other := by
  cases setting <;> cases other <;> first | rfl | exact absurd h (by decide)

theorem Setting.parse_of_prefix
    {name : String}
    (h : [name] <+: setting.path) :
    Path.parse name = .ok [.key name] := by
  have hhead : setting.path.head? = some name := by
    obtain ⟨rest, hrest⟩ := h
    rw [← hrest]
    rfl
  cases setting <;> cases hhead <;> rfl

end Names

section Trees

/-- A tree of values in which single values stand at the places of settings and nothing else stands
but the tables around them.  A table may lack any of its settings. -/
inductive Assigns : List String → Value → Prop
  | single
      (setting : Setting)
      (origin : Option String)
      (data : Scalar) :
      Assigns setting.path (.scalar origin data)
  | group
      {path : List String}
      (origin : Option String)
      {entries : List (String × Value)}
      (hpath : ∃ setting : Setting, path <+: setting.path ∧ path ≠ setting.path)
      (hentries : ∀ entry ∈ entries, Assigns (path ++ [entry.1]) entry.2) :
      Assigns path (.table origin entries)

/-- The last single value at the end of a path. -/
def Value.written? : List String → Value → Option Value
  | [], value => some value
  | name :: path, .table _ entries =>
      latest? (fun entry => if entry.1 = name then written? path entry.2 else none) entries
  | _ :: _, _ => none

theorem Assigns.prefix_path
    {path : List String}
    {value : Value}
    (h : Assigns path value) :
    ∃ setting : Setting, path <+: setting.path := by
  cases h with
  | single setting =>
      exact ⟨setting, List.prefix_rfl⟩
  | group origin hpath =>
      obtain ⟨setting, hstart, _⟩ := hpath
      exact ⟨setting, hstart⟩

theorem Assigns.eq_scalar
    {setting : Setting}
    {value : Value}
    (h : Assigns setting.path value) :
    ∃ origin data, value = .scalar origin data := by
  generalize hpath : setting.path = path at h
  cases h with
  | single _ origin data =>
      exact ⟨origin, data, rfl⟩
  | group origin hinside =>
      obtain ⟨outer, hstart, hne⟩ := hinside
      obtain rfl : setting = outer := Setting.eq_of_path_prefix (hpath ▸ hstart)
      exact absurd hpath.symm hne

theorem Assigns.eq_table
    {setting : Setting}
    {path : List String}
    {name : String}
    {rest : List String}
    {value : Value}
    (h : Assigns path value)
    (hpath : setting.path = path ++ name :: rest) :
    ∃ origin entries, value = .table origin entries ∧
      ∀ entry ∈ entries, Assigns (path ++ [entry.1]) entry.2 := by
  cases h with
  | single inner origin data =>
      have hstart : inner.path <+: setting.path := ⟨name :: rest, hpath.symm⟩
      obtain rfl := Setting.eq_of_path_prefix hstart
      simp at hpath
  | group origin _ hentries =>
      exact ⟨origin, _, rfl, hentries⟩

theorem Assigns.lowercase
    {path : List String}
    {name : String}
    {value : Value}
    (h : Assigns (path ++ [name]) value) :
    Text.lowercase name = name := by
  obtain ⟨setting, hstart⟩ := h.prefix_path
  exact Setting.lowercase_of_mem_path (hstart.subset (by simp))

/-- A value that a tree writes at the place of a setting is a single one. -/
theorem Assigns.written?_eq_scalar
    {setting : Setting}
    {path rest : List String}
    {value found : Value}
    (h : Assigns path value)
    (hpath : setting.path = path ++ rest)
    (hfound : value.written? rest = some found) :
    ∃ origin data, found = .scalar origin data := by
  induction rest generalizing path value with
  | nil =>
      rw [List.append_nil] at hpath
      obtain rfl : value = found := Option.some.inj hfound
      exact Assigns.eq_scalar (hpath ▸ h)
  | cons name rest ih =>
      obtain ⟨_, entries, rfl, hentries⟩ := h.eq_table hpath
      obtain ⟨entry, hentry, hgives⟩ := exists_of_latest? hfound
      by_cases hsame : entry.1 = name
      · rw [if_pos hsame] at hgives
        refine ih (hentries entry hentry) ?_ hgives
        rw [hsame, hpath, List.append_assoc]
        rfl
      · rw [if_neg hsame] at hgives
        contradiction

/-- What stands at the place of a setting after a tree is put over another one. -/
theorem Assigns.at?_onto
    {setting : Setting}
    {path rest : List String}
    {value below old : Value}
    (h : Assigns path value)
    (hpath : setting.path = path ++ rest)
    (hold : below.at? rest = some old) :
    (value.onto below).at? rest = some ((value.written? rest).getD old) := by
  -- the rest of the path is read off, and the tree and what lies below it shrink with it
  induction rest generalizing path value below old with
  | nil =>
      rw [List.append_nil] at hpath
      obtain ⟨origin, data, rfl⟩ := Assigns.eq_scalar (hpath ▸ h)
      rfl
  | cons name rest ih =>
      obtain ⟨origin, entries, rfl, hentries⟩ := h.eq_table hpath
      rw [Value.onto, Value.written?]
      refine Value.at?_putAll ?_ hold
      intro entry hentry target old hold
      have hinner := hentries entry hentry
      rw [Value.at?_put, hinner.lowercase]
      by_cases hsame : entry.1 = name
      · obtain ⟨outer, houter, hold⟩ := Value.exists_of_at? hold
        rw [if_pos hsame.symm, if_pos hsame, houter, Option.getD_some]
        refine ih hinner ?_ hold
        rw [hsame, hpath, List.append_assoc]
        rfl
      · rw [if_neg (Ne.symm hsame), if_neg hsame, hold]
        rfl

end Trees

end Settings
end DocTree
