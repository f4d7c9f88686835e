import DocTree.Proofs.Settings.Places

/-!
# Which value of a setting wins

A loader keeps the files and the overrides that it was asked for apart, so only the order of the
files and the order of the overrides count (`Loader.takeAll_eq`).  What is then put into the tree of
the defaults is followed setting by setting (`Holds`): a file puts in its last single value for a
setting, and of the overrides of a setting only the last one is put in at all.

For files that assign single values to settings and overrides of settings, the value of a setting is
that of its last override, if there is one, else that of the last file that assigns it, else the
default (`winner`).  An override with a table is the exception: without entries it sets nothing.
-/

namespace DocTree
namespace Settings

section Asking

/-- The files that are asked for. -/
def filesOf : List Request → List Layer
  | [] => []
  | .file file :: requests => file :: filesOf requests
  | .override _ _ :: requests => filesOf requests

/-- The overrides that are asked for. -/
def overridesOf : List Request → Except Error (List Override)
  | [] => .ok []
  | .file _ :: requests => overridesOf requests
  | .override key value :: requests =>
      match Path.parse key with
      | .ok path => (overridesOf requests).map (⟨path, value⟩ :: ·)
      | .error error => .error (.malformedPath error)

theorem Loader.takeAll_eq
    (loader : Loader)
    (requests : List Request) :
    loader.takeAll requests = (overridesOf requests).map fun overrides =>
      ⟨loader.files ++ filesOf requests, loader.overrides ++ overrides⟩ := by
  induction requests generalizing loader with
  | nil =>
      obtain ⟨files, overrides⟩ := loader
      simp [takeAll, overridesOf, filesOf, pure, Except.pure, Except.map]
  | cons request requests ih =>
      cases request with
      | file file =>
          change (loader.addFile file).takeAll requests = _
          rw [ih, overridesOf, filesOf, addFile, List.append_assoc, List.singleton_append]
      | override key value =>
          change (loader.setOverride key value >>= fun next => next.takeAll requests) = _
          rw [setOverride, overridesOf, filesOf]
          cases Path.parse key with
          | error error =>
              rfl
          | ok path =>
              change takeAll _ requests = _
              rw [ih]
              cases overridesOf requests with
              | error error =>
                  rfl
              | ok overrides =>
                  simp [Except.map]

theorem filesOf_append
    (front back : List Request) :
    filesOf (front ++ back) = filesOf front ++ filesOf back := by
  induction front with
  | nil =>
      rfl
  | cons request front ih =>
      cases request with
      | file =>
          rw [List.cons_append, filesOf, filesOf, ih, List.cons_append]
      | override =>
          rw [List.cons_append, filesOf, filesOf, ih]

/-- Files do not count among the overrides. -/
theorem overridesOf_file
    (before after : List Request)
    (file : Layer) :
    overridesOf (before ++ .file file :: after) = overridesOf (before ++ after) := by
  induction before with
  | nil =>
      rfl
  | cons request before ih =>
      cases request with
      | file =>
          rw [List.cons_append, overridesOf, ih, List.cons_append, overridesOf]
      | override =>
          rw [List.cons_append, overridesOf, ih, List.cons_append, overridesOf]

theorem mem_filesOf_iff
    {requests : List Request}
    {file : Layer} :
    file ∈ filesOf requests ↔ Request.file file ∈ requests := by
  induction requests with
  | nil =>
      simp [filesOf]
  | cons request requests ih =>
      cases request with
      | file =>
          simp [filesOf, ih]
      | override =>
          simp [filesOf, ih]

end Asking

section Layers

/-- Whether a tree of values has, at the place of each setting, the value that was found for it. -/
def Holds (values : Value) (found : Setting → Value) : Prop :=
  ∀ setting : Setting, values.at? setting.path = some (found setting)

/-- The value that a setting has by default. -/
def Setting.default : Setting → Value
  | table => .ofBool true
  | strikethrough => .ofBool true
  | autolink => .ofBool true
  | tasklist => .ofBool false
  | superscript => .ofBool false
  | frontMatterDelimiter => .ofString "---"
  | listLayout => .ofString "flattened"
  | codeTrim => .ofString "reference"
  | showIds => .ofBool false
  | maxLabel => .ofInt 30
  | diagnostics => .ofBool true

theorem holds_defaults :
    Holds defaults Setting.default := by
  intro setting
  cases setting <;> rfl

theorem layer_eq_putAll
    (values : Value)
    {entries : List (String × Value)}
    (hkeys : ∀ entry ∈ entries, Path.parse entry.1 = .ok [.key entry.1]) :
    layer values entries = .ok (values.putAll entries) := by
  induction entries generalizing values with
  | nil =>
      rfl
  | cons entry entries ih =>
      have hkey := hkeys entry List.mem_cons_self
      have hput : entry.2.setAt? [.key entry.1] values = some (values.put entry.1 entry.2) := by
        rw [Value.setAt?, Value.put_asTable]
      rw [Value.putAll_cons, ← ih _ fun other hother => hkeys other (List.mem_cons_of_mem _ hother)]
      simp only [layer, List.foldlM_cons, hkey, Except.toOption, Option.getD_some, hput, ok_bind]

/-- A file changes the settings for which it has a value. -/
theorem Holds.layer
    {values : Value}
    {found : Setting → Value}
    (h : Holds values found)
    {origin : Option String}
    {entries : List (String × Value)}
    (hassigns : Assigns [] (.table origin entries)) :
    ∃ layered, Settings.layer values entries = .ok layered ∧
      Holds layered fun setting =>
        ((Value.table origin entries).written? setting.path).getD (found setting) := by
  refine ⟨values.putAll entries, layer_eq_putAll values ?_, ?_⟩
  · obtain ⟨_, _, htable, hentries⟩ := Assigns.eq_table hassigns (rfl : Setting.maxLabel.path = _)
    cases htable
    intro entry hentry
    obtain ⟨setting, hstart⟩ := (hentries entry hentry).prefix_path
    exact setting.parse_of_prefix hstart
  · intro setting
    exact hassigns.at?_onto rfl (h setting)

variable (read : FileReader Id)

/-- What is to be read under a path: no file, or a file whose text has some tree of values. -/
inductive Says (path : String) : Option Value → Prop
  | missing (hfind : (findFile read path).run = none) : Says path none
  | present
      {origin text : String}
      {bytes : ByteArray}
      {entries : List (String × Toml.Item)}
      (hfind : (findFile read path).run = some (origin, bytes))
      (htext : String.fromUTF8? bytes = some text)
      (hparse : Toml.parse? text = some entries) :
      Says path (some (.table (some origin) (Value.ofEntries (some origin) entries)))

variable {read}

theorem layerFiles_missing
    (values : Value)
    {file : Layer}
    (files : List Layer)
    (hfind : (findFile read file.path).run = none) :
    (layerFiles read values (file :: files)).run =
      if file.required then .error (.missingFile file.path)
      else (layerFiles read values files).run := by
  rw [layerFiles, Id.run_bind, hfind]
  cases file.required <;> rfl

theorem layerFiles_present
    {values layered : Value}
    {file : Layer}
    (files : List Layer)
    {origin text : String}
    {bytes : ByteArray}
    {entries : List (String × Toml.Item)}
    (hfind : (findFile read file.path).run = some (origin, bytes))
    (htext : String.fromUTF8? bytes = some text)
    (hparse : Toml.parse? text = some entries)
    (hlayer : layer values (Value.ofEntries (some origin) entries) = .ok layered) :
    (layerFiles read values (file :: files)).run = (layerFiles read layered files).run := by
  rw [layerFiles, Id.run_bind, hfind]
  simp only [fileText, htext, layerText, hparse, hlayer]

/-- Files are layered up to the end, unless one that is required is missing. -/
theorem layerFiles_cases
    {contents : String → Option Value}
    {files : List Layer}
    (hcontents : ∀ file ∈ files, Says read file.path (contents file.path))
    (hassigns : ∀ file ∈ files, ∀ value, contents file.path = some value → Assigns [] value)
    {values : Value}
    {found : Setting → Value}
    (h : Holds values found) :
    ((∀ file ∈ files, file.required = true → contents file.path ≠ none) ∧
      ∃ layered, (layerFiles read values files).run = .ok layered ∧
        Holds layered fun setting =>
          (latest? (fun file => (contents file.path).bind (Value.written? setting.path))
            files).getD (found setting)) ∨
    ((∃ file ∈ files, file.required = true ∧ contents file.path = none) ∧
      ∃ error, (layerFiles read values files).run = .error error) := by
  -- every file that is read changes what was found so far
  induction files generalizing values found with
  | nil =>
      exact .inl ⟨by simp, values, rfl, h⟩
  | cons file files ih =>
      replace ih := @ih (fun other hother => hcontents other (List.mem_cons_of_mem _ hother))
        (fun other hother => hassigns other (List.mem_cons_of_mem _ hother))
      have hfile := hcontents file List.mem_cons_self
      have hfits := hassigns file List.mem_cons_self
      simp only [List.forall_mem_cons, List.exists_mem_cons_iff, latest?, Option.getD_or]
      cases hcontent : contents file.path with
      | none =>
          rw [hcontent] at hfile
          obtain ⟨hfind⟩ := hfile
          rw [layerFiles_missing values files hfind]
          cases hrequired : file.required with
          | true =>
              exact .inr ⟨.inl ⟨rfl, rfl⟩, _, rfl⟩
          | false =>
              rcases ih h with ⟨hnone, hlayered⟩ | ⟨hsome, herror⟩
              · exact .inl ⟨⟨by simp, hnone⟩, hlayered⟩
              · exact .inr ⟨.inr hsome, herror⟩
      | some value =>
          rw [hcontent] at hfile
          obtain _ | ⟨hfind, htext, hparse⟩ := hfile
          obtain ⟨layered, hlayer, hholds⟩ := h.layer (hfits _ hcontent)
          rw [layerFiles_present files hfind htext hparse hlayer]
          rcases ih hholds with ⟨hnone, hlayered⟩ | ⟨hsome, herror⟩
          · exact .inl ⟨⟨by simp, hnone⟩, hlayered⟩
          · exact .inr ⟨.inr hsome, herror⟩

end Layers

section Overrides

/-- The value of an override of a setting. -/
def Override.at? (setting : Setting) (override : Override) : Option Value :=
  if override.path = setting.path.map .key then some override.value else none

theorem Override.isSome_at?_iff
    {setting : Setting}
    {override : Override} :
    (override.at? setting).isSome = true ↔ override.path = setting.path.map .key := by
  rw [Override.at?]
  split
  case isTrue hpath =>
    exact ⟨fun _ => hpath, fun _ => rfl⟩
  case isFalse hpath =>
    exact ⟨fun hsome => absurd hsome (by simp), fun h => absurd h hpath⟩

theorem Setting.eq_of_keys
    {setting other : Setting}
    (h : setting.path.map Step.key = other.path.map Step.key) :
    setting = other := by
  have hpath : setting.path = other.path :=
    List.map_injective_iff.mpr (fun _ _ hkey => Step.key.inj hkey) h
  exact Setting.eq_of_path_prefix (hpath ▸ List.prefix_rfl)

/-- An override that is put in changes its own setting only. -/
theorem Holds.setAt?
    {values : Value}
    {found : Setting → Value}
    (h : Holds values found)
    {override : Override}
    {setting : Setting}
    (hpath : override.path = setting.path.map .key) :
    ∃ result, override.value.setAt? override.path values = some result ∧
      Holds result fun other =>
        (override.at? other).elim (found other) fun value => value.onto (found other) := by
  obtain ⟨result, hset, hown, hothers⟩ := Value.exists_setAt?_keys setting.path_ne_nil
    (fun _ hname => Setting.lowercase_of_mem_path hname) (h setting) override.value
  refine ⟨result, hpath ▸ hset, ?_⟩
  intro other
  beta_reduce
  by_cases hsame : other = setting
  · rw [hsame, hown, Override.at?, if_pos hpath, Option.elim_some]
  · have hbelow : ¬ setting.path <+: other.path :=
      fun hstart => hsame (Setting.eq_of_path_prefix hstart).symm
    have habove : ¬ other.path <+: setting.path :=
      fun hstart => hsame (Setting.eq_of_path_prefix hstart)
    have hnone : override.at? other = none := by
      rw [Override.at?, if_neg]
      exact fun heq => hsame (Setting.eq_of_keys (heq.symm.trans hpath))
    rw [hothers other.path hbelow habove, h other, hnone, Option.elim_none]

/-- A later override of the same path makes an override void. -/
theorem latest?_at?_of_later
    {first : Override}
    {rest : List Override}
    (hlater : rest.any (fun later => later.path == first.path) = true)
    (setting : Setting) :
    latest? (Override.at? setting) (first :: rest) = latest? (Override.at? setting) rest := by
  obtain ⟨later, hmem, hsame⟩ := List.any_eq_true.mp hlater
  refine latest?_cons_of_mem hmem fun hgives => ?_
  rw [Override.isSome_at?_iff] at hgives ⊢
  exact (eq_of_beq hsame).trans hgives

theorem at?_eq_none_of_latest?
    {first : Override}
    {rest : List Override}
    (hlater : ¬ rest.any (fun later => later.path == first.path) = true)
    {setting : Setting}
    {value : Value}
    (hrest : latest? (Override.at? setting) rest = some value) :
    first.at? setting = none := by
  obtain ⟨later, hmem, hgives⟩ := exists_of_latest? hrest
  have hpathLater := Override.isSome_at?_iff.mp (Option.isSome_of_eq_some hgives)
  rw [Override.at?, if_neg]
  intro hpathFirst
  refine hlater (List.any_eq_true.mpr ⟨later, hmem, ?_⟩)
  rw [hpathLater, hpathFirst]
  exact beq_self_eq_true _

/-- Of the overrides of a setting only the last one is put in. -/
theorem applyOverrides_holds
    {overrides : List Override}
    (hpaths : ∀ override ∈ overrides, ∃ setting : Setting,
      override.path = setting.path.map .key)
    {values : Value}
    {found : Setting → Value}
    (h : Holds values found) :
    ∃ result, applyOverrides values overrides = .ok result ∧
      Holds result fun setting =>
        (latest? (Override.at? setting) overrides).elim (found setting) fun value =>
          value.onto (found setting) := by
  induction overrides generalizing values found with
  | nil =>
      exact ⟨values, rfl, h⟩
  | cons first rest ih =>
      replace ih := @ih fun other hother => hpaths other (List.mem_cons_of_mem first hother)
      rw [applyOverrides, effective]
      by_cases hlater : rest.any fun later => later.path == first.path
      · rw [if_pos hlater, ← applyOverrides]
        simp only [latest?_at?_of_later hlater]
        exact ih h
      · obtain ⟨setting, hpath⟩ := hpaths first List.mem_cons_self
        obtain ⟨stepped, hset, hstepped⟩ := h.setAt? hpath
        obtain ⟨result, happly, hholds⟩ := ih hstepped
        rw [if_neg hlater, List.foldlM_cons]
        refine ⟨result, ?_, fun other => ?_⟩
        · simp only [hset]
          exact happly
        · rw [hholds other]
          beta_reduce
          rw [latest?]
          cases hrest : latest? (Override.at? other) rest with
          | none =>
              rw [Option.elim_none, Option.none_or]
          | some value =>
              rw [at?_eq_none_of_latest? hlater hrest]
              rfl

end Overrides

section Winning

/-- The value that a file assigns to a setting. -/
def Request.assigned?
    (contents : String → Option Value)
    (setting : Setting) : Request → Option Value
  | .file asked => (contents asked.path).bind (Value.written? setting.path)
  | .override _ _ => none

/-- The value of an override of a setting. -/
def Request.overridden? (setting : Setting) : Request → Option Value
  | .file _ => none
  | .override key value => if key = setting.key then some value else none

/-- The value of a setting: that of its last override, else that of the last file that assigns it,
else the default.  An override with a table counts for its entries, so one without entries does not
count. -/
def winner
    (contents : String → Option Value)
    (requests : List Request)
    (setting : Setting) : Value :=
  let below := (latest? (Request.assigned? contents setting) requests).getD setting.default
  (latest? (Request.overridden? setting) requests).elim below fun value => value.settled below

/-- Whether no file that is required is missing. -/
def Complete (contents : String → Option Value) (requests : List Request) : Prop :=
  ∀ file, Request.file file ∈ requests → file.required = true → contents file.path ≠ none

/-- Requests that are about settings only: every file, as far as there is one, assigns single values
to settings, and every override is one of a setting. -/
structure OnlySettings
    (read : FileReader Id)
    (contents : String → Option Value)
    (requests : List Request) : Prop where
  reads : ∀ file, Request.file file ∈ requests → Says read file.path (contents file.path)
  assigns : ∀ file, Request.file file ∈ requests → ∀ value,
    contents file.path = some value → Assigns [] value
  overrides : ∀ key value, Request.override key value ∈ requests →
    ∃ setting : Setting, key = setting.key

theorem Setting.eq_of_key
    {setting other : Setting}
    (h : setting.key = other.key) :
    setting = other := by
  have hparse := setting.parse_key
  rw [h, other.parse_key] at hparse
  exact (Setting.eq_of_keys (Except.ok.inj hparse)).symm

theorem latest?_assigned?
    (contents : String → Option Value)
    (requests : List Request)
    (setting : Setting) :
    latest? (Request.assigned? contents setting) requests =
      latest? (fun file => (contents file.path).bind (Value.written? setting.path))
        (filesOf requests) := by
  induction requests with
  | nil =>
      rfl
  | cons request requests ih =>
      cases request with
      | file =>
          rw [latest?, ih, filesOf, latest?, Request.assigned?]
      | override =>
          rw [latest?, ih, filesOf, Request.assigned?, Option.or_none]

/-- Overrides of settings are well-formed, and the last one of a setting is that of its path. -/
theorem exists_overridesOf
    {requests : List Request}
    (hoverrides : ∀ key value, Request.override key value ∈ requests →
      ∃ setting : Setting, key = setting.key) :
    ∃ overrides, overridesOf requests = .ok overrides ∧
      (∀ override ∈ overrides, ∃ setting : Setting,
        override.path = setting.path.map .key) ∧
      ∀ setting : Setting, latest? (Request.overridden? setting) requests =
        latest? (Override.at? setting) overrides := by
  induction requests with
  | nil =>
      exact ⟨[], rfl, by simp, fun _ => rfl⟩
  | cons request requests ih =>
      obtain ⟨overrides, hread, hpaths, hlast⟩ := ih fun key value hmem =>
        hoverrides key value (List.mem_cons_of_mem request hmem)
      cases request with
      | file =>
          refine ⟨overrides, hread, hpaths, fun setting => ?_⟩
          rw [latest?, hlast, Request.overridden?, Option.or_none]
      | override key value =>
          obtain ⟨own, rfl⟩ := hoverrides key value List.mem_cons_self
          refine ⟨⟨own.path.map .key, value⟩ :: overrides, ?_, ?_, fun setting => ?_⟩
          · rw [overridesOf, own.parse_key, hread]
            rfl
          · exact List.forall_mem_cons.mpr ⟨⟨own, rfl⟩, hpaths⟩
          · rw [latest?, latest?, hlast, Request.overridden?, Override.at?]
            by_cases hsame : own = setting
            · rw [hsame, if_pos rfl, if_pos rfl]
            · rw [if_neg fun h => hsame (Setting.eq_of_key h),
                if_neg fun h => hsame (Setting.eq_of_keys h)]

/-- Before the overrides every setting has a single value. -/
theorem assigned_eq_scalar
    {contents : String → Option Value}
    {requests : List Request}
    (hassigns : ∀ file, Request.file file ∈ requests → ∀ value,
      contents file.path = some value → Assigns [] value)
    (setting : Setting) :
    ∃ origin data, (latest? (Request.assigned? contents setting) requests).getD
      setting.default = .scalar origin data := by
  cases hlast : latest? (Request.assigned? contents setting) requests with
  | none =>
      cases setting <;> exact ⟨_, _, rfl⟩
  | some value =>
      obtain ⟨request, hmem, hgives⟩ := exists_of_latest? hlast
      cases request with
      | file file =>
          obtain ⟨tree, htree, hwritten⟩ := Option.bind_eq_some_iff.mp hgives
          exact (hassigns file hmem tree htree).written?_eq_scalar rfl hwritten
      | override =>
          contradiction

end Winning

section Converting

/-- Whether a value can be converted to the type of a setting. -/
def Setting.Converts (setting : Setting) (value : Value) : Prop :=
  ∃ settings : Settings, setting.Gives value settings

theorem exists_gives_iff
    {found : Setting → Value} :
    (∃ settings : Settings, ∀ setting : Setting, setting.Gives (found setting) settings) ↔
      ∀ setting : Setting, setting.Converts (found setting) := by
  constructor
  · rintro ⟨settings, hgives⟩ setting
    exact ⟨settings, hgives setting⟩
  · intro hconverts
    choose chosen hchosen using hconverts
    refine ⟨⟨⟨(chosen .table).markdown.table, (chosen .strikethrough).markdown.strikethrough,
      (chosen .autolink).markdown.autolink, (chosen .tasklist).markdown.tasklist,
      (chosen .superscript).markdown.superscript,
      (chosen .frontMatterDelimiter).markdown.frontMatterDelimiter⟩,
      ⟨(chosen .listLayout).build.listLayout, (chosen .codeTrim).build.codeTrim⟩,
      ⟨⟨(chosen .showIds).inspect.treeviz.showIds, (chosen .maxLabel).inspect.treeviz.maxLabel⟩,
        ⟨(chosen .diagnostics).inspect.json.diagnostics⟩⟩⟩, ?_⟩
    intro setting
    have hgives := hchosen setting
    cases setting <;> exact hgives

end Converting

section Building

variable {read : FileReader Id}

theorem run_build
    (loader : Loader) :
    (loader.build read).run = (layerFiles read defaults loader.files).run.bind fun values =>
      (applyOverrides values loader.overrides).bind Value.toSettings :=
  rfl

theorem loadAll_eq
    (read : FileReader Id)
    (requests : List Request) :
    (loadAll read requests).run = (overridesOf requests).bind fun overrides =>
      (Loader.build read ⟨filesOf requests, overrides⟩).run := by
  rw [loadAll, Loader.takeAll_eq]
  cases overridesOf requests with
  | error => rfl
  | ok => rfl

/-- The order between a file and an override does not count. -/
theorem loadAll_swap
    (before after : List Request)
    (file : Layer)
    (key : String)
    (value : Value) :
    (loadAll read (before ++ .file file :: .override key value :: after)).run =
      (loadAll read (before ++ .override key value :: .file file :: after)).run := by
  have hlater : overridesOf (before ++ .override key value :: .file file :: after) =
      overridesOf (before ++ .override key value :: after) := by
    have h := overridesOf_file (before ++ [.override key value]) after file
    rwa [List.append_assoc, List.append_assoc] at h
  have hfiles : filesOf (before ++ .file file :: .override key value :: after) =
      filesOf (before ++ .override key value :: .file file :: after) := by
    simp only [filesOf_append, filesOf]
  rw [loadAll_eq, loadAll_eq, overridesOf_file, hlater, hfiles]

theorem layerFiles_skip
    (values : Value)
    (before after : List Layer)
    {path : String}
    (hfind : (findFile read path).run = none) :
    (layerFiles read values (before ++ ⟨path, false⟩ :: after)).run =
      (layerFiles read values (before ++ after)).run := by
  induction before generalizing values with
  | nil =>
      rw [List.nil_append, layerFiles_missing values after hfind]
      rfl
  | cons file before ih =>
      rw [List.cons_append, List.cons_append, layerFiles, layerFiles, Id.run_bind, Id.run_bind]
      cases fileText file.path (findFile read file.path).run with
      | error error =>
          cases file.required with
          | true => rfl
          | false => exact ih values
      | ok found =>
          obtain ⟨origin, text⟩ := found
          cases hlayer : layerText values origin text with
          | error error =>
              simp only [hlayer]
          | ok layered =>
              simp only [hlayer]
              exact ih layered

/-- An optional file that is missing does not count. -/
theorem loadAll_skip
    (before after : List Request)
    {path : String}
    (hfind : (findFile read path).run = none) :
    (loadAll read (before ++ .file ⟨path, false⟩ :: after)).run =
      (loadAll read (before ++ after)).run := by
  rw [loadAll_eq, loadAll_eq, overridesOf_file, filesOf_append, filesOf, filesOf_append]
  simp only [run_build, layerFiles_skip defaults _ _ hfind]

/-- The settings that are built have the winning values, converted. -/
theorem OnlySettings.build_eq_ok_iff
    {contents : String → Option Value}
    {requests : List Request}
    (h : OnlySettings read contents requests) :
    ∃ loader, Loader.takeAll {} requests = .ok loader ∧
      ∀ settings, (loader.build read).run = .ok settings ↔
        Complete contents requests ∧
        ∀ setting : Setting, setting.Gives (winner contents requests setting) settings := by
  obtain ⟨overrides, hread, hpaths, hlast⟩ := exists_overridesOf h.overrides
  refine ⟨⟨filesOf requests, overrides⟩, ?_, fun settings => ?_⟩
  · rw [Loader.takeAll_eq, hread]
    rfl
  rw [run_build]
  rcases layerFiles_cases (fun file hmem => h.reads file (mem_filesOf_iff.mp hmem))
      (fun file hmem => h.assigns file (mem_filesOf_iff.mp hmem)) holds_defaults with
    ⟨hfound, layered, hlayered, hholds⟩ | ⟨⟨file, hmem, hrequired, hmissing⟩, error, herror⟩
  · obtain ⟨result, happly, hresult⟩ := applyOverrides_holds hpaths hholds
    have hwinner : ∀ setting : Setting,
        result.at? setting.path = some (winner contents requests setting) := by
      intro setting
      rw [hresult setting]
      beta_reduce
      rw [← hlast, ← latest?_assigned?, winner]
      obtain ⟨origin, data, hsingle⟩ := assigned_eq_scalar h.assigns setting
      simp only [hsingle, Value.onto_scalar]
    have hcomplete : Complete contents requests :=
      fun file hmem => hfound file (mem_filesOf_iff.mpr hmem)
    rw [hlayered]
    change (applyOverrides layered overrides).bind Value.toSettings = .ok settings ↔ _
    rw [happly]
    change result.toSettings = .ok settings ↔ _
    rw [toSettings_eq_ok_iff hwinner]
    exact ⟨fun hgives => ⟨hcomplete, hgives⟩, fun hboth => hboth.2⟩
  · rw [herror]
    constructor
    · intro hok
      contradiction
    · rintro ⟨hcomplete, _⟩
      exact absurd hmissing (hcomplete file (mem_filesOf_iff.mp hmem) hrequired)

theorem OnlySettings.loadAll_eq_ok_iff
    {contents : String → Option Value}
    {requests : List Request}
    (h : OnlySettings read contents requests)
    (settings : Settings) :
    (loadAll read requests).run = .ok settings ↔
      Complete contents requests ∧
      ∀ setting : Setting, setting.Gives (winner contents requests setting) settings := by
  obtain ⟨loader, htake, hbuild⟩ := h.build_eq_ok_iff
  rw [loadAll, htake]
  exact hbuild settings

/-- A loader builds settings exactly if no required file is missing and every winning value can be
converted, and then the settings have these values; the one that is a number has no more than 64
bits.  So requests with the same winning values build the same settings; in particular it makes no
difference where an override stands among the files and which optional files are missing. -/
theorem last_writer_wins
    (read : FileReader Id)
    (contents : String → Option Value)
    (requests : List Request)
    (h : OnlySettings read contents requests) :
    (∃ loader, Loader.takeAll {} requests = .ok loader ∧
      (∀ settings, (loader.build read).run = .ok settings ↔
        Complete contents requests ∧
        ∀ setting : Setting, setting.Gives (winner contents requests setting) settings) ∧
      ((∃ settings, (loader.build read).run = .ok settings) ↔
        Complete contents requests ∧
        ∀ setting : Setting, setting.Converts (winner contents requests setting)) ∧
      (∀ settings, (loader.build read).run = .ok settings →
        settings.inspect.treeviz.maxLabel < Text.wordLimit)) ∧
    (∀ (read' : FileReader Id) (contents' : String → Option Value) (requests' : List Request),
      OnlySettings read' contents' requests' →
      (Complete contents' requests' ↔ Complete contents requests) →
      (∀ setting, winner contents' requests' setting = winner contents requests setting) →
      ∀ settings, (loadAll read' requests').run = .ok settings ↔
        (loadAll read requests).run = .ok settings) ∧
    (∀ before after file key value,
      (loadAll read (before ++ .file file :: .override key value :: after)).run =
        (loadAll read (before ++ .override key value :: .file file :: after)).run) ∧
    (∀ before after path, (findFile read path).run = none →
      (loadAll read (before ++ .file ⟨path, false⟩ :: after)).run =
        (loadAll read (before ++ after)).run) := by
  refine ⟨?_, ?_, loadAll_swap, fun before after path hfind => loadAll_skip before after hfind⟩
  · obtain ⟨loader, htake, hbuild⟩ := h.build_eq_ok_iff
    refine ⟨loader, htake, hbuild, ?_, ?_⟩
    · rw [← exists_gives_iff, ← exists_and_left]
      exact exists_congr hbuild
    · intro settings hok
      have hgives := ((hbuild settings).mp hok).2 .maxLabel
      exact Value.lt_of_toWord hgives
  · intro read' contents' requests' h' hcomplete hwinner settings
    rw [h.loadAll_eq_ok_iff, h'.loadAll_eq_ok_iff, hcomplete]
    simp only [hwinner]

/-- What a line with a word for a number says. -/
theorem parse_many_labels :
    (Toml.parse? "inspect.treeviz.max_label = \"many\"\n").any (fun
      | [(group, .table _ [(inner, .table _ [(name, .string s)])])] =>
          [group, inner, name, s] == ["inspect", "treeviz", "max_label", "many"]
      | _ => false) = true := by
  decide +kernel

theorem last_writer_wins_many :
    ∃ loader, Loader.takeAll {}
        [.override "inspect.treeviz.max_label" (.ofInt 12), .file ⟨"mdtree.toml", true⟩] =
          .ok loader ∧
      (Loader.build (m := Id) (fun _ => some "inspect.treeviz.max_label = \"many\"\n".toUTF8)
          loader).run =
        .ok ⟨⟨true, true, true, false, false, "---"⟩, ⟨.flattened, .reference⟩,
          ⟨⟨false, 12⟩, ⟨true⟩⟩⟩ := by
  obtain ⟨entries, hentries, hshape⟩ := (Option.any_eq_true _ _).mp parse_many_labels
  have htree : ∀ origin, Value.ofEntries origin entries =
      [("inspect", .table origin [("treeviz", .table origin
        [("max_label", .scalar origin (.string "many"))])])] := by
    intro origin
    clear hentries
    split at hshape
    · obtain ⟨rfl, rfl, rfl, rfl⟩ :
          _ = "inspect" ∧ _ = "treeviz" ∧ _ = "max_label" ∧ _ = "many" := by
        simpa using hshape
      rfl
    · contradiction
  have hreads : Says (fun _ => some "inspect.treeviz.max_label = \"many\"\n".toUTF8)
      "mdtree.toml" _ :=
    .present rfl (dif_pos (String.isValidUTF8 _)) hentries
  rw [htree] at hreads
  have hfile : ∀ file, Request.file file ∈ [Request.override "inspect.treeviz.max_label"
      (.ofInt 12), .file ⟨"mdtree.toml", true⟩] → file = ⟨"mdtree.toml", true⟩ := by
    simp
  obtain ⟨⟨loader, htake, hbuild, _⟩, _⟩ := last_writer_wins
    (fun _ => some "inspect.treeviz.max_label = \"many\"\n".toUTF8)
    (fun _ => some (.table (some (normalPath "mdtree.toml"))
      [("inspect", .table (some (normalPath "mdtree.toml")) [("treeviz",
        .table (some (normalPath "mdtree.toml")) [("max_label",
          .scalar (some (normalPath "mdtree.toml")) (.string "many"))])])]))
    [.override "inspect.treeviz.max_label" (.ofInt 12), .file ⟨"mdtree.toml", true⟩]
    { reads := fun file hmem => hfile file hmem ▸ hreads
      assigns := by
        intro file _ value hvalue
        obtain rfl := Option.some.inj hvalue
        refine .group _ ⟨.maxLabel, by decide, by decide⟩ (List.forall_mem_singleton.mpr ?_)
        refine .group _ ⟨.maxLabel, by decide, by decide⟩ (List.forall_mem_singleton.mpr ?_)
        refine .group _ ⟨.maxLabel, by decide, by decide⟩ (List.forall_mem_singleton.mpr ?_)
        exact .single .maxLabel _ _
      overrides := by
        intro key value hmem
        have hsame : key = "inspect.treeviz.max_label" ∧ value = .ofInt 12 := by
          simpa using hmem
        exact ⟨.maxLabel, hsame.1⟩ }
  refine ⟨loader, htake, (hbuild _).mpr ⟨fun _ _ _ => Option.some_ne_none _, fun setting => ?_⟩⟩
  cases setting <;> rfl

/-- An override with an empty table leaves the default, though a table is no number. -/
theorem empty_table_leaves_default :
    latest? (Request.overridden? .maxLabel)
        [.override "inspect.treeviz.max_label" .emptyTable] = some .emptyTable ∧
      ¬ Setting.maxLabel.Converts .emptyTable ∧
      ∃ loader, Loader.takeAll {} [.override "inspect.treeviz.max_label" .emptyTable] =
          .ok loader ∧
        (Loader.build (m := Id) (fun _ => none) loader).run =
          .ok ⟨⟨true, true, true, false, false, "---"⟩, ⟨.flattened, .reference⟩,
            ⟨⟨false, 30⟩, ⟨true⟩⟩⟩ := by
  have hfiles : ∀ file, Request.file file ∉
      [Request.override "inspect.treeviz.max_label" .emptyTable] := by
    simp
  have honly : OnlySettings (fun _ => none) (fun _ => none)
      [.override "inspect.treeviz.max_label" .emptyTable] :=
    { reads := fun file hmem => absurd hmem (hfiles file)
      assigns := fun file hmem => absurd hmem (hfiles file)
      overrides := by
        intro key value hmem
        obtain ⟨rfl, rfl⟩ := Request.override.inj (List.mem_singleton.mp hmem)
        exact ⟨.maxLabel, rfl⟩ }
  obtain ⟨loader, htake, hbuild⟩ := honly.build_eq_ok_iff
  refine ⟨rfl, ?_, loader, htake, (hbuild _).mpr ⟨?_, ?_⟩⟩
  · rintro ⟨settings, hgives⟩
    contradiction
  · intro file hmem
    exact absurd hmem (hfiles file)
  · intro setting
    cases setting <;> rfl

end Building

end Settings
end DocTree
