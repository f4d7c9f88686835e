import DocTree.Settings.Decode
import Mathlib.Data.List.Basic

/-!
# When values are settings

The settings are eleven single values, each at a place of its own in the tree of values
(`Setting.path`).  If something stands at each of these places, the tree is read as settings exactly
if every one of the eleven values can be converted to the type that its setting needs, and then each
setting has its converted value (`toSettings_eq_ok_iff`).  The one that is a number has no more than
64 bits (`Value.lt_of_toWord`).
-/

namespace DocTree
namespace Settings

section Chains

variable {ε α β : Type}

theorem bind_eq_ok_iff
    {x : Except ε α}
    {f : α → Except ε β}
    {result : β} :
    x >>= f = .ok result ↔ ∃ a, x = .ok a ∧ f a = .ok result := by
  cases x with
  | error e =>
      simp [bind, Except.bind]
  | ok a =>
      simp [bind, Except.bind]

theorem ok_bind
    (a : α)
    (f : α → Except ε β) :
    Except.ok a >>= f = f a :=
  rfl

theorem pure_eq_ok_iff
    {a result : α} :
    (pure a : Except ε α) = .ok result ↔ a = result := by
  simp [pure, Except.pure]

end Chains

namespace Value

section Places

/-- The value at the end of a path of names. -/
def at? : List String → Value → Option Value
  | [], value => some value
  | name :: path, .table _ entries => (entries.lookup name).bind (at? path)
  | _ :: _, _ => none

theorem at?_cons
    (value : Value)
    (name : String)
    (path : List String) :
    value.at? (name :: path) = (value.at? [name]).bind (at? path) := by
  cases value with
  | scalar => rfl
  | array => rfl
  | table _ entries =>
      rw [at?, at?]
      cases entries.lookup name <;> rfl

theorem exists_of_at?
    {value inner : Value}
    {name : String}
    {path : List String}
    (h : value.at? (name :: path) = some inner) :
    ∃ outer, value.at? [name] = some outer ∧ outer.at? path = some inner := by
  rw [at?_cons] at h
  exact Option.bind_eq_some_iff.mp h

theorem at?_cons_of_at?
    {value outer : Value}
    {name : String}
    (h : value.at? [name] = some outer)
    (path : List String) :
    value.at? (name :: path) = outer.at? path := by
  rw [at?_cons, h, Option.bind_some]

end Places

section Fields

variable {α β : Type}

theorem table_of_at?
    {value inner : Value}
    {name : String}
    (h : value.at? [name] = some inner) :
    ∃ origin entries, value = .table origin entries ∧ entries.lookup name = some inner := by
  cases value with
  | scalar => contradiction
  | array => contradiction
  | table origin entries =>
      obtain ⟨outer, houter, hinner⟩ := Option.bind_eq_some_iff.mp h
      exact ⟨origin, entries, rfl, houter.trans hinner⟩

theorem checkGroup_of_at?
    {value inner : Value}
    {key : String}
    (h : value.at? [key] = some inner)
    (group : Group) :
    value.checkGroup group = .ok () := by
  obtain ⟨_, _, rfl, _⟩ := table_of_at? h
  rfl

/-- A setting that is there is converted, and then the reading goes on with it. -/
theorem decode?_bind_eq_ok_iff
    {value inner : Value}
    {name : String}
    (h : value.at? [name] = some inner)
    {group : Group}
    {convert : Value → Except Error α}
    {next : Option α → Except Error β}
    {result : β} :
    value.decode? group name convert >>= next = .ok result ↔
      ∃ a, convert inner = .ok a ∧ next (some a) = .ok result := by
  obtain ⟨origin, entries, rfl, hlookup⟩ := table_of_at? h
  rw [decode?, field?, hlookup]
  cases hconvert : convert inner with
  | error e =>
      simp [hconvert, Except.mapError, Except.map, bind, Except.bind]
  | ok a =>
      simp [hconvert, Except.mapError, Except.map, bind, Except.bind]

/-- A setting that was found meets the demand for it. -/
theorem demand_some
    (group : Group)
    (value : Value)
    (name : String)
    (a : α) :
    value.demand group name (some a) = .ok a :=
  rfl

end Fields

section Groups

theorem toMarkdown_eq_ok_iff
    {value table strikethrough autolink tasklist superscript delimiter : Value}
    (htable : value.at? ["table"] = some table)
    (hstrikethrough : value.at? ["strikethrough"] = some strikethrough)
    (hautolink : value.at? ["autolink"] = some autolink)
    (htasklist : value.at? ["tasklist"] = some tasklist)
    (hsuperscript : value.at? ["superscript"] = some superscript)
    (hdelimiter : value.at? ["front_matter_delimiter"] = some delimiter)
    {settings : MarkdownSettings} :
    value.toMarkdown = .ok settings ↔
      table.toBool = .ok settings.table ∧
      strikethrough.toBool = .ok settings.strikethrough ∧
      autolink.toBool = .ok settings.autolink ∧
      tasklist.toBool = .ok settings.tasklist ∧
      superscript.toBool = .ok settings.superscript ∧
      delimiter.toText = .ok settings.frontMatterDelimiter := by
  simp only [toMarkdown, checkGroup_of_at? htable, ok_bind,
    decode?_bind_eq_ok_iff htable, decode?_bind_eq_ok_iff hstrikethrough,
    decode?_bind_eq_ok_iff hautolink, decode?_bind_eq_ok_iff htasklist,
    decode?_bind_eq_ok_iff hsuperscript,
    decode?_bind_eq_ok_iff hdelimiter, demand_some, pure_eq_ok_iff]
  constructor
  · rintro ⟨t, ht, s, hs, a, ha, k, hk, p, hp, d, hd, rfl⟩
    exact ⟨ht, hs, ha, hk, hp, hd⟩
  · rintro ⟨ht, hs, ha, hk, hp, hd⟩
    exact ⟨_, ht, _, hs, _, ha, _, hk, _, hp, _, hd, rfl⟩

theorem toBuild_eq_ok_iff
    {value layout trim : Value}
    (hlayout : value.at? ["list_layout"] = some layout)
    (htrim : value.at? ["code_trim"] = some trim)
    {options : Build.Options} :
    value.toBuild = .ok options ↔
      layout.toListLayout = .ok options.listLayout ∧ trim.toCodeTrim = .ok options.codeTrim := by
  simp only [toBuild, checkGroup_of_at? hlayout, ok_bind,
    decode?_bind_eq_ok_iff hlayout, decode?_bind_eq_ok_iff htrim,
    demand_some, pure_eq_ok_iff]
  constructor
  · rintro ⟨l, hl, t, ht, rfl⟩
    exact ⟨hl, ht⟩
  · rintro ⟨hl, ht⟩
    exact ⟨_, hl, _, ht, rfl⟩

theorem toTreeviz_eq_ok_iff
    {value showIds maxLabel : Value}
    (hshowIds : value.at? ["show_ids"] = some showIds)
    (hmaxLabel : value.at? ["max_label"] = some maxLabel)
    {settings : TreevizSettings} :
    value.toTreeviz = .ok settings ↔
      showIds.toBool = .ok settings.showIds ∧ maxLabel.toWord = .ok settings.maxLabel := by
  simp only [toTreeviz, checkGroup_of_at? hshowIds, ok_bind,
    decode?_bind_eq_ok_iff hshowIds, decode?_bind_eq_ok_iff hmaxLabel,
    demand_some, pure_eq_ok_iff]
  constructor
  · rintro ⟨s, hs, l, hl, rfl⟩
    exact ⟨hs, hl⟩
  · rintro ⟨hs, hl⟩
    exact ⟨_, hs, _, hl, rfl⟩

theorem toJson_eq_ok_iff
    {value diagnostics : Value}
    (hdiagnostics : value.at? ["diagnostics"] = some diagnostics)
    {settings : JsonSettings} :
    value.toJson = .ok settings ↔ diagnostics.toBool = .ok settings.diagnostics := by
  simp only [toJson, checkGroup_of_at? hdiagnostics, ok_bind,
    decode?_bind_eq_ok_iff hdiagnostics, demand_some, pure_eq_ok_iff]
  constructor
  · rintro ⟨d, hd, rfl⟩
    exact hd
  · intro hd
    exact ⟨_, hd, rfl⟩

theorem toInspect_eq_ok_iff
    {value treeviz json : Value}
    (htreeviz : value.at? ["treeviz"] = some treeviz)
    (hjson : value.at? ["json"] = some json)
    {settings : InspectSettings} :
    value.toInspect = .ok settings ↔
      treeviz.toTreeviz = .ok settings.treeviz ∧ json.toJson = .ok settings.json := by
  simp only [toInspect, checkGroup_of_at? htreeviz, ok_bind,
    decode?_bind_eq_ok_iff htreeviz, decode?_bind_eq_ok_iff hjson,
    demand_some, pure_eq_ok_iff]
  constructor
  · rintro ⟨t, ht, j, hj, rfl⟩
    exact ⟨ht, hj⟩
  · rintro ⟨ht, hj⟩
    exact ⟨_, ht, _, hj, rfl⟩

theorem toSettings_eq_ok_iff_groups
    {value markdown build inspect : Value}
    (hmarkdown : value.at? ["markdown"] = some markdown)
    (hbuild : value.at? ["build"] = some build)
    (hinspect : value.at? ["inspect"] = some inspect)
    {settings : Settings} :
    value.toSettings = .ok settings ↔
      markdown.toMarkdown = .ok settings.markdown ∧ build.toBuild = .ok settings.build ∧
        inspect.toInspect = .ok settings.inspect := by
  simp only [toSettings, checkGroup_of_at? hmarkdown, ok_bind,
    decode?_bind_eq_ok_iff hmarkdown, decode?_bind_eq_ok_iff hbuild,
    decode?_bind_eq_ok_iff hinspect, demand_some, pure_eq_ok_iff]
  constructor
  · rintro ⟨m, hm, b, hb, i, hi, rfl⟩
    exact ⟨hm, hb, hi⟩
  · rintro ⟨hm, hb, hi⟩
    exact ⟨_, hm, _, hb, _, hi, rfl⟩

end Groups

end Value

section Numbers

theorem readWord?_lt
    {s : String}
    {n : Nat}
    (h : Text.readWord? s = some n) :
    n < Text.wordLimit := by
  rw [Text.readWord?] at h
  obtain ⟨_, hlimit⟩ := Option.filter_eq_some_iff.mp h
  simpa using hlimit

theorem toWord_lt_wordLimit (x : Binary64) :
    x.toWord < Text.wordLimit := by
  have hpos : 0 < Text.wordLimit := by decide
  unfold Binary64.toWord
  split
  · exact Nat.lt_of_le_of_lt (Nat.min_le_left _ _) (Nat.sub_one_lt_of_lt hpos)
  · exact Nat.sub_one_lt_of_lt hpos
  · exact hpos

/-- Whatever is read as a number without a sign has no more than 64 bits. -/
theorem Value.lt_of_toWord
    {value : Value}
    {n : Nat}
    (h : value.toWord = .ok n) :
    n < Text.wordLimit := by
  have hone : 1 < Text.wordLimit := by decide
  unfold toWord at h
  split at h
  case h_1 origin b =>
    rw [← Except.ok.inj h]
    exact Nat.lt_of_le_of_lt b.toNat_le hone
  case h_2 origin k =>
    split at h
    case isTrue hfits =>
      rw [Bool.and_eq_true, decide_eq_true_iff, decide_eq_true_iff] at hfits
      rw [← Except.ok.inj h]
      omega
    case isFalse =>
      contradiction
  case h_3 origin x =>
    rw [← Except.ok.inj h]
    exact toWord_lt_wordLimit x
  case h_4 origin s =>
    -- The words for a truth value stand for one and zero; any other text has to be a number.
    dsimp only at h
    split at h
    case isTrue =>
      rw [← Except.ok.inj h]
      exact hone
    case isFalse =>
      split at h
      case isTrue =>
        rw [← Except.ok.inj h]
        exact Nat.zero_lt_of_lt hone
      case isFalse =>
        split at h
        case h_1 m hm =>
          rw [← Except.ok.inj h]
          exact readWord?_lt hm
        case h_2 =>
          contradiction
  case h_5 =>
    contradiction

-- The first number that needs more than 64 bits is refused.
example :
    (Value.ofInt 18446744073709551616).toWord =
      .error (.wrongType (.scalar (.integer (.signed128 18446744073709551616))) .word "" none) := by
  rfl

end Numbers

section Single

/-- A single setting. -/
inductive Setting
  | table
  | strikethrough
  | autolink
  | tasklist
  | superscript
  | frontMatterDelimiter
  | listLayout
  | codeTrim
  | showIds
  | maxLabel
  | diagnostics
deriving DecidableEq, Repr

/-- The names of the groups around a setting and its own name. -/
def Setting.path : Setting → List String
  | table => ["markdown", "table"]
  | strikethrough => ["markdown", "strikethrough"]
  | autolink => ["markdown", "autolink"]
  | tasklist => ["markdown", "tasklist"]
  | superscript => ["markdown", "superscript"]
  | frontMatterDelimiter => ["markdown", "front_matter_delimiter"]
  | listLayout => ["build", "list_layout"]
  | codeTrim => ["build", "code_trim"]
  | showIds => ["inspect", "treeviz", "show_ids"]
  | maxLabel => ["inspect", "treeviz", "max_label"]
  | diagnostics => ["inspect", "json", "diagnostics"]

/-- Whether a value is converted to what settings have for a single setting. -/
def Setting.Gives (setting : Setting) (value : Value) (settings : Settings) : Prop :=
  match setting with
  | table => value.toBool = .ok settings.markdown.table
  | strikethrough => value.toBool = .ok settings.markdown.strikethrough
  | autolink => value.toBool = .ok settings.markdown.autolink
  | tasklist => value.toBool = .ok settings.markdown.tasklist
  | superscript => value.toBool = .ok settings.markdown.superscript
  | frontMatterDelimiter => value.toText = .ok settings.markdown.frontMatterDelimiter
  | listLayout => value.toListLayout = .ok settings.build.listLayout
  | codeTrim => value.toCodeTrim = .ok settings.build.codeTrim
  | showIds => value.toBool = .ok settings.inspect.treeviz.showIds
  | maxLabel => value.toWord = .ok settings.inspect.treeviz.maxLabel
  | diagnostics => value.toBool = .ok settings.inspect.json.diagnostics

theorem toSettings_eq_ok_iff
    {value : Value}
    {found : Setting → Value}
    (h : ∀ setting : Setting, value.at? setting.path = some (found setting))
    {settings : Settings} :
    value.toSettings = .ok settings ↔
      ∀ setting : Setting, setting.Gives (found setting) settings := by
  obtain ⟨markdown, hmarkdown, _⟩ := Value.exists_of_at? (h .table)
  obtain ⟨build, hbuild, _⟩ := Value.exists_of_at? (h .listLayout)
  obtain ⟨inspect, hinspect, hshowIds⟩ := Value.exists_of_at? (h .showIds)
  have hbelow : ∀ {group : String} {outer : Value}, value.at? [group] = some outer →
      ∀ (setting : Setting) {path : List String}, setting.path = group :: path →
        outer.at? path = some (found setting) := by
    intro group outer houter setting path hpath
    rw [← Value.at?_cons_of_at? houter, ← hpath, h]
  obtain ⟨treeviz, htreeviz, _⟩ := Value.exists_of_at? hshowIds
  obtain ⟨json, hjson, _⟩ := Value.exists_of_at? (hbelow hinspect .diagnostics rfl)
  have hinner : ∀ {group : String} {outer : Value}, inspect.at? [group] = some outer →
      ∀ (setting : Setting) {name : String}, setting.path = ["inspect", group, name] →
        outer.at? [name] = some (found setting) := by
    intro group outer houter setting name hpath
    rw [← Value.at?_cons_of_at? houter, hbelow hinspect setting hpath]
  rw [Value.toSettings_eq_ok_iff_groups hmarkdown hbuild hinspect,
    Value.toMarkdown_eq_ok_iff (hbelow hmarkdown .table rfl)
      (hbelow hmarkdown .strikethrough rfl) (hbelow hmarkdown .autolink rfl)
      (hbelow hmarkdown .tasklist rfl) (hbelow hmarkdown .superscript rfl)
      (hbelow hmarkdown .frontMatterDelimiter rfl),
    Value.toBuild_eq_ok_iff (hbelow hbuild .listLayout rfl) (hbelow hbuild .codeTrim rfl),
    Value.toInspect_eq_ok_iff htreeviz hjson,
    Value.toTreeviz_eq_ok_iff (hinner htreeviz .showIds rfl) (hinner htreeviz .maxLabel rfl),
    Value.toJson_eq_ok_iff (hinner hjson .diagnostics rfl)]
  constructor
  · rintro ⟨⟨_, _, _, _, _, _⟩, ⟨_, _⟩, ⟨_, _⟩, _⟩ setting
    cases setting <;> assumption
  · intro hall
    exact ⟨⟨hall .table, hall .strikethrough, hall .autolink, hall .tasklist, hall .superscript,
      hall .frontMatterDelimiter⟩, ⟨hall .listLayout, hall .codeTrim⟩,
      ⟨hall .showIds, hall .maxLabel⟩, hall .diagnostics⟩

end Single

end Settings
end DocTree
