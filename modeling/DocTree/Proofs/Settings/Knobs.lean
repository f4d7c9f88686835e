import DocTree.Cli.Run
import DocTree.Proofs.Format.Params
import DocTree.Proofs.Settings.Decoding

/-!
# How extra parameters reach an output

Five extra parameters change settings.  Each of them either gives its setting a value that its
reader accepts (`Takes`) or ends the run (`Rejects`); nothing else is changed.  The settings of
inspection are then written down as parameters of the formats, which read them back: a truth value
and a number of 64 bits come out as they went in.  So what a run shows is told by the settings
themselves (`inspectionOutput_eq_shown`).

The other extra parameters are handed on as well, but no format asks for them, so a run shows
nothing of them (`work_congr`).
-/

namespace DocTree
namespace Settings

open Format (Params Treeviz)

section Overriding

variable {α : Type}

/-- Whether an extra parameter that is given is read as the new value of its setting; the setting
keeps its value if the parameter is not given. -/
def Takes
    (extras : Params)
    (name : String)
    (read : String → Except BadExtra α)
    (old new : α) : Prop :=
  match extras.get? name with
  | some s => read s = .ok new
  | none => new = old

/-- Whether an extra parameter is given and its reader accepts no value of it. -/
def Rejects
    (extras : Params)
    (name : String)
    (read : String → Except BadExtra α) : Prop :=
  ∃ s, extras.get? name = some s ∧ ∀ a, read s ≠ .ok a

variable {extras : Params} {name : String} {read : String → Except BadExtra α} {old : α}

theorem overridden_eq_ok_iff
    {new : α} :
    overridden extras name read old = .ok new ↔ Takes extras name read old new := by
  rw [overridden, Takes]
  cases extras.get? name with
  | none =>
      simp [eq_comm]
  | some s =>
      exact Iff.rfl

theorem exists_takes_iff :
    (∃ new, Takes extras name read old new) ↔ ¬ Rejects extras name read := by
  simp only [Takes, Rejects]
  cases extras.get? name with
  | none =>
      simp
  | some s =>
      simp

end Overriding

section Changing

def readListLayout (s : String) : Except BadExtra Build.ListLayout :=
  (Build.ListLayout.ofName s).mapError .option

def readCodeTrim (s : String) : Except BadExtra Build.CodeTrim :=
  (Build.CodeTrim.ofName s).mapError .option

theorem withExtras_eq_ok_iff
    {settings changed : Settings}
    {extras : Params} :
    withExtras settings extras = .ok changed ↔
      changed.markdown = settings.markdown ∧
      Takes extras "list-layout" readListLayout settings.build.listLayout
        changed.build.listLayout ∧
      Takes extras "code-trim" readCodeTrim settings.build.codeTrim changed.build.codeTrim ∧
      Takes extras "show-ids" (readFlag "show-ids") settings.inspect.treeviz.showIds
        changed.inspect.treeviz.showIds ∧
      Takes extras "max-label" (readNumber "max-label") settings.inspect.treeviz.maxLabel
        changed.inspect.treeviz.maxLabel ∧
      Takes extras "diagnostics" (readFlag "diagnostics") settings.inspect.json.diagnostics
        changed.inspect.json.diagnostics := by
  simp only [withExtras, bind_eq_ok_iff, overridden_eq_ok_iff, pure_eq_ok_iff]
  constructor
  · rintro ⟨l, hl, t, ht, s, hs, n, hn, d, hd, rfl⟩
    exact ⟨rfl, hl, ht, hs, hn, hd⟩
  · rintro ⟨hmarkdown, hl, ht, hs, hn, hd⟩
    refine ⟨_, hl, _, ht, _, hs, _, hn, _, hd, ?_⟩
    rw [← hmarkdown]

theorem exists_withExtras_error_iff
    {settings : Settings}
    {extras : Params} :
    (∃ error, withExtras settings extras = .error error) ↔
      Rejects extras "list-layout" readListLayout ∨
      Rejects extras "code-trim" readCodeTrim ∨
      Rejects extras "show-ids" (readFlag "show-ids") ∨
      Rejects extras "max-label" (readNumber "max-label") ∨
      Rejects extras "diagnostics" (readFlag "diagnostics") := by
  constructor
  · rintro ⟨error, herror⟩
    by_contra hnone
    simp only [not_or] at hnone
    obtain ⟨hl, ht, hs, hn, hd⟩ := hnone
    obtain ⟨l, hl⟩ := exists_takes_iff.mpr hl
    obtain ⟨t, ht⟩ := exists_takes_iff.mpr ht
    obtain ⟨s, hs⟩ := exists_takes_iff.mpr hs
    obtain ⟨n, hn⟩ := exists_takes_iff.mpr hn
    obtain ⟨d, hd⟩ := exists_takes_iff.mpr hd
    have hok : withExtras settings extras =
        .ok ⟨settings.markdown, ⟨l, t⟩, ⟨⟨s, n⟩, ⟨d⟩⟩⟩ :=
      withExtras_eq_ok_iff.mpr ⟨rfl, hl, ht, hs, hn, hd⟩
    rw [herror] at hok
    contradiction
  · intro hrejects
    cases hresult : withExtras settings extras with
    | error error =>
        exact ⟨error, rfl⟩
    | ok changed =>
        obtain ⟨_, hl, ht, hs, hn, hd⟩ := withExtras_eq_ok_iff.mp hresult
        rcases hrejects with h | h | h | h | h
        · exact absurd h (exists_takes_iff.mp ⟨_, hl⟩)
        · exact absurd h (exists_takes_iff.mp ⟨_, ht⟩)
        · exact absurd h (exists_takes_iff.mp ⟨_, hs⟩)
        · exact absurd h (exists_takes_iff.mp ⟨_, hn⟩)
        · exact absurd h (exists_takes_iff.mp ⟨_, hd⟩)

/-- Extra parameters keep the length of a label a number of 64 bits. -/
theorem maxLabel_lt_of_takes
    {extras : Params}
    {old new : Nat}
    (h : Takes extras "max-label" (readNumber "max-label") old new)
    (hold : old < Text.wordLimit) :
    new < Text.wordLimit := by
  rw [Takes] at h
  split at h
  case h_1 s hs =>
    rw [readNumber] at h
    split at h
    case h_1 n hn =>
      rw [← Except.ok.inj h]
      exact readWord?_lt hn
    case h_2 =>
      contradiction
  case h_2 =>
    rw [h]
    exact hold

end Changing

section Handing

theorem get?_remaining
    (extras : Params)
    (name : String) :
    (remaining extras).get? name = if name ∈ settingNames then none else extras.get? name :=
  Params.get?_foldl_erase settingNames extras name

/-- What is handed on stands under no name of a setting, so a format that asks for one of these
names finds the settings. -/
theorem get?_params
    (settings : InspectSettings)
    (extras : Params)
    {name : String}
    (hname : name ∈ settingNames) :
    (settings.params (remaining extras)).get? name =
      [("diagnostics", toString settings.json.diagnostics),
        ("max-label", toString settings.treeviz.maxLabel),
        ("show-ids", toString settings.treeviz.showIds)].lookup name := by
  have hnone : (remaining extras).get? name = none := by
    rw [get?_remaining, if_pos hname]
  rw [InspectSettings.params, Params.get?_insertAll_of_none hnone]
  simp only [Params.ofList, Params.insertAll, List.foldl_cons, List.foldl_nil, Params.get?_insert,
    Params.lookup_cons_eq_ite]
  rfl

theorem flag_params
    (settings : InspectSettings)
    (extras : Params)
    (default : Bool) :
    (settings.params (remaining extras)).flag "show-ids" default = settings.treeviz.showIds ∧
      (settings.params (remaining extras)).flag "diagnostics" default =
        settings.json.diagnostics := by
  have hshowIds : (settings.params (remaining extras)).get? "show-ids" =
      some (toString settings.treeviz.showIds) := by
    rw [get?_params settings extras (by decide)]
    rfl
  have hdiagnostics : (settings.params (remaining extras)).get? "diagnostics" =
      some (toString settings.json.diagnostics) := by
    rw [get?_params settings extras (by decide)]
    rfl
  rw [Params.flag_of_get? hshowIds, Params.flag_of_get? hdiagnostics, Params.isTrueWord_toString,
    Params.isTrueWord_toString]
  exact ⟨rfl, rfl⟩

theorem number_params
    (settings : InspectSettings)
    (extras : Params)
    (default : Nat)
    (hword : settings.treeviz.maxLabel < Text.wordLimit) :
    (settings.params (remaining extras)).number "max-label" default =
      settings.treeviz.maxLabel := by
  have hmaxLabel : (settings.params (remaining extras)).get? "max-label" =
      some (toString settings.treeviz.maxLabel) := by
    rw [get?_params settings extras (by decide)]
    rfl
  rw [Params.number, hmaxLabel, Option.bind_some, Params.readWord?_toString hword,
    Option.getD_some]

theorem ofParams_params
    (settings : InspectSettings)
    (extras : Params)
    (hword : settings.treeviz.maxLabel < Text.wordLimit) :
    Treeviz.ofParams (settings.params (remaining extras)) =
      ⟨settings.treeviz.showIds, settings.treeviz.maxLabel⟩ := by
  rw [Treeviz.ofParams, (flag_params settings extras false).1,
    number_params settings extras _ hword]

/-- A format reads every word of a truth value as the command line does. -/
theorem isTrueWord_of_readFlag
    {name value : String}
    {b : Bool}
    (h : readFlag name value = .ok b) :
    Params.isTrueWord value = b := by
  rw [readFlag] at h
  split at h
  case isTrue htrue =>
    rw [← Except.ok.inj h]
    exact htrue
  case isFalse hfalse =>
    split at h
    case isTrue =>
      rw [← Except.ok.inj h]
      exact eq_false_of_ne_true hfalse
    case isFalse =>
      contradiction

end Handing

section Showing

open Cli (Found Inspection Invocation)
open Inspect (Transform)

/-- What a transform shows of a document: a drawing in a style, the tree with or without its
diagnostics, the document itself, or the report of what was lost. -/
def shown
    (style : Treeviz)
    (diagnostics : Bool)
    (options : Build.Options)
    (doc : Markup.Document) :
    Transform → String
  | .treeDrawing => style.text (Build.build doc options).root
  | .treeJson =>
      if diagnostics then (Build.build doc options).json.pretty
      else (Build.build doc options).root.json.pretty
  | .documentJson => doc.json.pretty
  | .diagnostics => Inspect.report (Build.build doc options).diagnostics

/-- A transform reads three parameters. -/
theorem output_eq_shown
    (params : Params)
    (transform : Transform)
    (options : Build.Options)
    (doc : Markup.Document) :
    transform.output params options doc =
      .ok (shown (Treeviz.ofParams params) (params.flag "diagnostics" true) options doc
        transform) := by
  cases transform with
  | treeDrawing => rfl
  | treeJson => rfl
  | documentJson => rfl
  | diagnostics => rfl

theorem inspectionOutput_eq_shown
    (inspection : Inspection)
    (settings : Settings)
    (extras : Params)
    (hword : settings.inspect.treeviz.maxLabel < Text.wordLimit)
    {found : Found}
    {source : String}
    (hsource : found.text = .ok source) :
    inspection.output settings (remaining extras) found =
      .ok (shown ⟨settings.inspect.treeviz.showIds, settings.inspect.treeviz.maxLabel⟩
        settings.inspect.json.diagnostics settings.build
        (Inspect.parseDocument settings.markdown.options source) inspection.transform) := by
  rw [Inspection.output, hsource]
  simp only [output_eq_shown, ofParams_params settings.inspect extras hword,
    (flag_params settings.inspect extras true).2]
  rfl

theorem inspectionOutput_remaining
    (inspection : Inspection)
    (settings : Settings)
    (extras extras' : Params)
    (found : Found) :
    inspection.output settings (remaining extras) found =
      inspection.output settings (remaining extras') found := by
  have hget : ∀ name ∈ settingNames,
      (settings.inspect.params (remaining extras)).get? name =
        (settings.inspect.params (remaining extras')).get? name := by
    intro name hname
    rw [get?_params _ _ hname, get?_params _ _ hname]
  have htreeviz : Treeviz.ofParams (settings.inspect.params (remaining extras)) =
      Treeviz.ofParams (settings.inspect.params (remaining extras')) := by
    simp only [Treeviz.ofParams, Params.flag, Params.number, hget "show-ids" (by decide),
      hget "max-label" (by decide)]
  have hdiagnostics :
      (settings.inspect.params (remaining extras)).flag "diagnostics" true =
        (settings.inspect.params (remaining extras')).flag "diagnostics" true := by
    simp only [Params.flag, hget "diagnostics" (by decide)]
  rw [Inspection.output, Inspection.output]
  split
  · rfl
  · simp only [output_eq_shown, htreeviz, hdiagnostics]

/-- Settings under extra parameters depend on the five names only. -/
theorem withExtras_congr
    {extras extras' : Params}
    (h : ∀ name ∈ settingNames, extras.get? name = extras'.get? name)
    (settings : Settings) :
    withExtras settings extras = withExtras settings extras' := by
  simp only [withExtras, overridden, h "list-layout" (by decide), h "code-trim" (by decide),
    h "show-ids" (by decide), h "max-label" (by decide), h "diagnostics" (by decide)]

theorem work_congr
    {m : Type → Type}
    [Monad m]
    (read : String → m Found)
    (invocation : Invocation)
    {extras extras' : Params}
    (h : ∀ name ∈ settingNames, extras.get? name = extras'.get? name) :
    Cli.work read invocation extras = Cli.work read invocation extras' := by
  have houtput : ∀ (inspection : Inspection) (settings : Settings) (found : Found),
      inspection.output settings (remaining extras) found =
        inspection.output settings (remaining extras') found :=
    fun inspection settings found => inspectionOutput_remaining inspection settings _ _ found
  simp only [Cli.work, withExtras_congr h, houtput]

/-- Without a bad value a run shows what it reads under the settings that the extra parameters
give. -/
theorem work_of_withExtras
    {m : Type → Type}
    [Monad m]
    [LawfulMonad m]
    {read : String → m Found}
    {invocation : Invocation}
    {inspection : Inspection}
    {settings changed : Settings}
    {extras : Params}
    (hload : load (fun path => return (← read path).bytes?)
      (Cli.settingsFiles invocation.config) [] = pure (.ok settings))
    (hchanged : withExtras settings extras = .ok changed)
    (hinspection : invocation.inspection = some inspection) :
    Cli.work read invocation extras =
      inspection.output changed (remaining extras) <$> read inspection.path := by
  rw [Cli.work, hload, pure_bind]
  simp only [hchanged, hinspection, map_eq_pure_bind]

/-- A bad value ends a run with the status 1, whatever is to be inspected. -/
theorem exit_of_withExtras_error
    {m : Type → Type}
    [Monad m]
    [LawfulMonad m]
    {read : String → m Found}
    {invocation : Invocation}
    {settings : Settings}
    {extras : Params}
    {error : BadExtra}
    (hload : load (fun path => return (← read path).bytes?)
      (Cli.settingsFiles invocation.config) [] = pure (.ok settings))
    (herror : withExtras settings extras = .error error) :
    Cli.Exit.ofResult <$> Cli.work read invocation extras =
      pure ⟨1, "", error.message ++ "\n"⟩ := by
  rw [Cli.work, hload, pure_bind]
  simp only [herror, map_pure]
  rfl

/-- Extra parameters change exactly the settings that they name, or end the run.  What the formats
read is what the settings then have, and what a run shows of the file that it inspects is written
with exactly these settings. -/
theorem knobs_reach_output
    (settings : Settings)
    (extras : Params)
    (hword : settings.inspect.treeviz.maxLabel < Text.wordLimit) :
    ((∃ error, withExtras settings extras = .error error) ↔
      Rejects extras "list-layout" readListLayout ∨
      Rejects extras "code-trim" readCodeTrim ∨
      Rejects extras "show-ids" (readFlag "show-ids") ∨
      Rejects extras "max-label" (readNumber "max-label") ∨
      Rejects extras "diagnostics" (readFlag "diagnostics")) ∧
    (∀ error, withExtras settings extras = .error error →
      ∀ {m : Type → Type} [Monad m] [LawfulMonad m] (read : String → m Found)
        (invocation : Invocation),
        load (fun path => return (← read path).bytes?) (Cli.settingsFiles invocation.config) [] =
          pure (.ok settings) →
        Cli.Exit.ofResult <$> Cli.work read invocation extras =
          pure ⟨1, "", error.message ++ "\n"⟩) ∧
    (∀ changed, withExtras settings extras = .ok changed ↔
      changed.markdown = settings.markdown ∧
      Takes extras "list-layout" readListLayout settings.build.listLayout
        changed.build.listLayout ∧
      Takes extras "code-trim" readCodeTrim settings.build.codeTrim changed.build.codeTrim ∧
      Takes extras "show-ids" (readFlag "show-ids") settings.inspect.treeviz.showIds
        changed.inspect.treeviz.showIds ∧
      Takes extras "max-label" (readNumber "max-label") settings.inspect.treeviz.maxLabel
        changed.inspect.treeviz.maxLabel ∧
      Takes extras "diagnostics" (readFlag "diagnostics") settings.inspect.json.diagnostics
        changed.inspect.json.diagnostics) ∧
    (∀ name, (remaining extras).get? name =
      if name ∈ settingNames then none else extras.get? name) ∧
    (∀ changed, withExtras settings extras = .ok changed →
      Treeviz.ofParams (changed.inspect.params (remaining extras)) =
        ⟨changed.inspect.treeviz.showIds, changed.inspect.treeviz.maxLabel⟩ ∧
      (changed.inspect.params (remaining extras)).flag "diagnostics" true =
        changed.inspect.json.diagnostics) ∧
    (∀ changed, withExtras settings extras = .ok changed →
      (∀ {m : Type → Type} [Monad m] [LawfulMonad m] (read : String → m Found)
        (invocation : Invocation) (inspection : Inspection),
        load (fun path => return (← read path).bytes?) (Cli.settingsFiles invocation.config) [] =
          pure (.ok settings) →
        invocation.inspection = some inspection →
        Cli.work read invocation extras =
          inspection.output changed (remaining extras) <$> read inspection.path) ∧
      (∀ (inspection : Inspection) (found : Found) source, found.text = .ok source →
        inspection.output changed (remaining extras) found =
          .ok (shown ⟨changed.inspect.treeviz.showIds, changed.inspect.treeviz.maxLabel⟩
            changed.inspect.json.diagnostics changed.build
            (Inspect.parseDocument changed.markdown.options source) inspection.transform))) ∧
    (∀ name value b, readFlag name value = .ok b →
      ∀ (params : Params) key default, params.get? key = some value →
        params.flag key default = b) ∧
    (∀ extras' : Params, (∀ name ∈ settingNames, extras.get? name = extras'.get? name) →
      ∀ {m : Type → Type} [Monad m] (read : String → m Found) (invocation : Invocation),
        Cli.work read invocation extras = Cli.work read invocation extras') := by
  have hword' : ∀ changed, withExtras settings extras = .ok changed →
      changed.inspect.treeviz.maxLabel < Text.wordLimit := by
    intro changed hchanged
    obtain ⟨_, _, _, _, hmaxLabel, _⟩ := withExtras_eq_ok_iff.mp hchanged
    exact maxLabel_lt_of_takes hmaxLabel hword
  refine ⟨exists_withExtras_error_iff, ?_, ?_, get?_remaining extras, ?_, ?_, ?_, ?_⟩
  · intro error herror m _ _ read invocation hload
    exact exit_of_withExtras_error hload herror
  · intro changed
    exact withExtras_eq_ok_iff
  · intro changed hchanged
    exact ⟨ofParams_params _ extras (hword' changed hchanged), (flag_params _ extras true).2⟩
  · intro changed hchanged
    constructor
    · intro m _ _ read invocation inspection hload hinspection
      exact work_of_withExtras hload hchanged hinspection
    · intro inspection found source hsource
      exact inspectionOutput_eq_shown inspection changed extras (hword' changed hchanged) hsource
  · intro name value b hread params key default hvalue
    rw [Params.flag_of_get? hvalue, isTrueWord_of_readFlag hread]
  · intro extras' hagree m _ read invocation
    exact work_congr read invocation hagree

theorem knobs_reach_output_shouted :
    (30 : Nat) < Text.wordLimit ∧
      withExtras
          ⟨⟨true, true, true, true, true, "---"⟩, ⟨.flattened, .reference⟩, ⟨⟨false, 30⟩, ⟨true⟩⟩⟩
          ⟨[("list-layout", "nested"), ("max-label", "+07"), ("show-ids", "YES")]⟩ =
        .ok ⟨⟨true, true, true, true, true, "---"⟩, ⟨.nested, .reference⟩,
          ⟨⟨true, 7⟩, ⟨true⟩⟩⟩ ∧
      Treeviz.ofParams (InspectSettings.params ⟨⟨true, 7⟩, ⟨true⟩⟩
        (remaining ⟨[("list-layout", "nested"), ("max-label", "+07"), ("show-ids", "YES")]⟩)) =
          ⟨true, 7⟩ := by
  have hword : (30 : Nat) < Text.wordLimit := by decide
  obtain ⟨_, _, hchanged, _, hreads, _⟩ := knobs_reach_output
    ⟨⟨true, true, true, true, true, "---"⟩, ⟨.flattened, .reference⟩, ⟨⟨false, 30⟩, ⟨true⟩⟩⟩
    ⟨[("list-layout", "nested"), ("max-label", "+07"), ("show-ids", "YES")]⟩ hword
  have hok := (hchanged ⟨⟨true, true, true, true, true, "---"⟩, ⟨.nested, .reference⟩,
    ⟨⟨true, 7⟩, ⟨true⟩⟩⟩).mpr ⟨rfl, rfl, rfl, rfl, rfl, rfl⟩
  exact ⟨hword, hok, (hreads _ hok).1⟩

end Showing

end Settings
end DocTree
