import DocTree.Cli.Extras
import DocTree.Proofs.Format.Params
import Mathlib.Data.List.Perm.Basic

/-!
# Scanning arguments

The scan that takes extra parameters out of the arguments keeps the name of a parameter pending
until it sees the next argument.  What it makes of an argument depends on the neighbours of the
argument alone, though.

**Places.**  A `Place` is an argument between its neighbours.  It is a flag, or the value of the
flag before it, or it is kept.  The scan keeps what is kept, and gives each flag the value that is
behind it, or `true` (`splitExtras_eq`).

**Uses.**  Each argument is of one of the three sorts only, and the values are what the flags take,
one by one, so no argument is lost or used twice.
-/

namespace DocTree
namespace Cli

open Format (Params)

section Flags

theorem behind_eq_some_iff
    {start arg name : String} :
    (if start.toList.isPrefixOf arg.toList then
        some (String.ofList (arg.toList.drop start.length))
      else none) = some name ↔
      arg = start ++ name := by
  have htake : ∀ chars : List Char,
      (start.toList ++ chars).drop start.length = chars := by
    intro chars
    rw [← String.length_toList, List.drop_left]
  constructor
  · intro h
    split at h
    case isTrue hprefix =>
      obtain ⟨chars, hchars⟩ := List.isPrefixOf_iff_prefix.mp hprefix
      rw [← hchars, htake, Option.some.injEq] at h
      rw [← h, ← String.toList_inj, String.toList_append, String.toList_ofList, hchars]
    case isFalse =>
      contradiction
  · rintro rfl
    have hprefix : start.toList.isPrefixOf (start ++ name).toList = true := by
      rw [List.isPrefixOf_iff_prefix, String.toList_append]
      exact List.prefix_append _ _
    rw [if_pos hprefix, String.toList_append, htake, String.ofList_toList]

/-- An argument gives the parameter that stands behind one of the two beginnings. -/
theorem extraName?_eq_some_iff
    {arg name : String} :
    extraName? arg = some name ↔ arg = "--extra-" ++ name ∨ arg = "--extras-" ++ name := by
  rw [extraName?]
  simp only [Option.orElse_eq_orElse, Option.orElse_eq_or, Option.or_eq_some_iff,
    behind_eq_some_iff]
  constructor
  · rintro (h | ⟨_, h⟩)
    · exact Or.inl h
    · exact Or.inr h
  · rintro (h | h)
    · exact Or.inl h
    · refine Or.inr ⟨?_, h⟩
      -- The beginnings differ behind their common part.
      rw [Option.eq_none_iff_forall_ne_some]
      intro name' hname'
      rw [behind_eq_some_iff.mp hname', ← String.toList_inj] at h
      simp at h

/-- An argument that gives a parameter starts with a hyphen, so it is no value. -/
theorem isValue_of_extraName?
    {arg name : String}
    (h : extraName? arg = some name) :
    isValue arg = false := by
  rcases extraName?_eq_some_iff.mp h with rfl | rfl <;> simp [isValue]

end Flags

section Places

/-- An argument between its neighbours. -/
structure Place where
  before : Option String
  arg : String
  behind : Option String

namespace Place

/-- Whether an argument gives an extra parameter. -/
def isFlag (place : Place) : Bool :=
  (extraName? place.arg).isSome

/-- Whether an argument is the value of the flag before it. -/
def isValue (place : Place) : Bool :=
  (place.before.bind extraName?).isSome && Cli.isValue place.arg

def isKept (place : Place) : Bool :=
  !place.isFlag && !place.isValue

/-- The argument that a flag takes as its value. -/
def taken? (place : Place) : Option String :=
  if place.isFlag then place.behind.filter Cli.isValue else none

/-- The value that a flag gives to its parameter. -/
def outcome (place : Place) : String :=
  (place.behind.filter Cli.isValue).getD "true"

/-- The parameter that a flag gives. -/
def entry? (place : Place) : Option (String × String) :=
  (extraName? place.arg).map fun name => (name, place.outcome)

theorem not_isFlag_and_isValue (place : Place) :
    (place.isFlag && place.isValue) = false := by
  rw [isFlag, isValue]
  cases hname : extraName? place.arg with
  | none =>
      rfl
  | some name =>
      rw [isValue_of_extraName? hname, Bool.and_false, Bool.and_false]

end Place

/-- The places of arguments behind a given one, if there is one. -/
def placesBehind (before : Option String) (args : List String) : List Place :=
  args.mapIdx fun i arg => ⟨if i = 0 then before else args[i - 1]?, arg, args[i + 1]?⟩

/-- The places of arguments. -/
def places (args : List String) : List Place :=
  placesBehind none args

theorem placesBehind_cons
    (before : Option String)
    (arg : String)
    (args : List String) :
    placesBehind before (arg :: args) =
      ⟨before, arg, args.head?⟩ :: placesBehind (some arg) args := by
  rw [placesBehind, List.mapIdx_cons, placesBehind, List.head?_eq_getElem?]
  congr 2
  funext i arg'
  cases i with
  | zero =>
      rfl
  | succ i =>
      simp

theorem map_arg_placesBehind
    (before : Option String)
    (args : List String) :
    (placesBehind before args).map Place.arg = args := by
  induction args generalizing before with
  | nil =>
      rfl
  | cons arg args ih =>
      rw [placesBehind_cons, List.map_cons, ih]

end Places

section Steps

variable (extras : Params)

/-- The parameter that is pending behind an argument, with the value that it is going to get. -/
def pending? (before : Option String) (args : List String) : Option (String × String) :=
  (before.bind extraName?).map fun name => (name, (args.head?.filter isValue).getD "true")

theorem splitExtrasFrom_flag
    {arg name : String}
    (h : extraName? arg = some name)
    (pending : Option String)
    (args : List String) :
    splitExtrasFrom pending extras (arg :: args) =
      splitExtrasFrom (some name) (settle pending extras) args := by
  have hvalue := isValue_of_extraName? h
  cases pending <;> simp [splitExtrasFrom, h, hvalue]

theorem splitExtrasFrom_value
    {arg : String}
    (h : isValue arg = true)
    (name : String)
    (args : List String) :
    splitExtrasFrom (some name) extras (arg :: args) =
      splitExtrasFrom none (extras.insert name arg) args := by
  simp [splitExtrasFrom, h]

theorem splitExtrasFrom_kept
    {pending : Option String}
    {arg : String}
    (harg : extraName? arg = none)
    (hvalue : pending = none ∨ isValue arg = false)
    (args : List String) :
    splitExtrasFrom pending extras (arg :: args) =
      (arg :: (splitExtrasFrom none (settle pending extras) args).1,
        (splitExtrasFrom none (settle pending extras) args).2) := by
  rcases hvalue with rfl | hvalue
  · simp [splitExtrasFrom, harg]
  · cases pending <;> simp [splitExtrasFrom, harg, hvalue]

/-- A pending parameter that finds no value gets the value that its place says. -/
theorem settle_eq
    {before : Option String}
    {args : List String}
    (h : before.bind extraName? = none ∨ args.head?.filter isValue = none) :
    settle (before.bind extraName?) extras =
      extras.insertAll ⟨(pending? before args).toList⟩ := by
  rw [pending?]
  rcases h with hnone | hvalue
  · rw [hnone]
    rfl
  · rw [hvalue]
    cases before.bind extraName? <;> rfl

/-- What flags give, from an argument on. -/
theorem entries_cons
    (before : Option String)
    (arg : String)
    (args : List String) :
    (placesBehind before (arg :: args)).filterMap Place.entry? =
      (pending? (some arg) args).toList ++
        (placesBehind (some arg) args).filterMap Place.entry? := by
  have hentry : Place.entry? ⟨before, arg, args.head?⟩ = pending? (some arg) args := rfl
  rw [placesBehind_cons, List.filterMap_cons, hentry]
  cases pending? (some arg) args <;> rfl

theorem kept_cons
    (before : Option String)
    (arg : String)
    (args : List String) :
    ((placesBehind before (arg :: args)).filter Place.isKept).map Place.arg =
      if Place.isKept ⟨before, arg, args.head?⟩ then
        arg :: ((placesBehind (some arg) args).filter Place.isKept).map Place.arg
      else ((placesBehind (some arg) args).filter Place.isKept).map Place.arg := by
  rw [placesBehind_cons, List.filter_cons]
  split <;> rfl

/-- The scan from any argument on, with the parameter pending that the argument before gives. -/
theorem splitExtrasFrom_eq
    (before : Option String)
    (args : List String) :
    splitExtrasFrom (before.bind extraName?) extras args =
      (((placesBehind before args).filter Place.isKept).map Place.arg,
        extras.insertAll
          ⟨(pending? before args).toList ++
            (placesBehind before args).filterMap Place.entry?⟩) := by
  induction args generalizing before extras with
  | nil =>
      have hsettle : settle (before.bind extraName?) extras =
          extras.insertAll ⟨(pending? before []).toList⟩ :=
        settle_eq extras (Or.inr rfl)
      rw [splitExtrasFrom, hsettle, placesBehind, List.mapIdx_nil, List.filterMap_nil,
        List.append_nil]
      rfl
  | cons arg args ih =>
      have hnext := ih (extras.insertAll ⟨(pending? before (arg :: args)).toList⟩) (some arg)
      rw [← Params.insertAll_append, ← List.append_assoc, List.append_assoc, ← entries_cons before,
        Option.bind_some] at hnext
      rw [kept_cons]
      cases hname : extraName? arg with
      | some name =>
          have hvalue : (arg :: args).head?.filter isValue = none := by
            simp [isValue_of_extraName? hname]
          have hkept : Place.isKept ⟨before, arg, args.head?⟩ = false := by
            simp [Place.isKept, Place.isFlag, hname]
          rw [hname] at hnext
          rw [splitExtrasFrom_flag extras hname, settle_eq extras (Or.inr hvalue), hnext, hkept]
          rfl
      | none =>
          rw [hname] at hnext
          cases htaken : Place.isValue ⟨before, arg, args.head?⟩ with
          | false =>
              have hpending : before.bind extraName? = none ∨ isValue arg = false := by
                refine (Bool.and_eq_false_iff.mp htaken).imp_left fun hnone => ?_
                exact Option.isNone_iff_eq_none.mp (Option.isSome_eq_false_iff.mp hnone)
              have hvalue : before.bind extraName? = none ∨
                  (arg :: args).head?.filter isValue = none :=
                hpending.imp_right fun hvalue => by simp [hvalue]
              have hkept : Place.isKept ⟨before, arg, args.head?⟩ = true := by
                simp [Place.isKept, Place.isFlag, hname, htaken]
              rw [splitExtrasFrom_kept extras hname hpending, settle_eq extras hvalue, hnext, hkept]
              rfl
          | true =>
              obtain ⟨hpending, hvalue⟩ := Bool.and_eq_true_iff.mp htaken
              obtain ⟨name, hbefore⟩ := Option.isSome_iff_exists.mp hpending
              have hentry : pending? before (arg :: args) = some (name, arg) := by
                rw [pending?, hbefore, List.head?_cons, Option.filter_some, if_pos hvalue]
                rfl
              have hkept : Place.isKept ⟨before, arg, args.head?⟩ = false := by
                simp [Place.isKept, htaken]
              rw [hentry] at hnext
              rw [hbefore, splitExtrasFrom_value extras hvalue, hentry, hkept]
              exact hnext

/-- What the scan keeps, and what it gives. -/
theorem splitExtras_eq (args : List String) :
    splitExtras args =
      (((places args).filter Place.isKept).map Place.arg,
        Params.ofList ((places args).filterMap Place.entry?)) :=
  splitExtrasFrom_eq Params.empty none args

end Steps

section Uses

/-- The places of arguments fall into the three sorts. -/
theorem perm_sorts (places : List Place) :
    (places.filter Place.isKept ++
        (places.filter Place.isFlag ++ places.filter Place.isValue)).Perm places := by
  have hflags : (places.filter fun place => !place.isKept).filter Place.isFlag =
      places.filter Place.isFlag := by
    rw [List.filter_filter]
    apply List.filter_congr
    intro place _
    cases hflag : place.isFlag <;> simp [Place.isKept, hflag]
  have hvalues : (places.filter fun place => !place.isKept).filter (fun place => !place.isFlag) =
      places.filter Place.isValue := by
    rw [List.filter_filter]
    apply List.filter_congr
    intro place _
    have hsort := place.not_isFlag_and_isValue
    cases hflag : place.isFlag <;> simp_all [Place.isKept]
  have hrest := List.filter_append_perm Place.isFlag (places.filter fun place => !place.isKept)
  rw [hflags, hvalues] at hrest
  exact (hrest.append_left _).trans (List.filter_append_perm Place.isKept places)

/-- The value that the argument before others takes of them. -/
def takenBehind? (before : Option String) (args : List String) : Option String :=
  if (before.bind extraName?).isSome then args.head?.filter isValue else none

theorem values_cons
    (before : Option String)
    (arg : String)
    (args : List String) :
    ((placesBehind before (arg :: args)).filter Place.isValue).map Place.arg =
      (takenBehind? before (arg :: args)).toList ++
        ((placesBehind (some arg) args).filter Place.isValue).map Place.arg := by
  have hvalue : Place.isValue ⟨before, arg, args.head?⟩ =
      ((before.bind extraName?).isSome && isValue arg) := rfl
  rw [placesBehind_cons, List.filter_cons, hvalue, takenBehind?, List.head?_cons,
    Option.filter_some]
  cases (before.bind extraName?).isSome <;> cases isValue arg <;> rfl

theorem taken_cons
    (before : Option String)
    (arg : String)
    (args : List String) :
    (placesBehind before (arg :: args)).filterMap Place.taken? =
      (takenBehind? (some arg) args).toList ++
        (placesBehind (some arg) args).filterMap Place.taken? := by
  have htaken : Place.taken? ⟨before, arg, args.head?⟩ = takenBehind? (some arg) args := rfl
  rw [placesBehind_cons, List.filterMap_cons, htaken]
  cases takenBehind? (some arg) args <;> rfl

/-- The values are what is taken: by the argument before, and then by the flags in their order. -/
theorem values_eq_taken
    (before : Option String)
    (args : List String) :
    ((placesBehind before args).filter Place.isValue).map Place.arg =
      (takenBehind? before args).toList ++ (placesBehind before args).filterMap Place.taken? := by
  induction args generalizing before with
  | nil =>
      rw [takenBehind?]
      cases (before.bind extraName?).isSome <;> rfl
  | cons arg args ih =>
      rw [values_cons, taken_cons, ih]

end Uses

section Parameters

/-- The last flag for a parameter gives it its value. -/
theorem get?_splitExtras
    (args : List String)
    (name : String) :
    (splitExtras args).2.get? name =
      ((places args).reverse.find? fun place => extraName? place.arg == some name).map
        Place.outcome := by
  rw [splitExtras_eq, Params.get?_ofList, ← List.filterMap_reverse]
  induction (places args).reverse with
  | nil =>
      rfl
  | cons place places ih =>
      rw [List.filterMap_cons, List.find?_cons, Place.entry?]
      cases hname : extraName? place.arg with
      | none =>
          simpa using ih
      | some key =>
          simp only [Option.map_some]
          rw [Params.lookup_cons_eq_ite, ih]
          by_cases h : name = key
          · simp [h]
          · have hne : (key == name) = false := beq_false_of_ne (Ne.symm h)
            simp [h, hne]

variable (extras : Params)

/-- Arguments in front that give no parameter are passed by. -/
theorem splitExtrasFrom_append
    {front : List String}
    (h : ∀ arg ∈ front, extraName? arg = none)
    (args : List String) :
    splitExtrasFrom none extras (front ++ args) =
      (front ++ (splitExtrasFrom none extras args).1, (splitExtrasFrom none extras args).2) := by
  induction front with
  | nil =>
      rfl
  | cons arg front ih =>
      have hfirst := h arg List.mem_cons_self
      have hrest := ih fun arg' harg' => h arg' (List.mem_cons_of_mem _ harg')
      rw [List.cons_append, splitExtrasFrom_kept extras hfirst (Or.inl rfl), settle,
        Option.elim_none, hrest]
      rfl

theorem extraName?_of_mem_kept
    {args : List String}
    {arg : String}
    (h : arg ∈ (splitExtras args).1) :
    extraName? arg = none := by
  rw [splitExtras_eq] at h
  obtain ⟨place, hplace, rfl⟩ := List.mem_map.mp h
  have hkept := (List.mem_filter.mp hplace).2
  simpa [Place.isKept, Place.isFlag] using (Bool.and_eq_true_iff.mp hkept).1

/-- Parameters written out one after the other, each with its value. -/
def writeExtras (entries : List (String × String)) : List String :=
  entries.flatMap fun entry => ["--extra-" ++ entry.1, entry.2]

theorem splitExtrasFrom_writeExtras
    {entries : List (String × String)}
    (h : ∀ entry ∈ entries, isValue entry.2 = true) :
    splitExtrasFrom none extras (writeExtras entries) = ([], extras.insertAll ⟨entries⟩) := by
  induction entries generalizing extras with
  | nil =>
      rfl
  | cons entry entries ih =>
      have hname : extraName? ("--extra-" ++ entry.1) = some entry.1 :=
        extraName?_eq_some_iff.mpr (Or.inl rfl)
      have hvalue := h entry List.mem_cons_self
      have hrest := ih (extras.insert entry.1 entry.2)
        fun entry' hentry' => h entry' (List.mem_cons_of_mem _ hentry')
      rw [writeExtras, List.flatMap_cons, List.cons_append, List.cons_append, List.nil_append,
        splitExtrasFrom_flag extras hname, settle, Option.elim_none,
        splitExtrasFrom_value extras hvalue]
      exact hrest

end Parameters

/-- **Scanning.**  The scan keeps the arguments that are neither flags nor values of a flag, in
their order, and gives each parameter the outcome of its last flag.  Each argument is of one sort,
and each value is taken by one flag, the one before it.  What is kept is kept again, without any
parameter, and parameters that are written out behind other arguments are read back. -/
theorem scan_by_neighbours (args : List String) :
    (∀ arg name,
      extraName? arg = some name ↔ arg = "--extra-" ++ name ∨ arg = "--extras-" ++ name) ∧
    (splitExtras args).1 = ((places args).filter Place.isKept).map Place.arg ∧
    (∀ name,
      (splitExtras args).2.get? name =
        ((places args).reverse.find? fun place => extraName? place.arg == some name).map
          Place.outcome) ∧
    ((splitExtras args).2.entries.map Prod.fst).Pairwise (· < ·) ∧
    ((splitExtras args).1 ++
        (((places args).filter Place.isFlag).map Place.arg ++
          ((places args).filter Place.isValue).map Place.arg)).Perm args ∧
    ((places args).filter Place.isValue).map Place.arg = (places args).filterMap Place.taken? ∧
    splitExtras (splitExtras args).1 = ((splitExtras args).1, Params.empty) ∧
    ∀ front entries,
      (∀ arg ∈ front, extraName? arg = none) →
      (∀ entry ∈ entries, isValue entry.2 = true) →
        splitExtras (front ++ writeExtras entries) = (front, Params.ofList entries) ∧
        ∀ name, (Params.ofList entries).get? name = entries.reverse.lookup name := by
  refine ⟨fun _ _ => extraName?_eq_some_iff, ?_, get?_splitExtras args, ?_, ?_,
    values_eq_taken none args, ?_, ?_⟩
  · rw [splitExtras_eq]
  · rw [splitExtras_eq]
    exact Params.pairwise_ofList _
  · have hsorts := (perm_sorts (places args)).map Place.arg
    rw [List.map_append, List.map_append, places, map_arg_placesBehind] at hsorts
    rw [splitExtras_eq]
    exact hsorts
  · have hnames : ∀ arg ∈ (splitExtras args).1, extraName? arg = none :=
      fun arg harg => extraName?_of_mem_kept harg
    have hkept := splitExtrasFrom_append Params.empty hnames []
    rw [List.append_nil, splitExtrasFrom, List.append_nil] at hkept
    exact hkept
  · intro front entries hfront hentries
    refine ⟨?_, Params.get?_ofList entries⟩
    rw [splitExtras, splitExtrasFrom_append Params.empty hfront,
      splitExtrasFrom_writeExtras Params.empty hentries, List.append_nil]
    rfl

/-- One parameter is given twice, and another one has neither a name nor a value. -/
theorem scan_by_neighbours_repeated :
    let front := ["mdtree", "inspect", "README.md"]
    let entries := [("max-label", "8"), ("", ""), ("max-label", "9")]
    (∀ arg ∈ front, extraName? arg = none) ∧
    (∀ entry ∈ entries, isValue entry.2 = true) ∧
    splitExtras (front ++ writeExtras entries) = (front, Params.ofList entries) ∧
    (Params.ofList entries).get? "max-label" = some "9" := by
  intro front entries
  have hfront : ∀ arg ∈ front, extraName? arg = none := by decide
  have hentries : ∀ entry ∈ entries, isValue entry.2 = true := by decide
  obtain ⟨_, _, _, _, _, _, _, hwritten⟩ := scan_by_neighbours front
  obtain ⟨hsplit, hget⟩ := hwritten front entries hfront hentries
  exact ⟨hfront, hentries, hsplit, hget "max-label"⟩

-- A flag behind a flag has no value, and one at the end has none either.
example :
    splitExtras ["a", "--extra-x", "--extras-y", "b", "c", "--extra-"] =
      (["a", "c"], ⟨[("", "true"), ("x", "true"), ("y", "b")]⟩) := by
  decide

end Cli
end DocTree
