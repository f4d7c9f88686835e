import DocTree.Format.Params
import Mathlib.Data.List.Basic
import Mathlib.Data.String.Basic

/-!
# Parameters as maps

What stands under a key after an entry is put in, after a key is taken out, and after one map is put
into another.  Truth values and numbers of 64 bits are read back from their texts.
-/

namespace DocTree
namespace Format

namespace Params

section Maps

theorem lookup_cons_eq_ite
    {β : Type}
    (name key : String)
    (value : β)
    (entries : List (String × β)) :
    ((key, value) :: entries).lookup name =
      if name = key then some value else entries.lookup name := by
  by_cases h : name = key
  · rw [if_pos h, h, List.lookup_cons_self]
  · rw [if_neg h, List.lookup_cons, beq_false_of_ne h]

theorem lookup_insertEntry
    (key value name : String)
    (entries : List (String × String)) :
    (insertEntry key value entries).lookup name =
      if name = key then some value else entries.lookup name := by
  induction entries with
  | nil =>
      rw [insertEntry, lookup_cons_eq_ite]
  | cons entry entries ih =>
      obtain ⟨front, old⟩ := entry
      rw [insertEntry]
      split
      case isTrue hless =>
        have hne : key ≠ front := by
          rintro rfl
          exact String.lt_irrefl key hless
        rw [lookup_cons_eq_ite, lookup_cons_eq_ite, ih]
        by_cases h : name = key
        · rw [if_pos h, if_pos h, if_neg (h ▸ hne)]
        · rw [if_neg h, if_neg h]
      case isFalse =>
        split
        case isTrue hsame =>
          have hfront : front = key := by simpa using hsame
          rw [lookup_cons_eq_ite, lookup_cons_eq_ite, hfront]
          by_cases h : name = key
          · rw [if_pos h, if_pos h]
          · rw [if_neg h, if_neg h, if_neg h]
        case isFalse =>
          rw [lookup_cons_eq_ite]

theorem get?_insert
    (params : Params)
    (key value name : String) :
    (params.insert key value).get? name =
      if name = key then some value else params.get? name :=
  lookup_insertEntry key value name params.entries

theorem get?_erase
    (params : Params)
    (key name : String) :
    (params.erase key).get? name = if name = key then none else params.get? name := by
  obtain ⟨entries⟩ := params
  rw [erase, get?, get?]
  induction entries with
  | nil =>
      simp
  | cons entry entries ih =>
      obtain ⟨front, value⟩ := entry
      by_cases hfront : front = key
      · rw [List.filter_cons_of_neg (by simpa using hfront), ih, lookup_cons_eq_ite, hfront]
        by_cases h : name = key
        · rw [if_pos h, if_pos h]
        · rw [if_neg h, if_neg h, if_neg h]
      · rw [List.filter_cons_of_pos (by simpa using hfront), lookup_cons_eq_ite,
          lookup_cons_eq_ite, ih]
        by_cases h : name = key
        · have hne : name ≠ front := fun heq => hfront (heq.symm.trans h)
          rw [if_pos h, if_pos h, if_neg hne]
        · rw [if_neg h, if_neg h]

/-- A map that is put into another one leaves alone what it has no entry for. -/
theorem get?_insertAll_of_none
    {params more : Params}
    {name : String}
    (h : more.get? name = none) :
    (params.insertAll more).get? name = params.get? name := by
  obtain ⟨entries⟩ := more
  rw [insertAll]
  rw [get?] at h
  induction entries generalizing params with
  | nil =>
      rfl
  | cons entry entries ih =>
      obtain ⟨front, value⟩ := entry
      rw [lookup_cons_eq_ite] at h
      split at h
      case isTrue =>
        contradiction
      case isFalse hne =>
        rw [List.foldl_cons, ih h, get?_insert, if_neg hne]

theorem insertAll_append
    (params : Params)
    (entries entries' : List (String × String)) :
    params.insertAll ⟨entries ++ entries'⟩ =
      (params.insertAll ⟨entries⟩).insertAll ⟨entries'⟩ := by
  simp only [insertAll, List.foldl_append]

/-- Among the entries that are put in, the last one under a key counts. -/
theorem get?_insertAll
    (params : Params)
    (entries : List (String × String))
    (name : String) :
    (params.insertAll ⟨entries⟩).get? name =
      (entries.reverse.lookup name).or (params.get? name) := by
  induction entries generalizing params with
  | nil =>
      rfl
  | cons entry entries ih =>
      obtain ⟨key, value⟩ := entry
      have hrest := ih (params.insert key value)
      have hfirst := lookup_cons_eq_ite name key value []
      rw [List.lookup_nil] at hfirst
      rw [insertAll, List.foldl_cons, List.reverse_cons, List.lookup_append, hfirst]
      rw [insertAll] at hrest
      rw [hrest, get?_insert, Option.or_assoc]
      by_cases h : name = key
      · rw [if_pos h, if_pos h, Option.some_or]
      · rw [if_neg h, if_neg h, Option.none_or]

theorem get?_ofList
    (entries : List (String × String))
    (name : String) :
    (ofList entries).get? name = entries.reverse.lookup name := by
  rw [ofList, get?_insertAll, get?, empty, List.lookup_nil, Option.or_none]

/-- Taking keys out one after the other takes out exactly these keys. -/
theorem get?_foldl_erase
    (keys : List String)
    (params : Params)
    (name : String) :
    (keys.foldl erase params).get? name = if name ∈ keys then none else params.get? name := by
  induction keys generalizing params with
  | nil =>
      simp
  | cons key keys ih =>
      rw [List.foldl_cons, ih, get?_erase]
      by_cases hkey : name = key <;> by_cases hkeys : name ∈ keys <;> simp [hkey, hkeys]

end Maps

section Order

theorem mem_insertEntry_keys
    {key value name : String}
    {entries : List (String × String)}
    (h : name ∈ (insertEntry key value entries).map Prod.fst) :
    name = key ∨ name ∈ entries.map Prod.fst := by
  induction entries with
  | nil =>
      simpa [insertEntry] using h
  | cons entry entries ih =>
      rw [insertEntry] at h
      split at h
      · rcases List.mem_cons.mp h with rfl | hmem
        · exact Or.inr List.mem_cons_self
        · exact (ih hmem).imp_right (List.mem_cons_of_mem _)
      · split at h
        · rcases List.mem_cons.mp h with rfl | hmem
          · exact Or.inl rfl
          · exact Or.inr (List.mem_cons_of_mem _ hmem)
        · exact List.mem_cons.mp h

/-- Putting an entry in keeps the keys in order, each key once. -/
theorem pairwise_insertEntry
    {key value : String}
    {entries : List (String × String)}
    (hordered : (entries.map Prod.fst).Pairwise (· < ·)) :
    ((insertEntry key value entries).map Prod.fst).Pairwise (· < ·) := by
  induction entries with
  | nil =>
      simp [insertEntry]
  | cons entry entries ih =>
      obtain ⟨hfront, hrest⟩ := List.pairwise_cons.mp hordered
      rw [insertEntry]
      split
      case isTrue hless =>
        refine List.pairwise_cons.mpr ⟨?_, ih hrest⟩
        intro name hname
        rcases mem_insertEntry_keys hname with rfl | hmem
        · exact hless
        · exact hfront name hmem
      case isFalse hnotLess =>
        split
        case isTrue hsame =>
          have hkey : entry.1 = key := by simpa using hsame
          exact List.pairwise_cons.mpr ⟨hkey ▸ hfront, hrest⟩
        case isFalse hother =>
          have hne : key ≠ entry.1 := by
            rintro rfl
            exact hother (beq_self_eq_true _)
          have hkey : key < entry.1 := lt_of_le_of_ne (not_lt.mp hnotLess) hne
          refine List.pairwise_cons.mpr ⟨?_, hordered⟩
          intro name hname
          rcases List.mem_cons.mp hname with rfl | hmem
          · exact hkey
          · exact hkey.trans (hfront name hmem)

theorem pairwise_ofList (entries : List (String × String)) :
    ((ofList entries).entries.map Prod.fst).Pairwise (· < ·) := by
  have hall : ∀ params : Params, (params.entries.map Prod.fst).Pairwise (· < ·) →
      ((params.insertAll ⟨entries⟩).entries.map Prod.fst).Pairwise (· < ·) := by
    induction entries with
    | nil =>
        exact fun _ h => h
    | cons entry entries ih =>
        exact fun params h => ih (params.insert entry.1 entry.2) (pairwise_insertEntry h)
  exact hall empty List.Pairwise.nil

end Order

section Readings

theorem isTrueWord_toString (b : Bool) :
    isTrueWord (toString b) = b := by
  cases b <;> decide

theorem flag_of_get?
    {params : Params}
    {name value : String}
    (h : params.get? name = some value)
    (default : Bool) :
    params.flag name default = isTrueWord value := by
  rw [flag, h]

/-- A number of 64 bits is read back from its digits. -/
theorem readWord?_toString
    {n : Nat}
    (h : n < Text.wordLimit) :
    Text.readWord? (toString n) = some n := by
  have hchars : (toString n).toList = Nat.toDigits 10 n := by
    simp [toString, Nat.repr]
  have hdigits : ∀ c ∈ Nat.toDigits 10 n, c.isDigit = true :=
    fun c hc => Nat.isDigit_of_mem_toDigits (by decide) (by decide) hc
  have hread : Text.readDigits? (Nat.toDigits 10 n) = some n := by
    rw [Text.readDigits?, if_neg (by simpa using hdigits)]
    exact congrArg some Nat.ofDigitChars_ten_toDigits
  rw [Text.readWord?, hchars]
  have hplus : ∀ rest, Nat.toDigits 10 n ≠ '+' :: rest := by
    intro rest heq
    have hmem : '+' ∈ Nat.toDigits 10 n := by
      rw [heq]
      exact List.mem_cons_self
    exact absurd (hdigits '+' hmem) (by decide)
  split
  case h_1 rest heq =>
    exact absurd heq (hplus rest)
  case h_2 =>
    rw [hread, Option.filter_some, if_pos (by simpa using h)]

end Readings

end Params

end Format
end DocTree
