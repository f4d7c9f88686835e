import DocTree.Text.Lowercase

/-!
# Texts in lower case

A text without capital letters that uses only characters before `À` is its own lower case.  This is
so for all names that the project itself looks up, and it is decided without a look into the tables
of capital letters.
-/

namespace DocTree
namespace Text

/-- Whether all characters stand before `À` and none of them is a capital letter. -/
def isPlainLower (s : String) : Bool :=
  s.toList.all fun c => c.toNat < 0x41 || (0x5A < c.toNat && c.toNat < 0xC0)

theorem lowercaseChar_eq_self
    {c : Char}
    (hc : c.toNat < 0x41 ∨ 0x5A < c.toNat ∧ c.toNat < 0xC0) :
    lowercaseChar c = c := by
  have hruns : ∀ run ∈ capitalRuns, 0x41 ≤ run.1 ∧ (run.2.1 ≤ 0x5A ∨ 0xC0 ≤ run.1) := by
    decide +kernel
  have hnone : capitalRuns.find? (inRun c) = none := by
    rw [List.find?_eq_none]
    intro run hrun hin
    have hbounds := hruns run hrun
    simp only [inRun, Bool.and_eq_true, decide_eq_true_eq] at hin
    omega
  rw [lowercaseChar, hnone]

theorem lowercaseAfter_eq_self
    (before : List Char)
    {chars : List Char}
    (hchars : ∀ c ∈ chars, c.toNat < 0x41 ∨ 0x5A < c.toNat ∧ c.toNat < 0xC0) :
    lowercaseAfter before chars = chars := by
  induction chars generalizing before with
  | nil =>
      rfl
  | cons c rest ih =>
      have hc := hchars c List.mem_cons_self
      have hdotted : c ≠ 'İ' := by
        rintro rfl
        exact absurd hc (by decide)
      have hsigma : c ≠ 'Σ' := by
        rintro rfl
        exact absurd hc (by decide)
      rw [lowercaseAfter, if_neg (by simpa using hdotted), if_neg (by simpa using hsigma),
        lowercaseChar_eq_self hc, ih _ fun d hd => hchars d (List.mem_cons_of_mem _ hd)]
      rfl

theorem lowercase_eq_self
    {s : String}
    (hs : isPlainLower s = true) :
    lowercase s = s := by
  have hchars : ∀ c ∈ s.toList, c.toNat < 0x41 ∨ 0x5A < c.toNat ∧ c.toNat < 0xC0 := by
    simpa [isPlainLower] using hs
  rw [lowercase, lowercaseAfter_eq_self [] hchars, String.ofList_toList]

end Text
end DocTree
