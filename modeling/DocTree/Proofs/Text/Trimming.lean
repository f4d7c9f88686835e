import DocTree.Text.Blank
import Mathlib.Data.List.DropRight
import Mathlib.Data.List.Induction

/-!
# Trimming the end of a text

`trimEnd` leaves the longest part from the front that does not end in white space.  All statements
follow from what it does to a text with one more character at the end (`trimEnd_concat`).
-/

namespace DocTree
namespace Text

/-- The characters do not end in white space; there may be none of them. -/
def NoBlankEnd (chars : List Char) : Prop :=
  ∀ c, chars.getLast? = some c → isBlank c = false

theorem trimEnd_concat (chars : List Char) (c : Char) :
    trimEnd (chars ++ [c]) = if isBlank c then trimEnd chars else chars ++ [c] :=
  List.rdropWhile_concat isBlank chars c

/-- Trimming takes characters from the end only. -/
theorem trimEnd_prefix (chars : List Char) :
    trimEnd chars <+: chars :=
  List.rdropWhile_prefix isBlank chars

theorem noBlankEnd_trimEnd (chars : List Char) :
    NoBlankEnd (trimEnd chars) := by
  induction chars using List.reverseRecOn with
  | nil =>
      intro c hc
      cases hc
  | append_singleton init last ih =>
      rw [trimEnd_concat]
      split
      · exact ih
      · rename_i hlast
        intro c hc
        rw [List.getLast?_concat, Option.some.injEq] at hc
        rw [← hc]
        exact eq_false_of_ne_true hlast

/-- No longer part from the front is without white space at its end. -/
theorem prefix_trimEnd
    {front chars : List Char}
    (hfront : front <+: chars)
    (hend : NoBlankEnd front) :
    front <+: trimEnd chars := by
  induction chars using List.reverseRecOn with
  | nil =>
      exact hfront
  | append_singleton init last ih =>
      rw [trimEnd_concat]
      split
      · rename_i hlast
        rcases List.prefix_concat_iff.mp hfront with rfl | hfront
        · have hblank := hend last List.getLast?_concat
          rw [hlast] at hblank
          cases hblank
        · exact ih hfront
      · exact hfront

end Text
end DocTree
