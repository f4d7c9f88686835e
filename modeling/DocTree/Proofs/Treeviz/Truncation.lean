import DocTree.Proofs.Treeviz.Picture

/-!
# Truncation of labels

A label is put on one line and cut to a number of characters, and an ellipsis is put behind what is
left.  The ellipsis makes a label that was cut one character longer than the limit, so a label that
is shortened again may be cut again.  The ellipsis of the first cut is the first character that the
second one takes away, so nothing is seen of the first cut but its limit (`cut_cut`).  Shortening
twice is then shortening once, to the smaller one of the limits (`shorten_shorten`).
-/

namespace DocTree
namespace Format
namespace Treeviz

section Labels

/-- A label that is on one line stays as it is. -/
theorem flatten_of_break_notMem
    {label : List Char}
    (h : '\n' ∉ label) :
    flatten label = label := by
  have hsame : ∀ c ∈ label, (if c == '\n' then ' ' else c) = id c := by
    intro c hc
    have hbreak : c ≠ '\n' := ne_of_mem_of_not_mem hc h
    simp [hbreak]
  rw [flatten, List.map_congr_left hsame, List.map_id]

theorem cut_of_length_le
    {limit : Nat}
    {label : List Char}
    (h : label.length ≤ limit) :
    cut limit label = label :=
  if_pos h

theorem cut_of_lt_length
    {limit : Nat}
    {label : List Char}
    (h : limit < label.length) :
    cut limit label = label.take limit ++ ['…'] :=
  if_neg (Nat.not_le_of_lt h)

theorem length_cut_le
    (limit : Nat)
    (label : List Char) :
    (cut limit label).length ≤ limit + 1 := by
  rcases Nat.lt_or_ge limit label.length with hlong | hshort
  · rw [cut_of_lt_length hlong, List.length_append, List.length_take, List.length_singleton]
    omega
  · rw [cut_of_length_le hshort]
    omega

/-- A label that was cut is cut again as the label itself would be cut. -/
theorem cut_cut
    (limit limit' : Nat)
    (label : List Char) :
    cut limit (cut limit' label) = cut (min limit limit') label := by
  rcases Nat.lt_or_ge limit' label.length with hlong | hshort
  · rw [cut_of_lt_length hlong]
    have hlength : (label.take limit' ++ ['…']).length = limit' + 1 := by
      rw [List.length_append, List.length_take, List.length_singleton]
      omega
    rcases Nat.lt_or_ge limit' limit with hwide | hnarrow
    · -- There is room for the ellipsis of the first cut.
      rw [cut_of_length_le (by omega), Nat.min_eq_right (Nat.le_of_lt hwide),
        cut_of_lt_length hlong]
    · -- The ellipsis of the first cut is taken away and put there again.
      rw [cut_of_lt_length (by omega), Nat.min_eq_left hnarrow,
        cut_of_lt_length (Nat.lt_of_le_of_lt hnarrow hlong),
        List.take_append_of_le_length (by rw [List.length_take]; omega), List.take_take,
        Nat.min_eq_left hnarrow]
  · rw [cut_of_length_le hshort]
    rcases Nat.lt_or_ge limit label.length with hcut | hkept
    · rw [Nat.min_eq_left (by omega)]
    · rw [cut_of_length_le hkept, cut_of_length_le (by omega)]

theorem toList_shorten
    (limit : Nat)
    (label : String) :
    (shorten limit label).toList = cut limit (flatten label.toList) :=
  String.toList_ofList

theorem shorten_shorten
    (limit limit' : Nat)
    (label : String) :
    shorten limit (shorten limit' label) = shorten (min limit limit') label := by
  have hflat := flatten_of_break_notMem (break_notMem_shorten limit' label)
  rw [shorten, hflat, toList_shorten, cut_cut]
  rfl

/-- **Truncation.**  A label that is shortened twice is the label shortened once, to the smaller one
of the limits.  A shortened label has no line break and at most one character more than the limit.
It is the label with blanks for its line breaks, if that has no more characters than the limit, and
else as many characters of that as the limit says and an ellipsis. -/
theorem truncation_composes (limit limit' : Nat) (label : String) :
    shorten limit (shorten limit' label) = shorten (min limit limit') label ∧
      '\n' ∉ (shorten limit label).toList ∧
      (shorten limit label).length ≤ limit + 1 ∧
      let flat := label.map fun c => if c = '\n' then ' ' else c
      (label.length ≤ limit → shorten limit label = flat) ∧
        (limit < label.length →
          (shorten limit label).toList = flat.toList.take limit ++ ['…']) := by
  refine ⟨shorten_shorten limit limit' label, break_notMem_shorten limit label, ?_, ?_⟩
  · rw [← String.length_toList, toList_shorten]
    exact length_cut_le limit _
  · intro flat
    have hflat : flatten label.toList = flat.toList := by
      simp [flat, flatten, String.toList_map]
    have hlength : flat.toList.length = label.length := by
      rw [String.length_toList, String.length_map]
    constructor
    · intro hshort
      rw [← String.toList_inj, toList_shorten, hflat, cut_of_length_le (by omega)]
    · intro hlong
      rw [toList_shorten, hflat, cut_of_lt_length (by omega)]

-- An ellipsis of the label itself counts like any other character.
example :
    shorten 2 "a\nb…" = "a …" ∧ shorten 3 (shorten 2 "a\nb…") = "a …" ∧
      shorten 1 (shorten 2 "a\nb…") = "a…" ∧ shorten 0 (shorten 1 "a\nb…") = "…" := by
  decide

end Labels

end Treeviz
end Format
end DocTree
