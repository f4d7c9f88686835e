/-!
# Splitting texts

Texts that are read from front to back are lists of characters.  `after?` takes a given beginning
off a text, and can be undone by putting the beginning there again (`after?_eq_some_iff`).
`splitAt?` divides a text at the first place where a given text stands.
-/

namespace DocTree
namespace Text

/-- The rest of a text behind a given beginning. -/
def after? : List Char → List Char → Option (List Char)
  | [], chars => some chars
  | _ :: _, [] => none
  | c :: start, c' :: chars => if c = c' then after? start chars else none

theorem after?_eq_some_iff
    (start chars rest : List Char) :
    after? start chars = some rest ↔ chars = start ++ rest := by
  induction start generalizing chars with
  | nil => simp [after?]
  | cons c start ih =>
      cases chars with
      | nil => simp [after?]
      | cons c' chars =>
          by_cases hc : c = c'
          · simp [after?, hc, ih]
          · simp [after?, hc, Ne.symm hc]

/-- The part of a text before the first place where another text stands, and the part behind it. -/
def splitAt? (mark : List Char) : List Char → Option (List Char × List Char)
  | [] => if mark.isEmpty then some ([], []) else none
  | c :: rest =>
      match after? mark (c :: rest) with
      | some behind => some ([], behind)
      | none => (splitAt? mark rest).map fun parts => (c :: parts.1, parts.2)

end Text
end DocTree
