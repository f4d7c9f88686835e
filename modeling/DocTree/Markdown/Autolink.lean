import DocTree.Markdown.Link
import DocTree.Text.Punctuation
import DocTree.Text.Split

/-!
# Addresses that are links

An address between angle brackets is a link.  With the extension for it, so is an address that
stands bare in the text: one that starts with a scheme, one that starts with `www.`, and one of a
mailbox.

**Extent.**  A bare address of a page reaches to the next separator, and gives back what rather
belongs to the sentence around it: an angle bracket and all behind it, final punctuation, a final
character reference, and closing parentheses without an opening one.
-/

namespace DocTree
namespace Markdown

open Text (after?)

/-- An address found in a text: the link, and the rest of the text behind it. -/
structure Found where
  /-- Destination of the link. -/
  url : String
  /-- Text that is shown for the link. -/
  shown : String
  rest : List Char

/-! ## Between angle brackets -/

/-- Whether a character may stand in a scheme behind its first letter. -/
def isSchemeChar (c : Char) : Bool :=
  c.isAlphanum || c == '.' || c == '+' || c == '-'

/-- Read an address with a scheme behind its angle bracket: the address, and the rest. -/
def angledAddress? (chars : List Char) : Option (List Char × List Char) :=
  let scheme := chars.takeWhile isSchemeChar
  match chars.head?, chars.dropWhile isSchemeChar with
  | some c, ':' :: rest =>
      if c.isAlpha && 2 ≤ scheme.length && scheme.length ≤ 32 then
        let inner := rest.takeWhile fun c => ' ' < c && c != '<' && c != '>'
        match rest.drop inner.length with
        | '>' :: behind => some (scheme ++ ':' :: inner, behind)
        | _ => none
      else none
  | _, _ => none

/-- Whether a character may stand in the local part of a mailbox. -/
def isMailboxChar (c : Char) : Bool :=
  c.isAlphanum || ".!#$%&\x27*+/=?^_\x60\x7b|\x7d~-".toList.contains c

/-- Whether a text is one label of a domain: letters and digits, with hyphens inside. -/
def isDomainLabel (label : List Char) : Bool :=
  !label.isEmpty && label.length ≤ 63 && label.all (fun c => c.isAlphanum || c == '-') &&
    label.head? != some '-' && label.getLast? != some '-'

/-- The parts of a text between dots. -/
def splitDots : List Char → List (List Char)
  | [] => [[]]
  | c :: rest =>
      match c == '.', splitDots rest with
      | true, parts => [] :: parts
      | false, part :: parts => (c :: part) :: parts
      | false, [] => [[c]]

/-- Read the address of a mailbox behind its angle bracket: the address, and the rest. -/
def angledMailbox? (chars : List Char) : Option (List Char × List Char) :=
  let user := chars.takeWhile isMailboxChar
  match chars.dropWhile isMailboxChar with
  | '@' :: rest =>
      let domain := rest.takeWhile fun c => c.isAlphanum || c == '-' || c == '.'
      match rest.drop domain.length with
      | '>' :: behind =>
          if !user.isEmpty && (splitDots domain).all isDomainLabel then
            some (user ++ '@' :: domain, behind)
          else none
      | _ => none
  | _ => none

/-- Read an address between angle brackets behind the first of them. -/
def angledLink? (chars : List Char) : Option Found :=
  let address := fun parts : List Char × List Char =>
    (String.ofList (unescapeEntities (trimBoth parts.1)), parts.2)
  match angledAddress? chars with
  | some parts => some ⟨(address parts).1, (address parts).1, parts.2⟩
  | none =>
      (angledMailbox? chars).map fun parts =>
        ⟨"mailto:" ++ (address parts).1, (address parts).1, parts.2⟩

/-! ## Extent of a bare address -/

/-- Whether a character may stand in the name of a host. -/
def isHostChar (c : Char) : Bool :=
  c == '-' || !(Text.isBlank c || Text.isPunctuation c)

/-- Whether a text starts with the name of a host.  The counts are of the dots so far, and of the
underscores in the last two parts of the name, in which none may stand; a name with more than ten
dots may hold some.  A short name may do without a dot. -/
def startsHost (short : Bool) (dots before last : Nat) : List Char → Bool
  | [] => ((before == 0 && last == 0) || dots > 10) && (short || dots > 0)
  | c :: rest =>
      if c == '\\' && !rest.isEmpty then startsHost short dots before last rest
      else if c == '_' then startsHost short dots before (last + 1) rest
      else if c == '.' then startsHost short (dots + 1) last 0 rest
      else if isHostChar c then startsHost short dots before last rest
      else before == 0 && last == 0 && (short || dots > 0)

/-- Final punctuation, which belongs to the sentence around an address. -/
def isSentenceEnd (c : Char) : Bool :=
  "?!.,:*_~\x27\"".toList.contains c

/-- Drop from the reversed text of an address what belongs to the sentence around it. -/
def trimAddress (reversed : List Char) : List Char :=
  match reversed with
  | [] => []
  | c :: rest =>
      if isSentenceEnd c then trimAddress rest
      else if c == ';' then
        let name := rest.takeWhile Char.isAlpha
        match _hdrop : rest.drop name.length with
        | '&' :: before => if name.isEmpty then trimAddress rest else trimAddress before
        | _ => trimAddress rest
      else if c == ')' then
        if reversed.count ')' ≤ reversed.count '(' then reversed else trimAddress rest
      else reversed
termination_by reversed.length
decreasing_by
  · simp
  · simp
  · have hlen := congrArg List.length _hdrop
    simp only [List.length_drop, List.length_cons] at hlen ⊢
    omega
  · simp
  · simp

/-- The address at the front of a text. -/
def addressOf (chars : List Char) : List Char :=
  let whole := chars.takeWhile fun c => !isSpace c && c != '<'
  (trimAddress whole.reverse).reverse

/-! ## Bare addresses -/

/-- The schemes of addresses that may stand bare. -/
def bareSchemes : List String :=
  ["http", "https", "ftp"]

/-- Find the address whose scheme ends before a text that starts with a colon. -/
def schemeLink? (scheme : String) (chars : List Char) : Option Found :=
  match chars with
  | ':' :: '/' :: '/' :: rest =>
      if bareSchemes.contains scheme && !rest.isEmpty && startsHost true 0 0 0 rest then
        let address := addressOf chars
        let text := scheme ++ String.ofList address
        some ⟨text, text, chars.drop address.length⟩
      else none
  | _ => none

/-- Whether an address without a scheme may start behind a character. -/
def mayPrecede : Option Char → Bool
  | none => true
  | some c => isSpace c || ['*', '_', '~', '(', '['].contains c

/-- Find the address that starts with `www.` at the front of a text. -/
def wwwLink? (previous : Option Char) (chars : List Char) : Option Found :=
  if mayPrecede previous && (after? "www.".toList chars).isSome && startsHost false 0 0 0 chars then
    let address := addressOf chars
    let text := String.ofList address
    some ⟨"http://" ++ text, text, chars.drop address.length⟩
  else none

/-! ## Bare mailboxes -/

/-- Whether a character may stand in the local part of a bare mailbox. -/
def isPlainMailboxChar (c : Char) : Bool :=
  c.isAlphanum || ['.', '+', '-', '_'].contains c

/-- What stands before the at sign of a bare mailbox. -/
structure LocalPart where
  /-- The characters, with the one next to the sign first. -/
  reversed : List Char
  /-- Whether there is a scheme among them. -/
  hasScheme : Bool
  /-- Whether there is a scheme that allows slashes in the domain. -/
  allowsSlashes : Bool

/-- Put a character behind a local part. -/
def LocalPart.push (part : LocalPart) (c : Char) : LocalPart :=
  { part with reversed := c :: part.reversed }

/-- Read the local part before an at sign from reversed text.  A colon belongs to it behind the name
of a scheme. -/
def localPart : List Char → LocalPart
  | [] => ⟨[], false, false⟩
  | c :: before =>
      if isPlainMailboxChar c then (localPart before).push c
      else
        let scheme := String.ofList (before.takeWhile Char.isAlpha).reverse
        if c == ':' && scheme == "mailto" then
          { (localPart before).push c with hasScheme := true }
        else if c == ':' && scheme == "xmpp" then
          { (localPart before).push c with hasScheme := true, allowsSlashes := true }
        else ⟨[], false, false⟩

/-- The domain behind an at sign, and the number of its dots.  With `slashes` it may hold
slashes. -/
def mailDomain (slashes : Bool) : List Char → List Char × Nat
  | [] => ([], 0)
  | c :: rest =>
      let more := mailDomain slashes rest
      if c.isAlphanum || c == '-' || c == '_' || (slashes && c == '/') then (c :: more.1, more.2)
      else if c == '.' && rest.head?.any Char.isAlphanum then (c :: more.1, more.2 + 1)
      else ([], 0)

/-- Find the mailbox around an at sign, between the reversed text before it and the text behind it.
Gives the number of characters before the sign that belong to it as well. -/
def mailboxAt? (reversed behind : List Char) : Option (Nat × Found) :=
  let user := localPart reversed
  let domain := mailDomain user.allowsSlashes behind
  let next := behind.drop domain.1.length
  let ends := domain.1.getLast?.any fun c => c.isAlpha || c == '.'
  if user.reversed.isEmpty || domain.2 == 0 || !ends || next.head? == some '@' then none
  else
    let address := (trimAddress ('@' :: domain.1).reverse).reverse
    if address.isEmpty then none
    else
      let text := String.ofList (user.reversed.reverse ++ address)
      let url := if user.hasScheme then text else "mailto:" ++ text
      some (user.reversed.length, ⟨url, text, behind.drop (address.length - 1)⟩)

/-- Find the first mailbox in a text, where the reversed text before it is given: the text before
the mailbox, and the mailbox.  A text in square brackets holds none. -/
def mailboxIn? (depth : Int) (reversed : List Char) : List Char → Option (List Char × Found)
  | [] => none
  | c :: rest =>
      let depth := if c == '[' then depth + 1 else if c == ']' then depth - 1 else depth
      let found := if c == '@' && depth ≤ 0 then mailboxAt? reversed rest else none
      match found with
      | some (n, link) => some ((reversed.drop n).reverse, link)
      | none => mailboxIn? depth (c :: reversed) rest

end Markdown
end DocTree
