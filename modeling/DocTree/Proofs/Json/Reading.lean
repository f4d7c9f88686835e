import DocTree.Json.Printer
import DocTree.Text.Decimal
import DocTree.Text.Hexadecimal
import Mathlib.Data.List.Forall2

/-!
# Reading JSON

A reader of JSON texts in two machines, one below the other.

**Scanning.**  The lower machine reads characters and gives tokens.  Its mode says what it is in
the middle of: a name, a number, a string or an escape.  Blanks between tokens are skipped, so the
layout of a text plays no part.  An escape may be of any kind that the format has, except that half
of a surrogate pair denotes no character and is refused.

**Reading.**  The upper machine reads tokens.  It keeps the containers that are still open on a
stack, and knows what has to come next.

Each machine is proved to undo one half of the printer: `scan_write` gives the tokens of a value
back, whatever stands behind it, and `readsAs_tokens` the value, whatever is open around it.

**Result.**
* `read_pretty`: a printed value is read back.
-/

namespace DocTree
namespace Json

section Scanning

inductive Token
  | null
  | bool (value : Bool)
  | number (value : Nat)
  | string (value : String)
  | openArray
  | closeArray
  | openObject
  | closeObject
  | comma
  | colon
deriving DecidableEq, Repr

/-- What a scan is in the middle of, with what it has collected so far. -/
inductive Mode
  | between
  | name (letters : List Char)
  | number (value : Nat)
  | quoted (chars : List Char)
  | escaped (chars : List Char)
  | hex (chars digits : List Char)
deriving DecidableEq, Repr

def nameToken? (letters : List Char) : Option Token :=
  if letters = "null".toList then some .null
  else if letters = "true".toList then some (.bool true)
  else if letters = "false".toList then some (.bool false)
  else none

def mark? : Char → Option Token
  | '[' => some .openArray
  | ']' => some .closeArray
  | '\x7b' => some .openObject
  | '\x7d' => some .closeObject
  | ',' => some .comma
  | ':' => some .colon
  | _ => none

def isBlank (c : Char) : Bool :=
  c == ' ' || c == '\n' || c == '\t' || c == '\r'

/-- A character between tokens. -/
def start? (c : Char) : Option (List Token × Mode) :=
  if isBlank c then some ([], .between)
  else if c = '"' then some ([], .quoted [])
  else if c.isDigit then some ([], .number (Text.digitValue c))
  else if c.isLower then some ([], .name [c])
  else (mark? c).map fun token => ([token], .between)

/-- What a letter behind a backslash denotes. -/
def unescape? : Char → Option Char
  | '"' => some '"'
  | '\\' => some '\\'
  | '/' => some '/'
  | 'b' => some '\x08'
  | 'f' => some '\x0c'
  | 'n' => some '\n'
  | 'r' => some '\r'
  | 't' => some '\t'
  | _ => none

/-- The character of four hexadecimal digits. -/
def hexChar? (digits : List Char) : Option Char :=
  let n := Text.ofHexDigits digits
  if n.isValidChar then some (Char.ofNat n) else none

/-- The token that is complete when nothing more belongs to it. -/
def finish? : Mode → Option (List Token)
  | .between => some []
  | .name letters => (nameToken? letters).map fun token => [token]
  | .number value => some [.number value]
  | .quoted _ => none
  | .escaped _ => none
  | .hex _ _ => none

/-- One character: the tokens that it completes, and the mode behind it. -/
def scanChar? (mode : Mode) (c : Char) : Option (List Token × Mode) :=
  match mode with
  | .quoted chars =>
      if c = '"' then some ([.string (String.ofList chars)], .between)
      else if c = '\\' then some ([], .escaped chars)
      else if c.toNat < 32 then none
      else some ([], .quoted (chars ++ [c]))
  | .escaped chars =>
      if c = 'u' then some ([], .hex chars [])
      else (unescape? c).map fun c => ([], .quoted (chars ++ [c]))
  | .hex chars digits =>
      if !Text.isHexDigit c then none
      else if digits.length < 3 then some ([], .hex chars (digits ++ [c]))
      else (hexChar? (digits ++ [c])).map fun c => ([], .quoted (chars ++ [c]))
  | .name letters =>
      if c.isLower then some ([], .name (letters ++ [c]))
      else (finish? (.name letters)).bind fun tokens =>
        (start? c).map fun next => (tokens ++ next.1, next.2)
  | .number value =>
      if c.isDigit then some ([], .number (10 * value + Text.digitValue c))
      else (start? c).map fun next => (.number value :: next.1, next.2)
  | .between => start? c

/-- The tokens of the rest of a text. -/
def scan (mode : Mode) : List Char → Option (List Token)
  | [] => finish? mode
  | c :: chars =>
      (scanChar? mode c).bind fun next =>
        (scan next.2 chars).map fun tokens => next.1 ++ tokens

theorem scan_cons_of_step
    {mode mode' : Mode}
    {c : Char}
    (h : scanChar? mode c = some ([], mode'))
    (chars : List Char) :
    scan mode (c :: chars) = scan mode' chars := by
  simp [scan, h]

/-- Whether a text may stand behind a name or a number without belonging to it. -/
def Closes : List Char → Prop
  | [] => True
  | c :: _ => c.isDigit = false ∧ c.isLower = false

/-- Whether a text has the tokens, whatever closes it. -/
def ScansTo (text : List Char) (tokens : List Token) : Prop :=
  ∀ rest, Closes rest →
    scan .between (text ++ rest) = (scan .between rest).map fun more => tokens ++ more

end Scanning

section Strings

theorem isHexDigit_hexDigit :
    ∀ n < 16, Text.isHexDigit (hexDigit n) = true := by
  decide

theorem hexValue_hexDigit :
    ∀ n < 16, Text.hexValue (hexDigit n) = n := by
  decide

/-- The escape of a control character by its number. -/
theorem scan_hexEscape
    {c : Char}
    (hc : c.toNat < 32)
    (chars rest : List Char) :
    scan (.escaped chars)
        ('u' :: '0' :: '0' :: hexDigit (c.toNat / 16) :: hexDigit (c.toNat % 16) :: rest) =
      scan (.quoted (chars ++ [c])) rest := by
  have hhigh := isHexDigit_hexDigit (c.toNat / 16) (by omega)
  have hlow := isHexDigit_hexDigit (c.toNat % 16) (by omega)
  have hzero : Text.isHexDigit '0' = true := by decide
  have hvalue :
      Text.ofHexDigits ['0', '0', hexDigit (c.toNat / 16), hexDigit (c.toNat % 16)] = c.toNat := by
    have hzero' : Text.hexValue '0' = 0 := by decide
    simp only [Text.ofHexDigits, List.foldl_cons, List.foldl_nil, hzero',
      hexValue_hexDigit (c.toNat / 16) (by omega), hexValue_hexDigit (c.toNat % 16) (by omega)]
    omega
  have hchar :
      hexChar? ['0', '0', hexDigit (c.toNat / 16), hexDigit (c.toNat % 16)] = some c := by
    have hvalid : c.toNat.isValidChar := c.valid
    simp only [hexChar?, hvalue, if_pos hvalid, Char.ofNat_toNat]
  have hopen : scanChar? (.escaped chars) 'u' = some ([], .hex chars []) := rfl
  have hfirst : scanChar? (.hex chars []) '0' = some ([], .hex chars ['0']) := by
    simp [scanChar?, hzero]
  have hsecond : scanChar? (.hex chars ['0']) '0' = some ([], .hex chars ['0', '0']) := by
    simp [scanChar?, hzero]
  have hthird : scanChar? (.hex chars ['0', '0']) (hexDigit (c.toNat / 16)) =
      some ([], .hex chars ['0', '0', hexDigit (c.toNat / 16)]) := by
    simp [scanChar?, hhigh]
  have hfourth : scanChar? (.hex chars ['0', '0', hexDigit (c.toNat / 16)])
      (hexDigit (c.toNat % 16)) = some ([], .quoted (chars ++ [c])) := by
    simp [scanChar?, hlow, hchar]
  rw [scan_cons_of_step hopen, scan_cons_of_step hfirst, scan_cons_of_step hsecond,
    scan_cons_of_step hthird, scan_cons_of_step hfourth]

/-- A character stands in a string under a letter, under its number, or for itself. -/
theorem escape_cases (c : Char) :
    (∃ letter, escape c = ['\\', letter] ∧ letter ≠ 'u' ∧ unescape? letter = some c) ∨
    (c.toNat < 32 ∧
      escape c = ['\\', 'u', '0', '0', hexDigit (c.toNat / 16), hexDigit (c.toNat % 16)]) ∨
    (c ≠ '"' ∧ c ≠ '\\' ∧ 32 ≤ c.toNat ∧ escape c = [c]) := by
  have hnamed : ∀ n : Nat, c.toNat = n → c = Char.ofNat n := by
    rintro n rfl
    exact (Char.ofNat_toNat c).symm
  by_cases hquote : c = '"'
  · subst hquote
    exact Or.inl ⟨'"', by decide⟩
  by_cases hslash : c = '\\'
  · subst hslash
    exact Or.inl ⟨'\\', by decide⟩
  by_cases hbackspace : c.toNat = 8
  · rw [hnamed 8 hbackspace]
    exact Or.inl ⟨'b', by decide⟩
  by_cases htab : c.toNat = 9
  · rw [hnamed 9 htab]
    exact Or.inl ⟨'t', by decide⟩
  by_cases hfeed : c.toNat = 10
  · rw [hnamed 10 hfeed]
    exact Or.inl ⟨'n', by decide⟩
  by_cases hform : c.toNat = 12
  · rw [hnamed 12 hform]
    exact Or.inl ⟨'f', by decide⟩
  by_cases hreturn : c.toNat = 13
  · rw [hnamed 13 hreturn]
    exact Or.inl ⟨'r', by decide⟩
  right
  by_cases hcontrol : c.toNat < 32
  · left
    refine ⟨hcontrol, ?_⟩
    simp [escape, hquote, hslash, hbackspace, htab, hfeed, hform, hreturn, hcontrol]
  · right
    refine ⟨hquote, hslash, by omega, ?_⟩
    simp [escape, hquote, hslash, hbackspace, htab, hfeed, hform, hreturn, hcontrol]

/-- A character is read back from the way in which it stands in a string. -/
theorem scan_escape
    (c : Char)
    (chars rest : List Char) :
    scan (.quoted chars) (escape c ++ rest) = scan (.quoted (chars ++ [c])) rest := by
  rcases escape_cases c with
    ⟨letter, hescape, hletter, hdenotes⟩ | ⟨hcontrol, hescape⟩ | ⟨hquote, hslash, hplain, hescape⟩
  · have hopen : scanChar? (.quoted chars) '\\' = some ([], .escaped chars) := rfl
    have hclose : scanChar? (.escaped chars) letter = some ([], .quoted (chars ++ [c])) := by
      simp [scanChar?, hletter, hdenotes]
    rw [hescape, List.cons_append, scan_cons_of_step hopen]
    exact scan_cons_of_step hclose rest
  · have hopen : scanChar? (.quoted chars) '\\' = some ([], .escaped chars) := rfl
    rw [hescape, List.cons_append, scan_cons_of_step hopen]
    exact scan_hexEscape hcontrol chars rest
  · have hself : scanChar? (.quoted chars) c = some ([], .quoted (chars ++ [c])) := by
      simp [scanChar?, hquote, hslash, Nat.not_lt.mpr hplain]
    rw [hescape]
    exact scan_cons_of_step hself rest

theorem scan_writeString
    (s : String)
    (rest : List Char) :
    scan .between (writeString s ++ rest) =
      (scan .between rest).map fun more => .string s :: more := by
  have hchars : ∀ cs chars : List Char,
      scan (.quoted chars) (cs.flatMap escape ++ '"' :: rest) =
        (scan .between rest).map fun more => .string (String.ofList (chars ++ cs)) :: more := by
    intro cs
    induction cs with
    | nil =>
        intro chars
        simp [scan, scanChar?]
    | cons c cs ih =>
        intro chars
        rw [List.flatMap_cons, List.append_assoc, scan_escape, ih, List.append_assoc]
        rfl
  have hopen : scanChar? .between '"' = some ([], .quoted []) := by decide
  rw [writeString, List.cons_append, scan_cons_of_step hopen, List.append_assoc]
  rw [List.singleton_append, hchars, List.nil_append, String.ofList_toList]

theorem scansTo_writeString (s : String) :
    ScansTo (writeString s) [.string s] :=
  fun rest _ => scan_writeString s rest

end Strings

section Leaves

/-- A name ends where something stands behind it that is no part of it. -/
theorem scan_name
    {letters : List Char}
    {token : Token}
    (hname : nameToken? letters = some token)
    {rest : List Char}
    (hrest : Closes rest) :
    scan (.name letters) rest = (scan .between rest).map fun more => token :: more := by
  cases rest with
  | nil =>
      simp [scan, finish?, hname]
  | cons c rest =>
      obtain ⟨hdigit, hlower⟩ := hrest
      cases hstart : start? c with
      | none =>
          simp [scan, scanChar?, finish?, hname, hlower, hstart]
      | some next =>
          simp [scan, scanChar?, finish?, hname, hlower, hstart]
          rfl

theorem scan_number
    (value : Nat)
    {rest : List Char}
    (hrest : Closes rest) :
    scan (.number value) rest = (scan .between rest).map fun more => .number value :: more := by
  cases rest with
  | nil =>
      rfl
  | cons c rest =>
      obtain ⟨hdigit, hlower⟩ := hrest
      cases hstart : start? c with
      | none =>
          simp [scan, scanChar?, hdigit, hstart]
      | some next =>
          simp [scan, scanChar?, hdigit, hstart]
          rfl

theorem scan_letters
    {more : List Char}
    (hmore : ∀ c ∈ more, c.isLower = true)
    (letters rest : List Char) :
    scan (.name letters) (more ++ rest) = scan (.name (letters ++ more)) rest := by
  induction more generalizing letters with
  | nil =>
      rw [List.nil_append, List.append_nil]
  | cons c more ih =>
      have hc : c.isLower = true := hmore c List.mem_cons_self
      have hrest := ih fun c' hc' => hmore c' (List.mem_cons_of_mem _ hc')
      have hstep : scanChar? (.name letters) c = some ([], .name (letters ++ [c])) := by
        simp [scanChar?, hc]
      rw [List.cons_append, scan_cons_of_step hstep, hrest, List.append_assoc]
      rfl

theorem scan_digits
    {digits : List Char}
    (hdigits : ∀ c ∈ digits, c.isDigit = true)
    (value : Nat)
    (rest : List Char) :
    scan (.number value) (digits ++ rest) =
      scan (.number (Nat.ofDigitChars 10 digits value)) rest := by
  induction digits generalizing value with
  | nil =>
      rfl
  | cons c digits ih =>
      have hc : c.isDigit = true := hdigits c List.mem_cons_self
      have hmore := ih fun c' hc' => hdigits c' (List.mem_cons_of_mem _ hc')
      have hstep : scanChar? (.number value) c =
          some ([], .number (10 * value + Text.digitValue c)) := by
        simp [scanChar?, hc]
      rw [List.cons_append, scan_cons_of_step hstep, hmore]
      rfl

theorem start?_of_isDigit
    {c : Char}
    (h : c.isDigit = true) :
    start? c = some ([], .number (Text.digitValue c)) := by
  have hne : ∀ c' : Char, c'.isDigit = false → c ≠ c' := by
    rintro c' hc' rfl
    rw [h] at hc'
    cases hc'
  have hblank : isBlank c = false := by
    simp [isBlank, hne ' ' (by decide), hne '\n' (by decide), hne '\t' (by decide),
      hne '\r' (by decide)]
  have hquote : c ≠ '"' := hne '"' (by decide)
  simp [start?, hblank, hquote, h]

theorem scansTo_name
    {c : Char}
    {letters : List Char}
    {token : Token}
    (hstart : start? c = some ([], .name [c]))
    (hletters : letters.all Char.isLower = true)
    (hname : nameToken? (c :: letters) = some token) :
    ScansTo (c :: letters) [token] := by
  intro rest hrest
  have hfirst : scanChar? .between c = some ([], .name [c]) := hstart
  have hmore := scan_letters (List.all_eq_true.mp hletters) [c] rest
  rw [List.cons_append, scan_cons_of_step hfirst, hmore, List.singleton_append,
    scan_name hname hrest]
  rfl

theorem scansTo_digits (n : Nat) :
    ScansTo (Nat.toDigits 10 n) [.number n] := by
  intro rest hrest
  have hdigits : ∀ c ∈ Nat.toDigits 10 n, c.isDigit = true :=
    fun c hc => Nat.isDigit_of_mem_toDigits (by decide) (by decide) hc
  have hvalue : Nat.ofDigitChars 10 (Nat.toDigits 10 n) 0 = n := Nat.ofDigitChars_ten_toDigits
  obtain ⟨c, digits, hcons⟩ := List.exists_cons_of_ne_nil (@Nat.toDigits_ne_nil n 10)
  rw [hcons] at hdigits hvalue ⊢
  have hfirst : scanChar? .between c = some ([], .number (Text.digitValue c)) :=
    start?_of_isDigit (hdigits c List.mem_cons_self)
  have hmore := scan_digits (fun c' hc' => hdigits c' (List.mem_cons_of_mem _ hc'))
    (Text.digitValue c) rest
  have hsum : Nat.ofDigitChars 10 digits (Text.digitValue c) = n := by
    rw [← hvalue]
    simp [Nat.ofDigitChars, Text.digitValue]
  rw [List.cons_append, scan_cons_of_step hfirst, hmore, hsum, scan_number n hrest]
  rfl

end Leaves

section Containers

def moreTokens : List (List Token) → List Token
  | [] => []
  | item :: items => .comma :: (item ++ moreTokens items)

/-- The tokens of items between brackets. -/
def bracketTokens (opening closing : Token) : List (List Token) → List Token
  | [] => [opening, closing]
  | item :: items => opening :: (item ++ moreTokens items ++ [closing])

mutual

/-- The tokens of a value. -/
def tokens : Json → List Token
  | .null => [.null]
  | .bool value => [.bool value]
  | .number n => [.number n]
  | .string s => [.string s]
  | .array items => bracketTokens .openArray .closeArray (itemTokens items)
  | .object members => bracketTokens .openObject .closeObject (memberTokens members)

def itemTokens : List Json → List (List Token)
  | [] => []
  | item :: items => tokens item :: itemTokens items

def memberTokens : List (String × Json) → List (List Token)
  | [] => []
  | m :: members => keyTokens m :: memberTokens members

def keyTokens : String × Json → List Token
  | (key, value) => .string key :: .colon :: tokens value

end

theorem scan_mark
    {c : Char}
    {token : Token}
    (h : start? c = some ([token], .between))
    (chars : List Char) :
    scan .between (c :: chars) = (scan .between chars).map fun more => token :: more := by
  have hstep : scanChar? .between c = some ([token], .between) := h
  simp [scan, hstep]

theorem scan_newline
    (level : Nat)
    (rest : List Char) :
    scan .between (newline level ++ rest) = scan .between rest := by
  have hbreak : scanChar? .between '\n' = some ([], .between) := by decide
  have hspace : scanChar? .between ' ' = some ([], .between) := by decide
  have hspaces : ∀ n : Nat,
      scan .between (List.replicate n ' ' ++ rest) = scan .between rest := by
    intro n
    induction n with
    | zero =>
        rfl
    | succ n ih =>
        rw [List.replicate_succ, List.cons_append, scan_cons_of_step hspace, ih]
  rw [newline, List.cons_append, scan_cons_of_step hbreak, hspaces]

theorem closes_newline
    (level : Nat)
    (rest : List Char) :
    Closes (newline level ++ rest) := by
  constructor <;> decide

theorem closes_writeMore
    {level : Nat}
    {texts : List (List Char)}
    {rest : List Char}
    (hrest : Closes rest) :
    Closes (writeMore level texts ++ rest) := by
  cases texts with
  | nil =>
      exact hrest
  | cons text texts =>
      constructor <;> decide

theorem scan_writeMore
    (level : Nat)
    {texts : List (List Char)}
    {items : List (List Token)}
    (h : List.Forall₂ ScansTo texts items)
    {rest : List Char}
    (hrest : Closes rest) :
    scan .between (writeMore level texts ++ rest) =
      (scan .between rest).map fun more => moreTokens items ++ more := by
  induction h with
  | nil =>
      simp [writeMore, moreTokens]
  | @cons text item texts items hfirst _ ih =>
      have hcomma : start? ',' = some ([.comma], .between) := by decide
      have hitem := hfirst (writeMore level texts ++ rest) (closes_writeMore hrest)
      rw [writeMore, List.cons_append, scan_mark hcomma, List.append_assoc, List.append_assoc,
        scan_newline, hitem, ih]
      simp [moreTokens, Function.comp_def]

/-- Items between brackets, whatever the brackets and the items are. -/
theorem scansTo_writeBracketed
    {opening closing : Char}
    {first last : Token}
    (hopening : start? opening = some ([first], .between))
    (hclosing : start? closing = some ([last], .between))
    (level : Nat)
    {texts : List (List Char)}
    {items : List (List Token)}
    (h : List.Forall₂ ScansTo texts items) :
    ScansTo (writeBracketed opening closing level texts) (bracketTokens first last items) := by
  intro rest _
  cases h with
  | nil =>
      rw [writeBracketed, List.cons_append, scan_mark hopening, List.cons_append,
        scan_mark hclosing]
      simp [bracketTokens, Function.comp_def]
  | @cons text item texts items hfirst hmore =>
      have hend : Closes (newline level ++ (closing :: rest)) := closes_newline level _
      have hitem := hfirst (writeMore (level + 1) texts ++ (newline level ++ (closing :: rest)))
        (closes_writeMore hend)
      have hitems := scan_writeMore (level + 1) hmore hend
      have htext : writeBracketed opening closing level (text :: texts) ++ rest =
          opening :: (newline (level + 1) ++
            (text ++ (writeMore (level + 1) texts ++ (newline level ++ (closing :: rest))))) := by
        simp [writeBracketed]
      rw [htext, scan_mark hopening, scan_newline, hitem, hitems, scan_newline,
        scan_mark hclosing]
      simp [bracketTokens, Function.comp_def]

mutual

/-- The scan of a printed value gives its tokens. -/
theorem scan_write :
    ∀ (value : Json) (level : Nat), ScansTo (write level value) (tokens value)
  | .null, _ => scansTo_name (by decide) (by decide) (by decide)
  | .bool true, _ => scansTo_name (by decide) (by decide) (by decide)
  | .bool false, _ => scansTo_name (by decide) (by decide) (by decide)
  | .number n, _ => scansTo_digits n
  | .string s, _ => scansTo_writeString s
  | .array items, level =>
      scansTo_writeBracketed (by decide) (by decide) level (scan_writeItems items (level + 1))
  | .object members, level =>
      scansTo_writeBracketed (by decide) (by decide) level (scan_writeMembers members (level + 1))

theorem scan_writeItems :
    ∀ (items : List Json) (level : Nat),
      List.Forall₂ ScansTo (writeItems level items) (itemTokens items)
  | [], _ => .nil
  | item :: items, level => .cons (scan_write item level) (scan_writeItems items level)

theorem scan_writeMembers :
    ∀ (members : List (String × Json)) (level : Nat),
      List.Forall₂ ScansTo (writeMembers level members) (memberTokens members)
  | [], _ => .nil
  | m :: members, level => .cons (scan_writeMember m level) (scan_writeMembers members level)

theorem scan_writeMember :
    ∀ (m : String × Json) (level : Nat), ScansTo (writeMember level m) (keyTokens m)
  | (key, value), level => by
      intro rest hrest
      have hcolon : start? ':' = some ([.colon], .between) := by decide
      have hspace : scanChar? .between ' ' = some ([], .between) := by decide
      have hvalue := scan_write value level rest hrest
      rw [writeMember, List.append_assoc, scan_writeString, List.cons_append, scan_mark hcolon,
        List.cons_append, scan_cons_of_step hspace, hvalue]
      simp [keyTokens, Function.comp_def]

end

end Containers

section Machine

/-- A container that is still open, with what it holds so far. -/
inductive Frame
  | array (items : List Json)
  | object (members : List (String × Json)) (key : String)

/-- What has to come next. -/
inductive Stage
  | value
  /-- The first item of an array, or its end. -/
  | firstItem
  /-- The first key of an object, or its end. -/
  | firstKey
  | key (members : List (String × Json))
  | colon (members : List (String × Json)) (key : String)
  /-- A value is complete: a comma, or the end of the container around it. -/
  | complete (value : Json)

/-- What a reader knows between two tokens. -/
structure Reader where
  stage : Stage
  /-- The open containers, the innermost one first. -/
  frames : List Frame

/-- The first token of a value. -/
def begin? (frames : List Frame) : Token → Option Reader
  | .null => some ⟨.complete .null, frames⟩
  | .bool value => some ⟨.complete (.bool value), frames⟩
  | .number n => some ⟨.complete (.number n), frames⟩
  | .string s => some ⟨.complete (.string s), frames⟩
  | .openArray => some ⟨.firstItem, frames⟩
  | .openObject => some ⟨.firstKey, frames⟩
  | _ => none

def Reader.step? : Reader → Token → Option Reader
  | ⟨.value, frames⟩, token => begin? frames token
  | ⟨.firstItem, frames⟩, token =>
      if token = .closeArray then some ⟨.complete (.array []), frames⟩
      else begin? (.array [] :: frames) token
  | ⟨.firstKey, frames⟩, .closeObject => some ⟨.complete (.object []), frames⟩
  | ⟨.firstKey, frames⟩, .string key => some ⟨.colon [] key, frames⟩
  | ⟨.key members, frames⟩, .string key => some ⟨.colon members key, frames⟩
  | ⟨.colon members key, frames⟩, .colon => some ⟨.value, .object members key :: frames⟩
  | ⟨.complete value, .array items :: frames⟩, .comma =>
      some ⟨.value, .array (items ++ [value]) :: frames⟩
  | ⟨.complete value, .array items :: frames⟩, .closeArray =>
      some ⟨.complete (.array (items ++ [value])), frames⟩
  | ⟨.complete value, .object members key :: frames⟩, .comma =>
      some ⟨.key (members ++ [(key, value)]), frames⟩
  | ⟨.complete value, .object members key :: frames⟩, .closeObject =>
      some ⟨.complete (.object (members ++ [(key, value)])), frames⟩
  | _, _ => none

def Reader.run? (reader : Reader) (tokens : List Token) : Option Reader :=
  tokens.foldlM Reader.step? reader

/-- Read a text that is one value. -/
def read (text : String) : Option Json :=
  match (scan .between text.toList).bind (Reader.run? ⟨.value, []⟩) with
  | some ⟨.complete value, []⟩ => some value
  | _ => none

theorem Reader.run?_cons
    {reader next : Reader}
    {token : Token}
    (h : reader.step? token = some next)
    (tokens : List Token) :
    reader.run? (token :: tokens) = next.run? tokens := by
  rw [run?, List.foldlM_cons, h]
  rfl

theorem Reader.run?_append
    {reader next : Reader}
    {front : List Token}
    (h : reader.run? front = some next)
    (tokens : List Token) :
    reader.run? (front ++ tokens) = next.run? tokens := by
  rw [run?] at h
  rw [run?, List.foldlM_append, h]
  rfl

/-- Whether tokens are read as a value, whatever is open around it. -/
def ReadsAs (value : Json) (tokens : List Token) : Prop :=
  ∀ frames, Reader.run? ⟨.value, frames⟩ tokens = some ⟨.complete value, frames⟩

/-- The first item of an array is read like any other item, for no value starts with a closing
bracket. -/
theorem ReadsAs.firstItem
    {value : Json}
    {tokens : List Token}
    (h : ReadsAs value tokens)
    (frames : List Frame) :
    Reader.run? ⟨.firstItem, frames⟩ tokens =
      some ⟨.complete value, .array [] :: frames⟩ := by
  have hvalue := h (.array [] :: frames)
  cases tokens with
  | nil =>
      cases hvalue
  | cons token tokens =>
      have hne : token ≠ .closeArray := by
        rintro rfl
        cases hvalue
      have hstep : Reader.step? ⟨.firstItem, frames⟩ token =
          Reader.step? ⟨.value, .array [] :: frames⟩ token := by
        simp [Reader.step?, hne]
      rw [Reader.run?, List.foldlM_cons, hstep]
      exact hvalue

theorem run?_moreItems
    {values : List Json}
    {items : List (List Token)}
    (h : List.Forall₂ ReadsAs values items)
    (front : List Json)
    (value : Json)
    (frames : List Frame) :
    Reader.run? ⟨.complete value, .array front :: frames⟩ (moreTokens items ++ [.closeArray]) =
      some ⟨.complete (.array (front ++ value :: values)), frames⟩ := by
  induction h generalizing front value with
  | nil =>
      rfl
  | @cons next item values items hfirst _ ih =>
      have hcomma : Reader.step? ⟨.complete value, .array front :: frames⟩ .comma =
          some ⟨.value, .array (front ++ [value]) :: frames⟩ := rfl
      have hrest := ih (front ++ [value]) next
      rw [moreTokens, List.cons_append, Reader.run?_cons hcomma, List.append_assoc,
        Reader.run?_append (hfirst _), hrest, List.append_assoc]
      rfl

theorem readsAs_array
    {values : List Json}
    {items : List (List Token)}
    (h : List.Forall₂ ReadsAs values items) :
    ReadsAs (.array values) (bracketTokens .openArray .closeArray items) := by
  intro frames
  have hopen : Reader.step? ⟨.value, frames⟩ .openArray = some ⟨.firstItem, frames⟩ := rfl
  cases h with
  | nil =>
      rfl
  | @cons value item values items hfirst hmore =>
      rw [bracketTokens, Reader.run?_cons hopen, List.append_assoc,
        Reader.run?_append (hfirst.firstItem frames)]
      exact run?_moreItems hmore [] value frames

/-- Whether tokens are read as a member, from its key on. -/
def ReadsAsMember (m : String × Json) (tokens : List Token) : Prop :=
  ∃ more, tokens = .string m.1 :: .colon :: more ∧ ReadsAs m.2 more

theorem run?_moreMembers
    {members : List (String × Json)}
    {items : List (List Token)}
    (h : List.Forall₂ ReadsAsMember members items)
    (front : List (String × Json))
    (key : String)
    (value : Json)
    (frames : List Frame) :
    Reader.run? ⟨.complete value, .object front key :: frames⟩
        (moreTokens items ++ [.closeObject]) =
      some ⟨.complete (.object (front ++ (key, value) :: members)), frames⟩ := by
  induction h generalizing front key value with
  | nil =>
      rfl
  | @cons m item members items hfirst _ ih =>
      obtain ⟨more, rfl, hvalue⟩ := hfirst
      have hcomma : Reader.step? ⟨.complete value, .object front key :: frames⟩ .comma =
          some ⟨.key (front ++ [(key, value)]), frames⟩ := rfl
      have hkey : Reader.step? ⟨.key (front ++ [(key, value)]), frames⟩ (.string m.1) =
          some ⟨.colon (front ++ [(key, value)]) m.1, frames⟩ := rfl
      have hcolon : Reader.step? ⟨.colon (front ++ [(key, value)]) m.1, frames⟩ .colon =
          some ⟨.value, .object (front ++ [(key, value)]) m.1 :: frames⟩ := rfl
      have hrest := ih (front ++ [(key, value)]) m.1 m.2
      have htokens :
          moreTokens ((.string m.1 :: .colon :: more) :: items) ++ [.closeObject] =
            .comma :: .string m.1 :: .colon :: (more ++ (moreTokens items ++ [.closeObject])) := by
        simp [moreTokens]
      rw [htokens, Reader.run?_cons hcomma, Reader.run?_cons hkey, Reader.run?_cons hcolon,
        Reader.run?_append (hvalue _), hrest, List.append_assoc]
      rfl

theorem readsAs_object
    {members : List (String × Json)}
    {items : List (List Token)}
    (h : List.Forall₂ ReadsAsMember members items) :
    ReadsAs (.object members) (bracketTokens .openObject .closeObject items) := by
  intro frames
  have hopen : Reader.step? ⟨.value, frames⟩ .openObject = some ⟨.firstKey, frames⟩ := rfl
  cases h with
  | nil =>
      rfl
  | @cons m item members items hfirst hmore =>
      obtain ⟨more, rfl, hvalue⟩ := hfirst
      have hkey : Reader.step? ⟨.firstKey, frames⟩ (.string m.1) =
          some ⟨.colon [] m.1, frames⟩ := rfl
      have hcolon : Reader.step? ⟨.colon [] m.1, frames⟩ .colon =
          some ⟨.value, .object [] m.1 :: frames⟩ := rfl
      rw [bracketTokens, Reader.run?_cons hopen, List.append_assoc, List.cons_append,
        List.cons_append, Reader.run?_cons hkey, Reader.run?_cons hcolon,
        Reader.run?_append (hvalue _)]
      exact run?_moreMembers hmore [] m.1 m.2 frames

mutual

/-- The tokens of a value are read as the value. -/
theorem readsAs_tokens :
    ∀ value : Json, ReadsAs value (tokens value)
  | .null => fun _ => rfl
  | .bool _ => fun _ => rfl
  | .number _ => fun _ => rfl
  | .string _ => fun _ => rfl
  | .array items => readsAs_array (readsAs_itemTokens items)
  | .object members => readsAs_object (readsAs_memberTokens members)

theorem readsAs_itemTokens :
    ∀ items : List Json, List.Forall₂ ReadsAs items (itemTokens items)
  | [] => .nil
  | item :: items => .cons (readsAs_tokens item) (readsAs_itemTokens items)

theorem readsAs_memberTokens :
    ∀ members : List (String × Json), List.Forall₂ ReadsAsMember members (memberTokens members)
  | [] => .nil
  | m :: members => .cons (readsAs_keyTokens m) (readsAs_memberTokens members)

theorem readsAs_keyTokens :
    ∀ m : String × Json, ReadsAsMember m (keyTokens m)
  | (_, value) => ⟨tokens value, rfl, readsAs_tokens value⟩

end

/-- A printed value is read back. -/
theorem read_pretty (value : Json) :
    read (pretty value) = some value := by
  have hscan : scan .between (write 0 value) = some (tokens value) := by
    have hvalue := scan_write value 0 [] trivial
    rw [List.append_nil] at hvalue
    rw [hvalue]
    simp [scan, finish?]
  have hrun : Reader.run? ⟨.value, []⟩ (tokens value) = some ⟨.complete value, []⟩ :=
    readsAs_tokens value []
  rw [read, pretty, String.toList_ofList, hscan, Option.bind_some, hrun]

/-- Values that are read back from their texts have the same text only if they are equal. -/
theorem text_eq_iff
    {α : Type}
    {json : α → Json}
    {decode : Json → Option α}
    (hdecode : ∀ x, decode (json x) = some x)
    (x y : α) :
    pretty (json x) = pretty (json y) ↔ x = y := by
  constructor
  · intro htext
    have hread := congrArg (fun text => (read text).bind decode) htext
    simp only [read_pretty, Option.bind_some, hdecode] at hread
    exact Option.some.inj hread
  · rintro rfl
    rfl

-- The layout of a text plays no part, and escapes may be of any kind.
example :
    read " [ \"\\u0041\\/\\n\" , true,12 ]\n" =
      some (.array [.string "A/\n", .bool true, .number 12]) := by
  rfl

end Machine

end Json
end DocTree
