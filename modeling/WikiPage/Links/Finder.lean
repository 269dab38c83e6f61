import WikiPage.Links.Authority
import WikiPage.Text.Size
/-!
# Addresses in running text

`cuts` divides a text into plain runs and addresses.  An address is found around one of three
characters: the colon of `scheme://`, the dot of a host without scheme, and the at sign of a mail
address.  The characters before that one give its beginning and those after it its end; what a found
address holds is not searched again.  Main statement: `text_cuts`, the pieces in order are the text.
-/

namespace WikiPage.Links

/-- The kinds of address. -/
inductive AddressKind where
  | url | email
  deriving DecidableEq, Repr, Inhabited

/-- A piece of a text: an address, or a run with no address in it. -/
structure Cut where
  kind : Option AddressKind
  text : List Char
  deriving DecidableEq, Repr, Inhabited

/-- A beginning found behind a place: number of characters back, and the quotation mark before it. -/
structure Beginning where
  length : Nat
  quote : Option Char
  deriving DecidableEq, Repr, Inhabited

/-- A quotation mark that may enclose an address. -/
def isQuote (c : Char) : Bool := c == '\'' || c == '"'

/-! ## 1. Addresses with a scheme -/

/-- Walks back over a scheme: the characters passed, the number up to the last letter and up to the last
digit, and the mark that ended the walk. -/
def schemeBack : (passed letter digit : Nat) → List Char → Option (Nat × Nat × Option Char)
  | _, letter, digit, [] => some (letter, digit, none)
  | passed, letter, digit, c :: rest =>
    if c.isAlpha then schemeBack (passed + 1) (passed + 1) digit rest
    else if c.isDigit then schemeBack (passed + 1) letter (passed + 1) rest
    else if c == '+' || c == '-' || c == '.' then schemeBack (passed + 1) letter digit rest
    else if c == '@' then none
    else some (letter, digit, if isQuote c then some c else none)

/-- The scheme that ends here, read backwards.  It begins with a letter that no digit precedes. -/
def schemeBefore? (before : List Char) : Option Beginning :=
  match schemeBack 0 0 0 before with
  | some (letter, digit, quote) =>
    if letter == 0 || digit == letter + 1 then none else some ⟨letter, quote⟩
  | none => none

/-- Schemes whose addresses name a host. -/
def namesHost (scheme : String) : Bool := ["https", "http", "file", "ftp", "ssh"].contains scheme

/-! ## 2. The end of an address -/

/-- Brackets open in the rest of an address, and how far it may go. -/
structure TailScan where
  length : Nat := 0
  stop : Nat := 0
  round : Nat := 0
  square : Nat := 0
  curly : Nat := 0
  insideSingle : Bool := false
  mayEnd : Bool := true
  deriving Repr, DecidableEq, Inhabited

namespace TailScan

/-- Passes a character, which may or may not be the last one. -/
def pass (s : TailScan) (mayEnd : Bool) : TailScan :=
  { s with length := s.length + 1, stop := if mayEnd then s.length + 1 else s.stop, mayEnd }

/-- What a character does; nothing when the address is over before it. -/
def step (quote : Option Char) (s : TailScan) (c : Char) : Option TailScan :=
  if c.toNat < 0x20 || " |\"<>\x60".toList.contains c || (0x7F ≤ c.toNat && c.toNat ≤ 0x9F) then none
  else if "?!.,:;*".toList.contains c then some (s.pass false)
  else if c == '/' then some (s.pass s.mayEnd)
  else if c == '(' then some ({ s with round := s.round + 1 }.pass false)
  else if c == ')' then
    if s.round == 0 then none else some ({ s with round := s.round - 1 }.pass true)
  else if c == '[' then some ({ s with square := s.square + 1 }.pass false)
  else if c == ']' then
    if s.square == 0 then none else some ({ s with square := s.square - 1 }.pass true)
  else if c == '\x7b' then some ({ s with curly := s.curly + 1 }.pass false)
  else if c == '\x7d' then
    if s.curly == 0 then none else some ({ s with curly := s.curly - 1 }.pass true)
  else if some c == quote then none
  else if c == '\'' then some ({ s with insideSingle := !s.insideSingle }.pass s.insideSingle)
  else some (s.pass true)

/-- Scans to the end of the address. -/
def run (quote : Option Char) : TailScan → List Char → TailScan
  | s, [] => s
  | s, c :: rest =>
    match s.step quote c with
    | some s => run quote s rest
    | none => s

end TailScan

/-- Number of characters that belong to an address after its authority: a path, query or fragment. -/
def tailLength (quote : Option Char) (text : List Char) : Nat :=
  match text with
  | c :: _ => if c == '/' || c == '?' || c == '#' then (TailScan.run quote {} text).stop else 0
  | [] => 0

/-! ## 3. The three finders -/

/-- How far an address goes to both sides of the character it is found by. -/
structure Extent where
  back : Nat
  ahead : Nat
  deriving DecidableEq, Repr, Inhabited

/-- An address with a scheme, found by its colon. -/
def schemeExtent? (before after : List Char) : Option Extent :=
  match after with
  | '/' :: '/' :: rest =>
    if rest.isEmpty then none else
    match schemeBefore? before with
    | none => none
    | some b =>
      let host := namesHost (String.ofList (before.take b.length).reverse)
      match authority? ⟨host, true⟩ true rest with
      | none => none
      | some (authority, _) =>
        let tail := tailLength b.quote (rest.drop authority)
        if authority + tail == 0 then none else some ⟨b.length, 2 + authority + tail⟩
  | _ => none

/-- Walks back over a label: the characters passed and the number up to the last one that may begin a
label, with the mark that ended the walk. -/
def labelBack : (passed first : Nat) → List Char → Option (Nat × Option Char)
  | _, first, [] => some (first, none)
  | passed, first, c :: rest =>
    if c.isAlphanum || 0x80 ≤ c.toNat then labelBack (passed + 1) (passed + 1) rest
    else if c == '/' || c == '@' || c == '.' then none
    else if c == '-' then
      if first == 0 then none else labelBack (passed + 1) (passed + 1) rest
    else some (first, if isQuote c then some c else none)

/-- The first label of a host, read backwards.  It neither begins nor ends with a hyphen. -/
def labelBefore? (before : List Char) : Option Beginning :=
  match labelBack 0 0 before with
  | some (first, quote) =>
    if first == 0 || before[first - 1]? == some '-' then none else some ⟨first, quote⟩
  | none => none

/-- An address without scheme, found by the first dot of its host.  The text searched must have four
bytes, and the host a dot. -/
def hostExtent? (bytes : Nat) (before after : List Char) : Option Extent :=
  if bytes < 4 then none else
  match labelBefore? before with
  | none => none
  | some b =>
    let text := (before.take b.length).reverse ++ '.' :: after
    match authority? ⟨true, true⟩ false text with
    | some (authority, true) =>
      let tail := tailLength b.quote (text.drop authority)
      some ⟨b.length, authority + tail - (b.length + 1)⟩
    | _ => none

/-- A character of the part of a mail address before the at sign. -/
def isMailbox (c : Char) : Bool :=
  c.isAlphanum || "!#$%&'*+-/=?^_\x60\x7b|\x7d~".toList.contains c || 0x80 ≤ c.toNat

/-- Walks back over the part of a mail address before the at sign; dots divide it, and none stands at
its end or beside another.  Another at sign before it makes it something else. -/
def mailboxBack : (passed first : Nat) → (boundary : Bool) → List Char → Nat
  | _, first, _, [] => first
  | passed, first, boundary, c :: rest =>
    if isMailbox c then mailboxBack (passed + 1) (passed + 1) false rest
    else if c == '.' && !boundary then mailboxBack (passed + 1) first true rest
    else if c == '@' then 0
    else first

/-- A mail address, found by its at sign.  Its host has a dot. -/
def mailExtent? (before after : List Char) : Option Extent :=
  let back := mailboxBack 0 0 true before
  if back == 0 then none else
  match authority? ⟨true, false⟩ false after with
  | some (ahead, true) => if ahead == 0 then none else some ⟨back, ahead⟩
  | _ => none

/-- The address found by a character, with the characters before it, nearest first, and those after. -/
def extent? (bytes : Nat) (before : List Char) (c : Char) (after : List Char) :
    Option (AddressKind × Extent) :=
  if c == ':' then (schemeExtent? before after).map (.url, ·)
  else if c == '.' then (hostExtent? bytes before after).map (.url, ·)
  else if c == '@' then (mailExtent? before after).map (.email, ·)
  else none

/-! ## 4. Cutting a text -/

/-- A plain piece, when there is something in it. -/
def plainCut (reversed : List Char) : List Cut :=
  if reversed.isEmpty then [] else [⟨none, reversed.reverse⟩]

/-- Divides a text of which some characters have been passed, the nearest first, and of which the
part since the last address has the given number of bytes. -/
def cutsFrom (bytes : Nat) (before : List Char) : List Char → List Cut
  | [] => plainCut before
  | c :: after =>
    match extent? bytes before c after with
    | some (kind, ⟨back, ahead⟩) =>
      let rest := after.drop ahead
      plainCut (before.drop back) ++
        ⟨some kind, (before.take back).reverse ++ c :: after.take ahead⟩ ::
          cutsFrom (Text.byteLength rest) [] rest
    | none => cutsFrom bytes (c :: before) after
termination_by text => text.length
decreasing_by
  · simp only [List.length_cons, List.length_drop]
    omega
  · simp

/-- Divides a text into plain runs and addresses. -/
def cuts (text : List Char) : List Cut := cutsFrom (Text.byteLength text) [] text

theorem text_plainCut (reversed : List Char) :
    (plainCut reversed).flatMap Cut.text = reversed.reverse := by
  unfold plainCut
  split
  · simp_all
  · simp

theorem text_cutsFrom (bytes : Nat) (before text : List Char) :
    (cutsFrom bytes before text).flatMap Cut.text = before.reverse ++ text := by
  induction bytes, before, text using cutsFrom.induct with
  | case1 bytes before => simp [cutsFrom, text_plainCut]
  | case2 bytes before c after kind back ahead h rest ih =>
    rw [cutsFrom, h]
    have hrest : (cutsFrom (Text.byteLength (after.drop ahead)) [] (after.drop ahead)).flatMap Cut.text =
        after.drop ahead := ih
    simp only [List.flatMap_append, List.flatMap_cons, text_plainCut, hrest]
    have hb : before.reverse = (before.drop back).reverse ++ (before.take back).reverse := by
      rw [← List.reverse_append, List.take_append_drop]
    simp [hb]
  | case3 bytes before c after h ih =>
    rw [cutsFrom, h]
    simp [ih]

/-- The pieces in order are the text. -/
theorem text_cuts (text : List Char) : (cuts text).flatMap Cut.text = text := by
  simp [cuts, text_cutsFrom]

end WikiPage.Links
