import WikiPage.Markdown.CharReference
/-!
# Addresses of the web

Whether a text is an absolute address, an address relative to another one, or none.  An absolute
address begins with a scheme; the addresses of some schemes must name a host, and where a host is
named its form is checked.  Main statement: `getLast?_withSlash`, what is put behind an address begins
a segment of its own.
-/

namespace WikiPage.Address

/-- What a text is. -/
inductive Status where
  | absolute (scheme : String)
  | relative
  | invalid
  deriving DecidableEq, Repr, Inhabited

/-! ## 1. Schemes -/

/-- The scheme at the start of a text, in lower case, and what follows its colon. -/
def scheme? (text : List Char) : Option (String × List Char) :=
  match text with
  | [] => none
  | c :: _ =>
    if !c.isAlpha then none
    else
      let inScheme := fun (c : Char) => c.isAlphanum || c == '+' || c == '-' || c == '.'
      match text.dropWhile inScheme with
      | ':' :: rest => some (String.ofList ((text.takeWhile inScheme).map Char.toLower), rest)
      | _ => none

/-- Schemes whose addresses name a host. -/
def hosted : List String := ["http", "https", "ws", "wss", "ftp"]

/-! ## 2. Hosts -/

/-- A character that no host has. -/
def forbiddenInHost (c : Char) : Bool := "\x00\t\n\r #/:<>?@[\\]^|".toList.contains c

/-- A character that no domain has. -/
def forbiddenInDomain (c : Char) : Bool :=
  forbiddenInHost c || c.toNat ≤ 0x1F || c == '%' || c.toNat == 0x7F || c == '\uFFFD'

/-- Cuts a list at a character. -/
def cutAt (mark : Char) (text : List Char) : List (List Char) :=
  text.foldr (fun c parts =>
    if c == mark then [] :: parts
    else match parts with
      | part :: rest => (c :: part) :: rest
      | [] => [[c]]) [[]]

/-- The number that a part of a dotted address writes: hexadecimal after `0x`, octal after `0`. -/
def addressNumber? (part : List Char) : Option Nat :=
  let digits := fun (digit? : Char → Option Nat) base (cs : List Char) =>
    cs.foldl (fun n c => n.bind fun n => (digit? c).map (n * base + ·)) (some 0)
  let octal := fun (c : Char) => if '0' ≤ c && c ≤ '7' then some (c.toNat - 48) else none
  match part with
  | [] => none
  | '0' :: 'x' :: rest | '0' :: 'X' :: rest => digits Markdown.hexDigit? 16 rest
  | '0' :: c :: rest => digits octal 8 (c :: rest)
  | part => digits Markdown.decDigit? 10 part

/-- The parts of a domain, without an empty one after a last dot. -/
def domainParts (domain : List Char) : List (List Char) :=
  match (cutAt '.' domain).reverse with
  | [] :: rest@(_ :: _) => rest.reverse
  | parts => parts.reverse

/-- Whether a domain ends in a number, so that it must be a dotted address. -/
def endsInNumber (parts : List (List Char)) : Bool :=
  match parts.getLast? with
  | none | some [] => false
  | some last => last.all Char.isDigit || (addressNumber? last).isSome

/-- Whether the parts are a dotted address of 32 bits. -/
def isDotted (parts : List (List Char)) : Bool :=
  parts.length ≤ 4 &&
    match (parts.map addressNumber?).reverse with
    | some last :: rest =>
      rest.all (fun n => n.any (· ≤ 255)) && last < Nat.pow 256 (5 - parts.length)
    | _ => false

/-- The number of groups of a part of an address of eight groups of hexadecimal digits, whose last group
may be a dotted address in the stead of two groups. -/
def groups? (part : List Char) (last : Bool) : Option Nat :=
  if part.isEmpty then some 0
  else
    let groups := cutAt ':' part
    let hex := fun (g : List Char) =>
      !g.isEmpty && g.length ≤ 4 && g.all fun c => (Markdown.hexDigit? c).isSome
    let decimal := fun (g : List Char) =>
      !g.isEmpty && g.all Char.isDigit && (g.length == 1 || g.head? != some '0') &&
        g.foldl (fun n c => n * 10 + (c.toNat - 48)) 0 ≤ 255
    match groups.reverse with
    | g :: rest =>
      if hex g && rest.all hex then some groups.length
      else if last && rest.all hex && (cutAt '.' g).length == 4 && (cutAt '.' g).all decimal then
        some (groups.length + 1)
      else none
    | [] => none

/-- The parts of a text before and after two colons. -/
def splitDoubleColon : List Char → Option (List Char × List Char)
  | ':' :: ':' :: rest => some ([], rest)
  | c :: rest => (splitDoubleColon rest).map fun (before, after) => (c :: before, after)
  | [] => none

/-- Whether a text is an address of eight groups; two colons stand for groups of zero. -/
def isGrouped (text : List Char) : Bool :=
  match splitDoubleColon text with
  | some (before, after) =>
    match groups? before false, groups? after true with
    | some m, some n => m + n ≤ 7
    | _, _ => false
  | none => groups? text true == some 8

/-- Whether a text in brackets is an address of eight groups. -/
def isBracketed (host : List Char) : Bool :=
  host.getLast? == some ']' && isGrouped ((host.drop 1).dropLast)

/-- The bytes that a text with `%` escapes stands for. -/
def percentDecode : List Char → List UInt8
  | '%' :: a :: b :: rest =>
    match Markdown.hexDigit? a, Markdown.hexDigit? b with
    | some m, some n => UInt8.ofNat (m * 16 + n) :: percentDecode rest
    | _, _ => '%'.toUInt8 :: percentDecode (a :: b :: rest)
  | c :: rest => (String.utf8EncodeChar c) ++ percentDecode rest
  | [] => []

/-- Whether a text is a host of a scheme that names one. -/
def isDomain (host : List Char) : Bool :=
  match host with
  | [] => false
  | '[' :: _ => isBracketed host
  | _ =>
    match String.fromUTF8? ⟨(percentDecode host).toArray⟩ with
    | none => false
    | some decoded =>
      let domain := decoded.toList.map fun c =>
        if c == '\u3002' || c == '\uFF0E' || c == '\uFF61' then '.' else c
      let parts := domainParts domain
      !domain.isEmpty && !domain.any forbiddenInDomain && (!endsInNumber parts || isDotted parts)

/-- Whether a text is a host of another scheme; it may be empty. -/
def isOpaqueHost (host : List Char) : Bool :=
  match host with
  | '[' :: _ => isBracketed host
  | _ => !host.any forbiddenInHost

/-! ## 3. Authorities -/

/-- Whether a text ends the authority that it stands after. -/
def endsAuthority (special : Bool) (c : Char) : Bool :=
  c == '/' || c == '?' || c == '#' || (special && c == '\\')

/-- The host at the start of an authority, and what follows it; a colon in brackets belongs to it. -/
def hostIn (special : Bool) : (inBrackets : Bool) → List Char → List Char × List Char
  | _, [] => ([], [])
  | inBrackets, c :: rest =>
    if endsAuthority special c || (c == ':' && !inBrackets) then ([], c :: rest)
    else
      let (host, after) := hostIn special (c == '[' || (inBrackets && c != ']')) rest
      (c :: host, after)

/-- Whether a text begins with a port, which the end of the authority follows. -/
def isPort (text : List Char) : Bool :=
  let digits := text.takeWhile Char.isDigit
  digits.foldl (fun n c => n * 10 + (c.toNat - 48)) 0 ≤ 65535 &&
    match text.drop digits.length with
    | [] => true
    | c :: _ => endsAuthority true c

/-- What stands before the last at sign, if there is one, and what stands after it. -/
def splitLastAt (authority : List Char) : Option (List Char × List Char) :=
  let host := (authority.reverse.takeWhile (· != '@')).reverse
  if host.length = authority.length then none
  else some (authority.take (authority.length - host.length - 1), host)

/-- Whether a text begins with an authority. -/
def isAuthority (special : Bool) (text : List Char) : Bool :=
  let authority := text.takeWhile (!endsAuthority special ·)
  let rest := text.drop authority.length
  let user := splitLastAt authority
  let (host, after) := hostIn special false ((user.elim authority Prod.snd) ++ rest)
  let emptyUser := user.any (·.1.isEmpty)
  if emptyUser && host.isEmpty && !(user.elim authority Prod.snd ++ rest).isEmpty then false
  else if host.isEmpty && (special || (user.isSome && !emptyUser) || after.head? == some ':') then false
  else
    (if special then isDomain host else isOpaqueHost host) &&
      match after with
      | ':' :: port => isPort port
      | _ => true

/-! ## 4. Addresses -/

/-- A control character or a space. -/
def isControl (c : Char) : Bool := c.toNat ≤ 0x20

/-- A text as it is read as an address: without controls at its ends, and without ends of lines. -/
def cleaned (text : List Char) : List Char :=
  (((text.dropWhile isControl).reverse.dropWhile isControl).reverse).filter
    fun c => !(c == '\t' || c == '\n' || c == '\r')

/-- What a cleaned text is. -/
def statusOf (text : List Char) : Status :=
  match scheme? text with
  | none => .relative
  | some (scheme, rest) =>
    let valid :=
      if hosted.contains scheme then
        isAuthority true (rest.dropWhile fun c => c == '/' || c == '\\')
      else if scheme == "file" then true
      else match rest with
        | '/' :: '/' :: rest => isAuthority false rest
        | _ => true
    if valid then .absolute scheme else .invalid

/-- What a text is. -/
def status (text : String) : Status := statusOf (cleaned text.toList)

/-! ## 5. Addresses to put something behind -/

/-- An address with a slash at its end. -/
def withSlash (address : String) : String :=
  if address.toList.getLast? = some '/' then address else address ++ "/"

theorem getLast?_withSlash (address : String) :
    (withSlash address).toList.getLast? = some '/' := by
  unfold withSlash
  split
  · assumption
  · simp [String.toList_append]

end WikiPage.Address
