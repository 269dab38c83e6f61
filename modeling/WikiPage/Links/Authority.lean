import WikiPage.Unicode.Digits
/-!
# Hosts in running text

Where the authority of an address ends (`user@example.com:80`), when the address stands in running text
and the characters after it may not belong to it.  A host name is checked only as far as needed to tell an
address from something that merely looks like one: labels are not empty and neither begin nor end with a
hyphen, a host of digits alone needs a dot, and the last label begins with two letters.
-/

namespace WikiPage.Links

/-- What an authority may and must hold. -/
structure AuthorityRule where
  /-- It must be the name of a host. -/
  hostRequired : Bool
  /-- A port may follow the host. -/
  portAllowed : Bool
  deriving Repr, DecidableEq, Inhabited

/-- The part of an authority that has been scanned. -/
structure AuthorityScan where
  /-- Characters passed. -/
  length : Nat := 0
  /-- Characters up to the last one that may end the authority. -/
  stop : Nat := 0
  /-- User information may still come. -/
  userAllowed : Bool
  /-- Where the last dot is, and where the last one is that a label follows. -/
  pendingDot : Option Nat := none
  lastDot : Option Nat := none
  dotAllowed : Bool := false
  hyphenAllowed : Bool := false
  allDigits : Bool := true
  isHost : Bool := true
  hostEnded : Bool := false
  deriving Repr, DecidableEq, Inhabited

/-- What one more character does to an authority. -/
inductive AuthorityStep where
  /-- It belongs to the authority. -/
  | take (scan : AuthorityScan)
  /-- The authority is over before it. -/
  | stop (scan : AuthorityScan)
  /-- There is no authority. -/
  | reject
  deriving Repr, Inhabited

namespace AuthorityScan

/-- Passes a character, which may or may not be the last one. -/
def pass (s : AuthorityScan) (mayEnd : Bool) : AuthorityStep :=
  .take { s with length := s.length + 1, stop := if mayEnd then s.length + 1 else s.stop }

/-- Passes a character of a label. -/
def passLabel (s : AuthorityScan) (rule : AuthorityRule) : AuthorityStep :=
  pass { s with dotAllowed := true, hyphenAllowed := true, lastDot := s.pendingDot,
                isHost := s.isHost && !s.hostEnded }
    (!rule.hostRequired || !s.hostEnded)

/-- What a character does. -/
def step (rule : AuthorityRule) (s : AuthorityScan) (c : Char) : AuthorityStep :=
  if c.isAlpha || 0x80 ≤ c.toNat then passLabel { s with allDigits := false } rule
  else if c.isDigit then passLabel s rule
  else if c == '-' then
    pass { s with isHost := s.isHost && s.hyphenAllowed, dotAllowed := false, allDigits := false }
      (!rule.hostRequired)
  else if c == '.' then
    pass { s with hostEnded := s.hostEnded || !s.dotAllowed, dotAllowed := false,
                  hyphenAllowed := false, pendingDot := some s.length } false
  else if c == '_' || c == '~' then pass { s with isHost := false } false
  else if "!$&'()*+,;=".toList.contains c then
    if !s.userAllowed && rule.hostRequired then .stop { s with hostEnded := true }
    else pass { s with hostEnded := true } false
  else if c == ':' then
    if !s.userAllowed && !rule.portAllowed then .stop s
    else pass { s with pendingDot := s.lastDot } false
  else if c == '@' then
    if s.userAllowed then pass { userAllowed := false, length := s.length, stop := s.stop } false
    else .reject
  else if c == '/' && !rule.hostRequired then .stop { s with stop := s.length }
  else .stop s

/-- Scans as far as the authority goes. -/
def run (rule : AuthorityRule) : AuthorityScan → List Char → Option AuthorityScan
  | s, [] => some s
  | s, c :: rest =>
    match s.step rule c with
    | .take s => run rule s rest
    | .stop s => some s
    | .reject => none

end AuthorityScan

/-- Whether a last label begins with two letters. -/
def plausibleTopLabel (label : List Char) : Bool :=
  match label with
  | a :: b :: _ => Unicode.isLetter a && Unicode.isLetter b
  | _ => false

/-- Number of characters of the authority at the start of a text, and whether its host has a dot. -/
def authority? (rule : AuthorityRule) (userAllowed : Bool) (text : List Char) :
    Option (Nat × Bool) :=
  match AuthorityScan.run rule { userAllowed } text with
  | none => none
  | some s =>
    if !rule.hostRequired then some (s.stop, s.lastDot.isSome)
    else if !s.isHost then none
    else if s.allDigits && s.lastDot.isNone && s.stop != 0 then none
    else match s.lastDot with
      | some dot =>
        if s.allDigits || plausibleTopLabel (text.drop (dot + 1)) then some (s.stop, true) else none
      | none => some (s.stop, false)

end WikiPage.Links
