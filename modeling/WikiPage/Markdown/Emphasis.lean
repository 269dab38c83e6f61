import WikiPage.Markdown.Token
/-!
# Emphasis

Running text whose links, code and the like are known is a list of finished pieces and of runs of marks
for emphasis.  Going from left to right, a run that may close emphasis is matched with the nearest run
before it that may open it; what stands between the two becomes emphasis, and runs that are left over
become plain text.
-/

namespace WikiPage.Markdown

/-- A piece of running text. -/
inductive Inline where
  | text (span : Span) (value : String)
  | code (span : Span) (value : String)
  | markup (span : Span) (value : String)
  | math (span : Span) (display : Bool) (value : String)
  | footnote (span : Span) (label : String)
  | softBreak (span : Span)
  | hardBreak (span : Span) (backslash : Bool)
  | emphasis (span : Span) (children : List Inline)
  | strong (span : Span) (children : List Inline)
  | struck (span : Span) (children : List Inline)
  | link (span : Span) (url title : String) (children : List Inline)
  | image (span : Span) (url title : String) (children : List Inline)
  deriving Repr, Inhabited

/-- A run of marks that may open and close emphasis. -/
structure MarkRun where
  mark : Char
  count : Nat
  opens : Bool
  closes : Bool
  start : Nat
  deriving Repr, Inhabited

namespace MarkRun

/-- The marks as plain text. -/
def asText (r : MarkRun) : Inline :=
  .text ⟨r.start, r.start + r.count⟩ (String.ofList (List.replicate r.count r.mark))

end MarkRun

/-- A piece of running text before emphasis is known. -/
inductive Item where
  | done (piece : Inline)
  | run (marks : MarkRun)
  deriving Repr, Inhabited

namespace Emphasis

/-- A run that waits to be closed: its marks that are left, the number it had, and the pieces before
it, the last one first. -/
structure Opener where
  run : MarkRun
  length : Nat
  before : List Inline

/-- What is known at a place of the text: pieces since the innermost open run, the last one first, the
open runs, the innermost first, and the number of outer open runs in which no `~` can be closed any
more. -/
structure State where
  pieces : List Inline := []
  openers : List Opener := []
  closedTildes : Nat := 0

/-- Gives up open runs: their marks become plain text between the pieces. -/
def giveUp : List Inline → List Opener → List Inline
  | pieces, [] => pieces
  | pieces, o :: rest => giveUp (pieces ++ o.run.asText :: o.before) rest

/-- Whether a run may close an open one.  If one of the two may both open and close, their lengths may
not add up to a multiple of three unless both are such multiples; struck text needs equal lengths. -/
def closesOpener (r : MarkRun) (length : Nat) (o : Opener) : Bool :=
  o.run.mark == r.mark && (r.mark != '~' || length == o.length) &&
    (!(r.opens && r.closes) && !(o.run.opens && o.run.closes) ||
      (length + o.length) % 3 != 0 || length % 3 == 0)

/-- The innermost open run that a run may close: the open runs inside it, the run itself, and those
around it. -/
def findOpener (r : MarkRun) (length : Nat) :
    Nat → List Opener → List Opener → Option (List Opener × Opener × List Opener)
  | 0, _, _ => none
  | _ + 1, _, [] => none
  | n + 1, inner, o :: outer =>
    if closesOpener r length o then some (inner.reverse, o, outer)
    else findOpener r length n (o :: inner) outer

/-- Wraps pieces in emphasis made of `count` marks that end at `left` and begin at `right`: two marks
make strong emphasis, and the pairs are the inner ones. -/
def wrap (mark : Char) : Nat → Nat → Nat → List Inline → List Inline
  | 0, _, _, pieces => pieces
  | 1, left, right, pieces =>
    let span : Span := ⟨left - 1, right + 1⟩
    [if mark = '~' then .struck span pieces else .emphasis span pieces]
  | n + 2, left, right, pieces =>
    let span : Span := ⟨left - 2, right + 2⟩
    wrap mark n (left - 2) (right + 2)
      [if mark = '~' then .struck span pieces else .strong span pieces]

/-- Closes open runs with the marks of a run, as long as marks are left and a run can be closed: the
state after it, and the marks left over. -/
def close (length : Nat) : Nat → MarkRun → State → MarkRun × State
  | 0, r, s => (r, s)
  | fuel + 1, r, s =>
    let reach := if r.mark = '~' then s.openers.length - s.closedTildes else s.openers.length
    match findOpener r length reach [] s.openers with
    | none => (r, if r.mark = '~' then { s with closedTildes := s.openers.length } else s)
    | some (inner, o, outer) =>
      let used := min r.count o.run.count
      let inside := (giveUp s.pieces inner).reverse
      let wrapped := wrap r.mark used (o.run.start + o.run.count) r.start inside
      let closedTildes := min s.closedTildes outer.length
      let s :=
        if used < o.run.count then
          { s with
            pieces := wrapped
            openers := { o with run := { o.run with count := o.run.count - used } } :: outer
            closedTildes }
        else { s with pieces := wrapped ++ o.before, openers := outer, closedTildes }
      let r := { r with count := r.count - used, start := r.start + used }
      if r.count = 0 then (r, s) else close length fuel r s

/-- Takes a run of marks. -/
def takeRun (r : MarkRun) (s : State) : State :=
  let (left, s) := if r.closes then close r.count r.count r s else (r, s)
  if left.count = 0 then s
  else if r.opens then
    { s with pieces := [], openers := ⟨left, r.count, s.pieces⟩ :: s.openers }
  else { s with pieces := left.asText :: s.pieces }

/-- Takes items one after the other. -/
def takeAll : List Item → State → State
  | [], s => s
  | .done piece :: rest, s => takeAll rest { s with pieces := piece :: s.pieces }
  | .run r :: rest, s => takeAll rest (takeRun r s)

/-- A backslash at the end of text with marks for emphasis breaks no line. -/
def plainEnd : List Item → List Item
  | [.done (.hardBreak span true)] => [.done (.text span "\\")]
  | item :: rest => item :: plainEnd rest
  | [] => []

/-- Whether an item is a run of marks. -/
def isRun : Item → Bool
  | .run _ => true
  | .done _ => false

/-- The pieces that items make. -/
def resolve (items : List Item) : List Inline :=
  let items := if items.any isRun then plainEnd items else items
  let s := takeAll items {}
  (giveUp s.pieces s.openers).reverse

end Emphasis

end WikiPage.Markdown
