/-!
# Patterns

Patterns over characters with one group whose text is kept.  A pattern may match in several ways; the
one that counts is the first in the order of trying: an earlier place before a later one, the left
alternative before the right one, and one more repetition before none.

`Pattern.run` tries these ways in order and hands each to what has to match next, so the first way on
which everything goes through is found.
-/

namespace WikiPage.Text

/-- A pattern. -/
inductive Pattern where
  /-- Nothing. -/
  | empty
  /-- A character of a class. -/
  | char (accepts : Char → Bool)
  /-- The start of the text. -/
  | atStart
  /-- The end of the text. -/
  | atEnd
  | seq (first second : Pattern)
  /-- The first pattern, or else the second. -/
  | alt (first second : Pattern)
  /-- The pattern as often as possible, or less often. -/
  | many (p : Pattern)
  /-- The pattern, whose text is kept. -/
  | group (p : Pattern)

namespace Pattern

/-- The given characters, one after another. -/
def word (s : String) : Pattern := s.toList.foldr (fun c p => seq (char (· == c)) p) empty

/-- The pattern, or else nothing. -/
def optional (p : Pattern) : Pattern := alt p empty

/-- The pattern at least once, as often as possible. -/
def many1 (p : Pattern) : Pattern := seq p (many p)

/-- Any character but the end of a line. -/
def any : Pattern := char (· != '\n')

/-- Patterns one after another. -/
def inOrder : List Pattern → Pattern
  | [] => empty
  | [p] => p
  | p :: rest => seq p (inOrder rest)

/-- The first of several patterns that goes through. -/
def oneOf : List Pattern → Pattern
  | [] => char fun _ => false
  | [p] => p
  | p :: rest => alt p (oneOf rest)

/-- A place in a text, and the text of the group if it has been matched. -/
structure Place where
  isStart : Bool
  rest : List Char
  kept : Option (List Char) := none
  deriving DecidableEq, Repr, Inhabited

/-- Repeats a step at most a number of times, more rather than fewer; a repetition that matches nothing
ends the repeating. -/
def runMany (step : Place → (Place → Option Place) → Option Place) :
    Nat → Place → (Place → Option Place) → Option Place
  | 0, s, next => next s
  | n + 1, s, next =>
    (step s fun t => if t.rest.length < s.rest.length then runMany step n t next else none).orElse
      fun _ => next s

/-- Matches a pattern at a place, so that what comes next goes through. -/
def run : Pattern → Place → (Place → Option Place) → Option Place
  | empty, s, next => next s
  | char accepts, s, next =>
    match s.rest with
    | [] => none
    | c :: rest => if accepts c then next { s with isStart := false, rest } else none
  | atStart, s, next => if s.isStart then next s else none
  | atEnd, s, next => if s.rest.isEmpty then next s else none
  | seq p q, s, next => run p s fun t => run q t next
  | alt p q, s, next => (run p s next).orElse fun _ => run q s next
  | many p, s, next => runMany (run p) s.rest.length s next
  | group p, s, next =>
    run p s fun t => next { t with kept := some (s.rest.take (s.rest.length - t.rest.length)) }

/-- Looks for a match at a place and then at each later one. -/
def searchFrom (p : Pattern) (isStart : Bool) : List Char → Option Place
  | [] => run p ⟨isStart, [], none⟩ some
  | c :: rest => (run p ⟨isStart, c :: rest, none⟩ some).orElse fun _ => searchFrom p false rest

/-- The text of the group in the first match, if there is a match and the group took part in it. -/
def capture? (p : Pattern) (text : String) : Option String :=
  (searchFrom p true text.toList).bind fun s => s.kept.map String.ofList

end Pattern

end WikiPage.Text
