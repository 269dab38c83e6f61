/-!
# Spans

A span is a range of bytes of the source text, its end exclusive.  Every length and offset of this
library counts bytes of the UTF-8 form.
-/

namespace WikiPage

/-- A byte range `start .. stop` of the source; `stop` is exclusive. -/
structure Span where
  start : Nat
  stop : Nat
  deriving DecidableEq, Repr, Inhabited

namespace Span

/-- The smallest span that covers both spans. -/
def merge (a b : Span) : Span := ⟨min a.start b.start, max a.stop b.stop⟩

/-- Number of bytes covered; a span that ends before it starts covers none. -/
def length (s : Span) : Nat := s.stop - s.start

/-- Whether the span covers no byte. -/
def isEmpty (s : Span) : Bool := s.length == 0

/-- The written form, `3..9`. -/
def display (s : Span) : String := toString s.start ++ ".." ++ toString s.stop

/-- `a` lies inside `b`. -/
def Within (a b : Span) : Prop := b.start ≤ a.start ∧ a.stop ≤ b.stop

/-- The span of two neighbours, where either may have none. -/
def merge? : Option Span → Option Span → Option Span
  | some a, some b => some (a.merge b)
  | some a, none => some a
  | none, b => b

end Span

end WikiPage
