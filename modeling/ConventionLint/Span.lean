namespace ConventionLint

structure Span where
  start : UInt32
  stop : UInt32
  deriving DecidableEq, Repr, Inhabited

namespace Span

/-- The number of bytes covered. A reversed span covers none. -/
def length (s : Span) : UInt32 :=
  if s.start ≤ s.stop then s.stop - s.start else 0

def isEmpty (s : Span) : Bool := s.length == 0

def cover (s t : Span) : Span := ⟨min s.start t.start, max s.stop t.stop⟩

def contains (s t : Span) : Bool := decide (s.start ≤ t.start) && decide (t.stop ≤ s.stop)

end Span

end ConventionLint
