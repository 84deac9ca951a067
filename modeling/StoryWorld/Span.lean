/-! Spans: ranges of bytes in a text. -/

namespace StoryWorld

/-- The bytes from `start` up to `stop`, which is not among them. -/
structure Span where
  start : Nat
  stop : Nat
  deriving DecidableEq, Repr

namespace Span

/-- The empty span at a byte. -/
def point (n : Nat) : Span := ⟨n, n⟩

/-- From the start of one span to the end of another. -/
def through (s t : Span) : Span := ⟨s.start, t.stop⟩

/-- A span moved right. -/
def shift (s : Span) (n : Nat) : Span := ⟨s.start + n, s.stop + n⟩

end Span

end StoryWorld
