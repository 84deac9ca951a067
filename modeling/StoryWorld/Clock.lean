import StoryWorld.Integer

/-! The clock of a world: whole hours, with the day and the weekday read off them. -/

namespace StoryWorld

/-- A clock, as the hours since the world began. -/
structure Clock where
  hour : Integer
  deriving DecidableEq, Repr

namespace Clock

/-- Moves a clock by `delta` hours, and tells the hour then. At either end of the range it stands
still. -/
def advance (c : Clock) (delta : Integer) : Clock × Integer :=
  let hour := Integer.clamp (c.hour.toInt + delta.toInt)
  (⟨hour⟩, hour)

/-- The hour within the day, from 0 to 23. -/
def hourOfDay (c : Clock) : Integer := Int64.ofInt (c.hour.toInt % 24)

/-- The days gone by, rounded down. -/
def day (c : Clock) : Integer := Int64.ofInt (c.hour.toInt / 24)

/-- The day within the week, from 0 to 6. -/
def weekday (c : Clock) : Integer := Int64.ofInt (c.hour.toInt / 24 % 7)

end Clock

end StoryWorld
