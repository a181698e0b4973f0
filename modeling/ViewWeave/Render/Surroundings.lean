import ViewWeave.Render.Filter
import ViewWeave.Render.Test

/-!
# Surroundings

What a rendering finds around it and does not make itself: the clock, chance and the environment,
and the filters and tests that work with calendars, patterns, tables of letters and the like.
-/

namespace ViewWeave

structure Surroundings where
  /-- What a function answers that is always bound, called after so many others; nothing need be
  answered twice. -/
  answer : (function : String) → (moment : Nat) → Fields → Except String Value
  /-- Further filters, such as `title`, `indent`, `striptags`, `slugify` and `date`. -/
  filter? : String → Option Filter
  /-- Further tests, such as `matching`. -/
  test? : String → Option Test

/-- Surroundings that answer no question and have nothing to add. -/
def Surroundings.bare : Surroundings where
  answer function _ _ := .error s!"Function `{function}` is not available"
  filter? _ := none
  test? _ := none

end ViewWeave
