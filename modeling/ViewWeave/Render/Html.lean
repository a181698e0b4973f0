/-!
# Escaping

The characters that have a meaning in markup are written by entities.
-/

namespace ViewWeave.Html

def escapeChar (c : Char) : List Char :=
  if c = '&' then "&amp;".toList
  else if c = '<' then "&lt;".toList
  else if c = '>' then "&gt;".toList
  else if c = '"' then "&quot;".toList
  else if c = '\x27' then "&#x27;".toList
  else if c = '/' then "&#x2F;".toList
  else [c]

/-- Text in which no character has a meaning in markup. -/
def escape (s : String) : String := String.ofList (s.toList.flatMap escapeChar)

theorem lt_not_mem_escapeChar (c : Char) : '<' ∉ escapeChar c := by
  unfold escapeChar
  split
  · decide
  split
  next => decide
  next h =>
    split
    · decide
    split
    · decide
    split
    · decide
    split
    · decide
    simpa using Ne.symm h

theorem lt_not_mem_escape (s : String) : '<' ∉ (escape s).toList := by
  simp only [escape, String.toList_ofList, List.mem_flatMap, not_exists, not_and]
  exact fun c _ => lt_not_mem_escapeChar c

end ViewWeave.Html
