import ViewWeave.Data.Value

/-!
# Helpers

A helper is a function that templates may call by name, with named arguments. A few names are bound
without being registered.
-/

namespace ViewWeave

structure Helper where
  /-- Whether its results are put out as they are. -/
  safe : Bool
  /-- The result for named arguments, or a message. -/
  call : Fields → Except String Value

namespace Helper

def const (v : Value) (safe : Bool) : Helper := ⟨safe, fun _ => .ok v⟩

def fail (message : String) (safe : Bool) : Helper := ⟨safe, fun _ => .error message⟩

end Helper

/-- Helpers by name, in ascending order of the names. -/
structure Helpers where
  entries : List (String × Helper)
  ascending : Sorted.Ascending entries

namespace Helpers

def empty : Helpers := ⟨[], List.Pairwise.nil⟩

/-- The helpers with one more; it takes the place of one that has its name. -/
def register (hs : Helpers) (name : String) (h : Helper) : Helpers :=
  ⟨Sorted.insert name h hs.entries, Sorted.ascending_insert name h hs.ascending⟩

def get? (hs : Helpers) (name : String) : Option Helper := hs.entries.lookup name

def names (hs : Helpers) : List String := hs.entries.map (·.1)

def size (hs : Helpers) : Nat := hs.entries.length

def contains (hs : Helpers) (name : String) : Bool := (hs.get? name).isSome

/-- The names that are always bound. -/
def builtinNames : List String := ["range", "now", "throw", "get_random", "get_env"]

def isBound (hs : Helpers) (name : String) : Bool := hs.contains name || builtinNames.contains name

end Helpers

def startsHelperName (c : Char) : Bool := c.isAlpha || c == '_'

def inHelperName (c : Char) : Bool := c.isAlphanum || c == '_'

/-- Whether templates can spell the name of a helper. -/
def isHelperName (name : String) : Bool :=
  match name.toList with
  | [] => false
  | c :: cs => startsHelperName c && cs.all inHelperName

end ViewWeave
