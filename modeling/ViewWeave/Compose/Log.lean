import ViewWeave.Compose.Error

/-!
# The log of composition

Composition tells what it did, also when it fails later on.
-/

namespace ViewWeave

inductive LogEvent
  | scanned (role : Role) (root : String) (count : Nat)
  | composed (name : String) (bytes : Nat)
  | ready (layouts pages shared templates : Nat)
  deriving DecidableEq, Repr

namespace LogEvent

def level : LogEvent → String
  | .scanned _ _ _ | .composed _ _ => "DEBUG"
  | .ready _ _ _ _ => "INFO"

def message : LogEvent → String
  | .scanned _ _ _ => "scanned fragment root"
  | .composed _ _ => "composed template"
  | .ready _ _ _ _ => "view registry ready"

end LogEvent

/-- A step of composition with what it logged, which stays also if the step fails. -/
structure Build (α : Type) where
  result : Except InitError α
  events : List LogEvent

namespace Build

variable {α β : Type}

def andThen (m : Build α) (k : α → Build β) : Build β :=
  match m.result with
  | .ok a => ⟨(k a).result, m.events ++ (k a).events⟩
  | .error e => ⟨.error e, m.events⟩

instance : Monad Build where
  pure a := ⟨.ok a, []⟩
  bind := andThen

def log (e : LogEvent) : Build Unit := ⟨.ok (), [e]⟩

def ofExcept (r : Except InitError α) : Build α := ⟨r, []⟩

def run (m : Build α) : Except InitError α × List LogEvent := (m.result, m.events)

end Build

end ViewWeave
