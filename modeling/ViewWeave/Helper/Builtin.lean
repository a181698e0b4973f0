import ViewWeave.Data.Writer
import ViewWeave.Helper.Basic

/-!
# Helpers that are always bound

Counting and giving up. What the helpers for the clock, chance and the environment answer is not up
to a rendering.
-/

namespace ViewWeave.Builtin

/-- The count that an argument of `range` is, if it is given. -/
def count? (args : Fields) (name told : String) : Except String (Option Nat) :=
  match args.get? name with
  | none => .ok none
  | some (.num (.int i)) =>
    if 0 ≤ i then .ok (some i.toNat) else .error (complaint (.num (.int i)))
  | some v => .error (complaint v)
where
  complaint (v : Value) : String :=
    s!"Function `range` received {name}=" ++ v.compactText ++ s!" but `{told}` can only be a number"

def numbers (start stop step : Nat) : List Value :=
  (List.range ((stop - start + step - 1) / step)).map fun (k : Nat) =>
    .ofInt ((start + k * step : Nat) : Int)

def range : Helper := ⟨false, fun args => do
  let start ← count? args "start" "start"
  let step ← count? args "step_by" "step"
  let some stop ← count? args "end" "end"
    | throw "Function `range` was called without a `end` argument"
  let start := start.getD 0
  if start > stop then
    throw "Function `range` was called with a `start` argument greater than the `end` one"
  return .arr (numbers start stop (step.getD 1))⟩

def giveUp : Helper := ⟨false, fun args =>
  match args.get? "message" with
  | some (.str s) => .error s
  | some v =>
    .error ("Function `throw` received message=" ++ v.compactText ++
      " but `message` can only be a string")
  | none => .error "Function `throw` was called without a `message` argument"⟩

/-- The helper of a name, which asks for an answer if it has none of its own. -/
def get? (answer : (function : String) → Fields → Except String Value) (name : String) :
    Option Helper :=
  if name = "range" then some range
  else if name = "throw" then some giveUp
  else if Helpers.builtinNames.contains name then some ⟨false, answer name⟩
  else none

end ViewWeave.Builtin
