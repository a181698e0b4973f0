import ViewWeave.Text.Affix

/-!
# Parsing expressions

A rule reads a start of the text or refuses it; a choice tries its second rule only where the first
one refused. The texts of whole numbers that are out of range are noted on the way.
-/

namespace ViewWeave.Markup

structure Cursor where
  rest : List Char
  /-- The first whole number so far that is out of range. -/
  overflow : Option String

def Rule (α : Type) : Type := Cursor → Option (α × Cursor)

namespace Rule

variable {α β : Type}

def done (a : α) : Rule α := fun c => some (a, c)

def andThen (p : Rule α) (f : α → Rule β) : Rule β := fun c =>
  match p c with
  | some (a, c) => f a c
  | none => none

instance : Monad Rule where
  pure := done
  bind := andThen

def orTry (p q : Rule α) : Rule α := fun c =>
  match p c with
  | some r => some r
  | none => q c

instance : OrElse (Rule α) := ⟨fun p q => orTry p (q ())⟩

def refuse : Rule α := fun _ => none

/-! ## Characters -/

def lit (s : String) : Rule Unit := fun c =>
  (Text.dropStart? s.toList c.rest).map fun rest => ((), { c with rest })

def one (p : Char → Bool) : Rule Unit
  | ⟨x :: xs, o⟩ => if p x then some ((), ⟨xs, o⟩) else none
  | ⟨[], _⟩ => none

def run (p : Char → Bool) : Rule Unit := fun c => some ((), { c with rest := c.rest.dropWhile p })

def run1 (p : Char → Bool) : Rule Unit := do one p; run p

def atEnd : Rule Unit := fun c => if c.rest.isEmpty then some ((), c) else none

def matched (p : Rule Unit) : Rule String := fun c =>
  match p c with
  | some (_, c') => some (String.ofList (c.rest.take (c.rest.length - c'.rest.length)), c')
  | none => none

/-! ## White space -/

def isSpace (c : Char) : Bool := c == ' ' || c == '\t' || c == '\r' || c == '\n'

def skip : Rule Unit := run isSpace

def skip1 : Rule Unit := run1 isSpace

/-! ## Repetition -/

def opt (p : Rule α) : Rule (Option α) := orTry (do return some (← p)) (done none)

/-- Reads with a rule at most `n` times, until it refuses. -/
def upTo (p : Rule α) : Nat → Rule (List α)
  | 0 => done []
  | n + 1 => fun c =>
    match p c with
    | none => some ([], c)
    | some (a, c) =>
      match upTo p n c with
      | none => none
      | some (as, c) => some (a :: as, c)

/-- Reads with a rule until it refuses; the rule never reads nothing. -/
def many (p : Rule α) : Rule (List α) := fun c => upTo p c.rest.length c

def manySpaced (p : Rule α) : Rule (List α) := orTry
  (do
    let a ← p
    let as ← many (do skip; p)
    return a :: as)
  (done [])

end Rule

end ViewWeave.Markup
