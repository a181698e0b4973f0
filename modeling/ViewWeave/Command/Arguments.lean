import ViewWeave.Text.Affix

/-!
# Command line arguments

A command with its options. An option's value stands after it or behind an equals sign; no option
may be given twice.
-/

namespace ViewWeave.Command

structure ViewChoice where
  views : Option String
  layout : Option String
  deriving DecidableEq, Repr

inductive Request
  | check (choice : ViewChoice)
  | list (choice : ViewChoice) (json : Bool)
  | render (choice : ViewChoice) (name : String) (data out : Option String)
  | version
  | help
  deriving DecidableEq, Repr

inductive Opt
  | views | layout | json | data | out
  deriving DecidableEq, Repr

inductive Verb
  | check | list | render
  deriving DecidableEq, Repr

namespace Verb

def of? (s : String) : Option Verb :=
  if s = "check" then some .check
  else if s = "list" then some .list
  else if s = "render" then some .render
  else none

def knows : Verb → Opt → Bool
  | _, .views | _, .layout => true
  | .list, .json => true
  | .render, .data | .render, .out => true
  | _, _ => false

end Verb

def Opt.of? (s : List Char) : Option Opt :=
  [("views", Opt.views), ("layout", .layout), ("json", .json), ("data", .data),
    ("out", .out)].findSome? fun (n, o) => if n.toList = s then some o else none

structure Given where
  options : List (Opt × String)
  names : List String
  deriving DecidableEq, Repr

/-- One more option; it is refused if it is there already. -/
def Given.put (g : Given) (o : Opt) (value : String) : Option Given :=
  if (g.options.lookup o).isSome then none else some { g with options := (o, value) :: g.options }

def Given.putPath (g : Given) (o : Opt) (value : String) : Option Given :=
  if value.isEmpty then none else g.put o value

def Given.putName (g : Given) (verb : Verb) (name : String) : Option Given :=
  if verb = .render && g.names.isEmpty then some { g with names := [name] } else none

/-- Whether an argument may be the value of an option before it. -/
def isValue (s : String) : Bool :=
  match s.toList with
  | '-' :: _ :: _ => false
  | _ => true

inductive Taken
  | done (g : Given)
  | waiting (o : Opt)
  | help
  | refused

def takeNamed (verb : Verb) (g : Given) (name : List Char) (value : Option String) : Taken :=
  match (Opt.of? name).filter verb.knows, value with
  | some .json, none => (g.put .json "").elim .refused .done
  | some .json, some _ => .refused
  | some o, some v => (g.putPath o v).elim .refused .done
  | some o, none => .waiting o
  | none, none => if name = "help".toList then .help else .refused
  | none, some _ => .refused

def takeLong (verb : Verb) (g : Given) (s : List Char) : Taken :=
  match Text.splitOnce? '=' s with
  | some (name, v) => takeNamed verb g name (some (String.ofList v))
  | none => takeNamed verb g s none

def takeShort (verb : Verb) (g : Given) : List Char → Taken
  | 'h' :: _ => .help
  | 'o' :: rest =>
    if !verb.knows .out then .refused
    else
      match rest with
      | [] => .waiting .out
      | '=' :: v => (g.putPath .out (String.ofList v)).elim .refused .done
      | v => (g.putPath .out (String.ofList v)).elim .refused .done
  | _ => .refused

def take (verb : Verb) (g : Given) (arg : String) : Taken :=
  match arg.toList with
  | '-' :: '-' :: s => takeLong verb g s
  | '-' :: c :: s => takeShort verb g (c :: s)
  | _ => (g.putName verb arg).elim .refused .done

def Given.request? (g : Given) (verb : Verb) : Option Request :=
  let choice : ViewChoice := ⟨g.options.lookup .views, g.options.lookup .layout⟩
  match verb with
  | .check => some (.check choice)
  | .list => some (.list choice (g.options.lookup .json).isSome)
  | .render =>
    g.names.head?.map fun n => .render choice n (g.options.lookup .data) (g.options.lookup .out)

/-- The request that the arguments of a command make; `waiting` is an option whose value comes
next. -/
def takeAll (verb : Verb) (g : Given) (waiting : Option Opt) : List String → Option Request
  | [] => if waiting.isSome then none else g.request? verb
  | arg :: rest =>
    match waiting with
    | some o =>
      if isValue arg then (g.putPath o arg).bind fun g => takeAll verb g none rest else none
    | none =>
      if arg = "--" then (rest.foldlM (fun g n => Given.putName g verb n) g).bind (·.request? verb)
      else
        match take verb g arg with
        | .done g => takeAll verb g none rest
        | .waiting o => takeAll verb g (some o) rest
        | .help => some .help
        | .refused => none

def request? : List String → Option Request
  | [] => none
  | first :: rest =>
    match Verb.of? first with
    | some verb => takeAll verb ⟨[], []⟩ none rest
    | none =>
      if first = "--version" || first.startsWith "-V" then some .version
      else if first = "--help" || first.startsWith "-h" || first = "help" then some .help
      else none

end ViewWeave.Command
