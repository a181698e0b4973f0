import ViewWeave.Yaml.Scanner

/-!
# From tokens to events

Events are what a reader of documents needs: scalars, and where collections begin and end. They
come one after another up to the first fault, so a reader may stop before it.
-/

namespace ViewWeave.Yaml

inductive Event
  | alias (name : List Char)
  | scalar (anchor : Option (List Char)) (tag : Option (List Char)) (text : List Char)
      (style : Style)
  | sequenceStart (anchor : Option (List Char))
  | sequenceEnd
  | mappingStart (anchor : Option (List Char))
  | mappingEnd
  | documentStart | documentEnd | streamEnd
  deriving DecidableEq, Repr

structure Marked where
  event : Event
  place : Place
  deriving DecidableEq, Repr

/-! ## Emitting events -/

/-- A step that takes tokens and emits events; without a result it met a fault. -/
def Emit (α : Type) : Type := List Token → List Marked × Option (α × List Token)

namespace Emit

instance : Monad Emit where
  pure a := fun ts => ([], some (a, ts))
  bind m f := fun ts =>
    match m ts with
    | (es, none) => (es, none)
    | (es, some (a, ts)) =>
      let (es', r) := f a ts
      (es ++ es', r)

def fail {α : Type} : Emit α := fun _ => ([], none)

def peek : Emit Token := fun ts =>
  match ts with
  | [] => ([], none)
  | t :: _ => ([], some (t, ts))

def pass : Emit Unit := fun ts => ([], some ((), ts.drop 1))

def emit (e : Event) (p : Place) : Emit Unit := fun ts => ([⟨e, p⟩], some ((), ts))

def emitEmpty (p : Place) : Emit Unit := emit (.scalar none none [] .plain) p

end Emit

open Emit

/-! ## Properties of nodes -/

abbrev Handles := List (List Char × List Char)

def standardHandles : Handles := [(['!'], ['!']), (['!', '!'], "tag:yaml.org,2002:".toList)]

/-- The full tag for a handle and the rest; no handle stands for itself. -/
def fullTag? (handles : Handles) (handle rest : List Char) : Option (List Char) :=
  if handle.isEmpty then some rest
  else (handles.lookup handle).map (· ++ rest)

structure Properties where
  anchor : Option (List Char)
  tag : Option (List Char)
  place : Place

def properties (handles : Handles) : Emit Properties := do
  let t ← peek
  let resolve (handle rest : List Char) : Emit (List Char) :=
    match fullTag? handles handle rest with
    | some tag => pure tag
    | none => fail
  match t.kind with
  | .anchor name =>
    pass
    let u ← peek
    match u.kind with
    | .tag handle rest =>
      pass
      let _ ← peek
      return ⟨some name, some (← resolve handle rest), t.start⟩
    | _ => return ⟨some name, none, t.start⟩
  | .tag handle rest =>
    pass
    let u ← peek
    match u.kind with
    | .anchor name =>
      pass
      let _ ← peek
      return ⟨some name, some (← resolve handle rest), t.start⟩
    | _ => return ⟨none, some (← resolve handle rest), t.start⟩
  | _ => return ⟨none, none, t.start⟩

/-! ## Nodes -/

/-- Whether a token ends a block mapping's key or value before its node. -/
def Kind.endsPair : Kind → Bool
  | .key | .value | .blockEnd => true
  | _ => false

mutual

/-- A node. `block` admits block collections, `loose` a sequence not indented deeper than its
key. -/
def node (handles : Handles) : Nat → Bool → Bool → Emit Unit
  | 0, _, _ => fail
  | fuel + 1, block, loose => do
    let t ← peek
    match t.kind with
    | .alias name =>
      emit (.alias name) t.start
      pass
    | _ =>
      let p ← properties handles
      let t ← peek
      if loose && t.kind == .blockEntry then
        emit (.sequenceStart p.anchor) p.place
        looseItems handles fuel
      else
        match t.kind, block with
        | .scalar text style, _ =>
          emit (.scalar p.anchor p.tag text style) p.place
          pass
        | .flowSequenceStart, _ =>
          emit (.sequenceStart p.anchor) p.place
          pass
          flowItems handles fuel true
        | .flowMappingStart, _ =>
          emit (.mappingStart p.anchor) p.place
          pass
          flowPairs handles fuel true
        | .blockSequenceStart, true =>
          emit (.sequenceStart p.anchor) p.place
          pass
          blockItems handles fuel
        | .blockMappingStart, true =>
          emit (.mappingStart p.anchor) p.place
          pass
          blockPairs handles fuel
        | _, _ =>
          if p.anchor.isSome || p.tag.isSome then emit (.scalar p.anchor p.tag [] .plain) p.place
          else fail

def blockItems (handles : Handles) : Nat → Emit Unit
  | 0 => fail
  | fuel + 1 => do
    let t ← peek
    match t.kind with
    | .blockEntry =>
      pass
      let u ← peek
      if u.kind == .blockEntry || u.kind == .blockEnd then emitEmpty t.stop
      else node handles fuel true false
      blockItems handles fuel
    | .blockEnd =>
      emit .sequenceEnd t.start
      pass
    | _ => fail

def looseItems (handles : Handles) : Nat → Emit Unit
  | 0 => fail
  | fuel + 1 => do
    let t ← peek
    match t.kind with
    | .blockEntry =>
      pass
      let u ← peek
      if u.kind == .blockEntry || u.kind.endsPair then emitEmpty t.stop
      else node handles fuel true false
      looseItems handles fuel
    | _ => emit .sequenceEnd t.start

def blockPairs (handles : Handles) : Nat → Emit Unit
  | 0 => fail
  | fuel + 1 => do
    let t ← peek
    match t.kind with
    | .key =>
      pass
      let u ← peek
      if u.kind.endsPair then emitEmpty t.stop else node handles fuel true true
      let v ← peek
      match v.kind with
      | .value =>
        pass
        let w ← peek
        if w.kind.endsPair then emitEmpty v.stop else node handles fuel true true
      | _ => emitEmpty v.start
      blockPairs handles fuel
    | .blockEnd =>
      emit .mappingEnd t.start
      pass
    | _ => fail

/-- The items of a flow sequence; `first` tells that none came before. -/
def flowItems (handles : Handles) : Nat → Bool → Emit Unit
  | 0, _ => fail
  | fuel + 1, first => do
    let t ← peek
    if t.kind == .flowSequenceEnd then
      emit .sequenceEnd t.start
      pass
    else
      if !first then
        if t.kind == .flowEntry then pass else fail
      let t ← peek
      match t.kind with
      | .key =>
        emit (.mappingStart none) t.start
        pass
        let u ← peek
        match u.kind with
        | .value | .flowEntry | .flowSequenceEnd =>
          pass
          emitEmpty u.stop
        | _ => node handles fuel false false
        let v ← peek
        match v.kind with
        | .value =>
          pass
          let w ← peek
          match w.kind with
          | .flowEntry | .flowSequenceEnd => emitEmpty w.start
          | _ => node handles fuel false false
        | _ => emitEmpty v.start
        let x ← peek
        emit .mappingEnd x.start
        flowItems handles fuel false
      | .flowSequenceEnd =>
        emit .sequenceEnd t.start
        pass
      | _ =>
        node handles fuel false false
        flowItems handles fuel false

def flowPairs (handles : Handles) : Nat → Bool → Emit Unit
  | 0, _ => fail
  | fuel + 1, first => do
    let t ← peek
    if t.kind == .flowMappingEnd then
      emit .mappingEnd t.start
      pass
    else
      if !first then
        if t.kind == .flowEntry then pass else fail
      let t ← peek
      match t.kind with
      | .key =>
        pass
        let u ← peek
        match u.kind with
        | .value | .flowEntry | .flowMappingEnd => emitEmpty u.start
        | _ => node handles fuel false false
        let v ← peek
        match v.kind with
        | .value =>
          pass
          let w ← peek
          match w.kind with
          | .flowEntry | .flowMappingEnd => emitEmpty w.start
          | _ => node handles fuel false false
        | _ => emitEmpty v.start
        flowPairs handles fuel false
      | .flowMappingEnd =>
        emit .mappingEnd t.start
        pass
      | _ =>
        node handles fuel false false
        let v ← peek
        emitEmpty v.start
        flowPairs handles fuel false

end

/-! ## Documents -/

/-- Reads the directives before a document; each kind of directive, and each handle, once. -/
def directives : Nat → Bool → Handles → Emit Handles
  | 0, _, _ => fail
  | fuel + 1, versioned, given => do
    let t ← peek
    match t.kind with
    | .version major minor =>
      if versioned || major != 1 || (minor != 1 && minor != 2) then fail
      else
        pass
        directives fuel true given
    | .tagDirective handle start =>
      if (given.lookup handle).isSome then fail
      else
        pass
        directives fuel versioned ((handle, start) :: given)
    | _ => return given ++ standardHandles

def Kind.endsDocument : Kind → Bool
  | .version .. | .tagDirective .. | .documentStart | .documentEnd | .streamEnd => true
  | _ => false

def passEnds : Nat → Emit Unit
  | 0 => fail
  | fuel + 1 => do
    let t ← peek
    match t.kind with
    | .documentEnd =>
      pass
      passEnds fuel
    | _ => return ()

/-- The documents of a text; only the first may go without a start mark. -/
def documents : Nat → Bool → Emit Unit
  | 0, _ => fail
  | fuel + 1, first => do
    if !first then passEnds (fuel + 1)
    let t ← peek
    match t.kind with
    | .streamEnd =>
      emit .streamEnd t.start
      pass
    | _ =>
      if first && !t.kind.endsDocument then
        emit .documentStart t.start
        node standardHandles (8 * fuel) true false
      else
        let handles ← directives (fuel + 1) false []
        let u ← peek
        if u.kind != .documentStart then fail
        emit .documentStart t.start
        pass
        let v ← peek
        if v.kind.endsDocument then emitEmpty v.start else node handles (8 * fuel) true false
      let u ← peek
      match u.kind with
      | .documentEnd => pass
      | _ => pure ()
      emit .documentEnd u.start
      documents fuel false

/-- The events of a text up to its end or the first fault, and whether the end was reached. -/
def events (text : List Char) : List Marked × Bool :=
  let ts := tokens text
  match documents (ts.length + 2) true ts with
  | (es, some _) => (es, true)
  | (es, none) => (es, false)

end ViewWeave.Yaml
