import ViewWeave.Render.Filter.Basic
import ViewWeave.Render.Pointer
import ViewWeave.Text.Case
import ViewWeave.Text.Replace

/-!
# Filters on arrays and objects
-/

namespace ViewWeave.Filter

/-! ## Items -/

/-- What stands for an item that is not there. -/
def noItem : Value := .str ""

def first : Filter := fun v _ => do return (← arrayInput v).head?.getD noItem

def last : Filter := fun v _ => do return (← arrayInput v).getLast?.getD noItem

def nth : Filter := fun v args => do
  let items ← arrayInput v
  if items.isEmpty then return noItem
  let n ← argElse args "n" (.lacksArg "n") count
  return items[n]?.getD noItem

def length : Filter := fun v _ =>
  match v with
  | .str s => .ok (.ofInt s.length)
  | .arr items => .ok (.ofInt items.length)
  | .obj fields => .ok (.ofInt fields.length)
  | _ => .error .noLength

def reverse : Filter := fun v _ =>
  match v with
  | .str s => .ok (.str (String.ofList s.toList.reverse))
  | .arr items => .ok (.arr items.reverse)
  | v => .error (.badArg "value" v "Array|String")

def join : Filter := fun v args => do
  let items ← arrayInput v
  let sep ← argOr args "sep" "" fun name v =>
    match v with
    | .str s => .ok s
    | v => .error (.badSeparator name v)
  let sep := Text.replace ['\\', 't'] ['\t'] (Text.replace ['\\', 'n'] ['\n'] sep.toList)
  return .str (String.ofList (sep.intercalate (items.map Value.display)))

/-- The whole number below a double; what is negative or no number is zero. -/
def position (x : Float) : Nat := x.toUInt64.toNat

/-- A position counted from the start, or from the end if negative. -/
def fromEnds (n : Nat) (x : Float) : Nat :=
  if x ≥ 0.0 then position x else position (Decimal.ofInt n + x)

def slice : Filter := fun v args => do
  let items ← arrayInput v
  if items.isEmpty then return v
  let start ← argOr args "start" 0 fun name v => do
    return fromEnds items.length (← double name v)
  let stop ← argOr args "end" items.length fun name v => do
    return fromEnds items.length (← double name v)
  return .arr ((items.take stop).drop start)

def concat : Filter := fun v args => do
  let items ← arrayInput v
  match args.get? "with" with
  | none => .error (.lacksArg "with")
  | some (.arr more) => return .arr (items ++ more)
  | some w => return .arr (items ++ [w])

/-! ## Parts of items -/

/-- What an item holds at a path, unless that is null. -/
def present? (path : String) (v : Value) : Option Value :=
  match Pointer.find? path.toList v with
  | some .null => none
  | found => found

def map : Filter := fun v args => do
  let items ← arrayInput v
  if items.isEmpty then return v
  let path ← argElse args "attribute" (.lacksArg "attribute") text
  return .arr (items.filterMap (present? path))

def keep : Filter := fun v args => do
  let items ← arrayInput v
  if items.isEmpty then return v
  let path ← argElse args "attribute" (.lacksArg "attribute") text
  let wanted := (args.get? "value").getD .null
  return .arr <| items.filter fun v =>
    match present? path v, wanted with
    | none, _ => false
    | some _, .null => true
    | some found, wanted => found.beq wanted

def putGroup (k : String) (v : Value) (groups : List (String × List Value)) :
    List (String × List Value) :=
  Sorted.insert k ((groups.lookup k).getD [] ++ [v]) groups

def groupBy : Filter := fun v args => do
  let items ← arrayInput v
  if items.isEmpty then return .obj []
  let path ← argElse args "attribute" (.lacksArg "attribute") text
  let groups := items.foldl
    (fun groups v =>
      match present? path v with
      | some (.str k) => putGroup k v groups
      | some k => putGroup k.compactText v groups
      | none => groups)
    []
  return .obj (groups.map fun (k, vs) => (k, .arr vs))

def get : Filter := fun v args => do
  let key ← argElse args "key" (.lacksArg "key") text
  match v with
  | .obj fields =>
    match fields.lookup key, args.get? "default" with
    | some found, _ => return found
    | none, some v => return v
    | none, none => .error (.noKey key)
  | _ => .error .notAnObject

/-! ## Order -/

inductive SortKey
  | bool (b : Bool)
  | num (x : Float)
  | str (s : String)
  | len (n : Nat)

def SortKey.le : SortKey → SortKey → Bool
  | .bool a, .bool b => !a || b
  | .num x, .num y => x ≤ y
  | .str s, .str t => s ≤ t
  | .len m, .len n => m ≤ n
  | _, _ => true

/-- How the keys are made that go with a first key. -/
def sortKey (first : Value) : Except FilterFault (Value → Except FilterFault SortKey) :=
  match first with
  | .null => .error (.unsortable "Null")
  | .obj _ => .error (.unsortable "Object")
  | .bool _ => .ok fun
    | .bool b => .ok (.bool b)
    | v => .error (.unlike "bool" v)
  | .num _ => .ok fun
    | .num n => .ok (.num n.toFloat)
    | v => .error (.unlike "number" v)
  | .str _ => .ok fun
    | .str s => .ok (.str s)
    | v => .error (.unlike "string" v)
  | .arr _ => .ok fun
    | .arr items => .ok (.len items.length)
    | v => .error (.unlike "array" v)

def field (path : String) (v : Value) : Except FilterFault Value :=
  match Pointer.find? path.toList v with
  | some found => .ok found
  | none => .error (.noField path)

/-- The items in ascending order; those of one rank keep their order. -/
def sort : Filter := fun v args => do
  let items ← arrayInput v
  match items with
  | [] => return v
  | v :: _ =>
    let path ← argOr args "attribute" "" text
    let key ← sortKey (← field path v)
    let pairs ← items.mapM fun v => do return (← key (← field path v), v)
    return .arr ((pairs.mergeSort fun a b => a.1.le b.1).map (·.2))

/-! ## Repetitions -/

def uniqueKey (caseSensitive : Bool) : Value → Value
  | .str s => .str (if caseSensitive then s else String.ofList (Text.lower s.toList))
  | v => v

def sameKind : Value → Value → Bool
  | .null, .null | .bool _, .bool _ | .num _, .num _ | .str _, .str _ | .arr _, .arr _
  | .obj _, .obj _ => true
  | _, _ => false

def checkUnique : Value → Except FilterFault Unit
  | .null => .error .nullItem
  | .num (.float _) => .error (.notCounted "floats")
  | .arr _ => .error (.notCounted "arrays")
  | .obj _ => .error (.notCounted "objects")
  | _ => .ok ()

def unique : Filter := fun v args => do
  let items ← arrayInput v
  match items with
  | [] => return v
  | v :: _ =>
    let sensitive ← argOr args "case_sensitive" false truth
    let path ← argOr args "attribute" "" text
    let first ← field path v
    checkUnique first
    let step (st : List Value × List Value) (v : Value) :
        Except FilterFault (List Value × List Value) :=
      match Pointer.find? path.toList v with
      | none => .ok st
      | some k =>
        if !sameKind first k then .error .mixedKinds
        else
          if k.number?.any (·.signed?.isNone) then .error (.unlike "number" k)
          else
            let k := uniqueKey sensitive k
            .ok (if st.1.any k.beq then st else (k :: st.1, v :: st.2))
    let (_, kept) ← items.foldlM step ([], [])
    return .arr kept.reverse

def sequences : List (String × Filter) :=
  [("first", first), ("last", last), ("nth", nth), ("length", length), ("reverse", reverse),
   ("join", join), ("slice", slice), ("concat", concat), ("map", map), ("filter", keep),
   ("group_by", groupBy), ("get", get), ("sort", sort), ("unique", unique)]

end ViewWeave.Filter
