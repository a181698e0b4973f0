import ViewWeave.Markup.Outline
import ViewWeave.Data.Writer

/-!
# Faults of rendering

What can go wrong while a template is rendered, and the words for it.
-/

namespace ViewWeave

/-! ## Filters and tests -/

inductive FilterFault
  | badInput (got : Value) (expected : String)
  | badEscape (got : Value)
  | badArg (arg : String) (got : Value) (expected : String)
  | badSeparator (arg : String) (got : Value)
  | noArg (arg : String)
  | lacksArg (arg : String)
  | noLength
  | notAnObject
  | notANumber
  | noKey (key : String)
  | badMethod (method : String)
  | unexpectedType
  | noField (path : String)
  | unsortable (kind : String)
  | unlike (expected : String) (got : Value)
  | mixedKinds
  | notCounted (kind : String)
  | nullItem
  | told (message : String)
  deriving Repr

namespace FilterFault

def message (f : String) : FilterFault → String
  | .badInput got expected =>
    s!"Filter `{f}` was called on an incorrect value: got `" ++ got.compactText ++
      s!"` but expected a {expected}"
  | .badEscape got =>
    "Filter `escape_html` was called on an incorrect value: got `" ++ got.compactText ++
      "` but expected a String"
  | .badArg arg got expected =>
    s!"Filter `{f}` received an incorrect type for arg `{arg}`: got `" ++ got.compactText ++
      s!"` but expected {expected}"
  | .badSeparator arg got =>
    s!"Filter `truncate` received an incorrect type for arg `{arg}`: got `" ++ got.compactText ++
      "` but expected a String"
  | .noArg arg => s!"Filter `{f}` expected an arg called `{arg}`"
  | .lacksArg arg =>
    let article := if arg = "with" then "a" else "an"
    s!"The `{f}` filter has to have {article} `{arg}` argument"
  | .noLength => s!"Filter `{f}` was used on a value that isn't an array, an object, or a string."
  | .notAnObject => s!"Filter `{f}` was used on a value that isn't an object"
  | .notANumber => s!"Filter `{f}` was used on a value that isn't a number."
  | .noKey key => s!"Filter `{f}` tried to get key `{key}` but it wasn't found"
  | .badMethod method =>
    s!"Filter `{f}` received an incorrect value for arg `method`: got `" ++ Text.quoted method ++
      "`, only common, ceil and floor are allowed"
  | .unexpectedType => s!"Filter `{f}` received an unexpected type"
  | .noField path => s!"attribute '{path}' does not reference a field"
  | .unsortable kind => s!"{kind} is not a sortable value"
  | .unlike expected got => s!"expected {expected} got " ++ got.compactText
  | .mixedKinds => "unique filter can't compare multiple types"
  | .notCounted kind => s!"Unique {kind} are not implemented"
  | .nullItem => "Null is not a unique value"
  | .told m => m

end FilterFault

inductive TestFault
  | noArgsTaken
  | tooManyArgs (got most : Nat)
  | undefined
  | notText
  | notNumber (asking : String)
  | argNotText
  | argNotNumber
  | notSearchable
  | told (message : String)
  deriving DecidableEq, Repr

def TestFault.message (t : String) : TestFault → String
  | .noArgsTaken => s!"Tester `{t}` was called with some args but this test doesn't take args"
  | .tooManyArgs got most =>
    s!"Tester `{t}` was called with {got} args, the max number is {most}"
  | .undefined => s!"Tester `{t}` was called on an undefined variable"
  | .notText => s!"Tester `{t}` was called on a variable that isn't a string"
  | .notNumber asking => s!"Tester `{asking}` was called on a variable that isn't a number"
  | .argNotText => s!"Tester `{t}` was called with a parameter that isn't a string"
  | .argNotNumber => s!"Tester `{t}` was called with a parameter that isn't a number"
  | .notSearchable => s!"Tester `{t}` can only be used on string, array or map"
  | .told m => m

/-! ## All faults -/

inductive Fault
  | noVariable (path template : String)
  | noIndexed (path template evaluated : String)
  | badIndex (path why : String)
  | wrongIndex (index path : String)
  | noFunction (name : String)
  | noFilter (name : String)
  | noTest (name : String)
  | inFunction (name : String) (cause : Fault)
  | inFilter (name : String) (cause : Fault)
  | inTest (name : String) (cause : Fault)
  | helper (message : String)
  | filter (name : String) (f : FilterFault)
  | test (name : String) (f : TestFault)
  | overArray (container : String)
  | overObject (container : String)
  | overOther (container : String)
  | badContainer (o : Operand)
  | joinPath (path : String)
  | joinCall (name : String)
  | arithmetic (message : String)
  | sumOfPath (path : String)
  | sumOfCall (name : String)
  | sumOfOther
  | sumOfText (s : String)
  | sumOfTruth (b : Bool)
  | sumOfJoined (parts : List Operand)
  | sumOfTest (name : String)
  | remZero (lhs rhs : Expr)
  | outOfBounds (lhs : Int) (op : String) (rhs : Int) (kind : String)
  | notComparable
  | unsupported
  | truthOfCall (name : String)
  | notInText (v : Value)
  | notInObject (v : Value)
  | noContainer
  | noDefault
  | noArgument (definition arg : String)
  | noMacro (space name template : String)
  | noSpace (space template : String)
  | noTemplate (names : List String)
  | lowerTemplate (name : String)
  | noLowerBlock
  | notInLoop (word : String)
  | refused
  | tooDeep

namespace Fault

def joinedText (parts : List Operand) : String :=
  " ~ ".intercalate <| parts.map fun
    | .str s => s!"'{s}'"
    | .path p => p
    | _ => "unknown"

def message : Fault → String
  | .noVariable p t => s!"Variable `{p}` not found in context while rendering '{t}'"
  | .noIndexed p t e =>
    s!"Variable `{p}` not found in context while rendering '{t}': the evaluated version was " ++
      s!"`{e}`. Maybe the index is out of bounds?"
  | .badIndex p why => s!"Variable {p} can not be evaluated because: {why}"
  | .wrongIndex i p =>
    s!"Only variables evaluating to String or Number can be used as index (`{i}` of `{p}`)"
  | .noFunction n => s!"Function '{n}' not found"
  | .noFilter n => s!"Filter '{n}' not found"
  | .noTest n => s!"Test '{n}' not found"
  | .inFunction n _ => s!"Function call '{n}' failed"
  | .inFilter n _ => s!"Filter call '{n}' failed"
  | .inTest n _ => s!"Test call '{n}' failed"
  | .helper m => m
  | .filter n f => f.message n
  | .test n f => f.message n
  | .overArray c =>
    s!"Tried to iterate using key value on variable `{c}`, but it isn't an object/map"
  | .overObject c => s!"Tried to iterate using key value on variable `{c}`, but it is missing a key"
  | .overOther c => s!"Tried to iterate on a container (`{c}`) that has a unsupported type"
  | .badContainer o =>
    "Forloop containers have to be an ident or a function call (tried to iterate on '" ++
      o.outline ++ "')"
  | .joinPath p => s!"Tried to concat a value that is not a string or a number from ident {p}"
  | .joinCall n =>
    s!"Tried to concat a value that is not a string or a number from function call {n}"
  | .arithmetic m => m
  | .sumOfPath p => s!"Variable `{p}` was used in a math operation but is not a number"
  | .sumOfCall n =>
    s!"Function `{n}` was used in a math operation but is not returning a number"
  | .sumOfOther => "Tried to do math with an expression not resulting in a number"
  | .sumOfText s => s!"Tried to do math with a string: `{s}`"
  | .sumOfTruth b => "Tried to do math with a boolean: `" ++ boolWord b ++ "`"
  | .sumOfJoined ps => "Tried to do math with a string concatenation: " ++ joinedText ps
  | .sumOfTest n => s!"Tried to do math with a test: {n}"
  | .remZero l r => "Tried to do a modulo by zero: " ++ l.outline ++ "/" ++ r.outline
  | .outOfBounds l op r kind =>
    intWord l ++ s!" {op} " ++ intWord r ++ s!" results in an out of bounds {kind}"
  | .notComparable => "Comparison to NaN"
  | .unsupported => "This expression has no value here"
  | .truthOfCall n => s!"Function `{n}` was used in a logic operation but is not returning a bool"
  | .notInText v => "Tried to check if " ++ v.outline ++ " is in a string, but it isn't a string"
  | .notInObject v => "Tried to check if " ++ v.outline ++ " is in a object, but it isn't a string"
  | .noContainer => "The `in` operator only supports strings, arrays and objects."
  | .noDefault => "The `default` filter requires a `value` argument."
  | .noArgument m a => s!"Macro `{m}` is missing the argument `{a}`"
  | .noMacro s n t => s!"Macro `{s}::{n}` not found in template `{t}`"
  | .noSpace s t =>
    s!"Macro namespace `{s}` was not found in template `{t}`. Have you maybe forgotten to " ++
      "import it, or misspelled it?"
  | .noTemplate ns => "Template '[" ++ ", ".intercalate ns ++ "]' not found"
  | .lowerTemplate n =>
    s!"Inheritance in included templates is currently not supported: extended `{n}`"
  | .noLowerBlock => "Tried to use super() in the top level block"
  | .notInLoop w => s!"Attempted `{w}` while not in `for loop`"
  | .refused => "Io error while writing rendered value to output: BrokenPipe"
  | .tooDeep => "The template is nested too deeply"

def causes : Fault → List String
  | .inFunction _ f => f.message :: f.causes
  | .inFilter _ f => f.message :: f.causes
  | .inTest _ f => f.message :: f.causes
  | .refused => ["closed"]
  | _ => []

end Fault

end ViewWeave
