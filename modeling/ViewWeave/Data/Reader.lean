import ViewWeave.Data.Value

/-!
# Reading data text

Data text is read in one pass. A fault names the line and the column, in bytes, where reading
stopped. Whole numbers beyond 64 bits become doubles.
-/

namespace ViewWeave.Data

/-! ## Faults and positions -/

inductive Fault
  | endInList | endInObject | endInString | endInValue
  | expectedColon | expectedListEnd | expectedObjectEnd | expectedWord | expectedValue
  | badEscape | badNumber | numberRange | control | keyNotString | loneSurrogate
  | trailingComma | trailingText | endInEscape | tooDeep
  deriving DecidableEq, Repr

def Fault.message : Fault → String
  | .endInList => "EOF while parsing a list"
  | .endInObject => "EOF while parsing an object"
  | .endInString => "EOF while parsing a string"
  | .endInValue => "EOF while parsing a value"
  | .expectedColon => "expected `:`"
  | .expectedListEnd => "expected `,` or `]`"
  | .expectedObjectEnd => "expected `,` or `\x7d`"
  | .expectedWord => "expected ident"
  | .expectedValue => "expected value"
  | .badEscape => "invalid escape"
  | .badNumber => "invalid number"
  | .numberRange => "number out of range"
  | .control => "control character (\\u0000-\\u001F) found while parsing a string"
  | .keyNotString => "key must be a string"
  | .loneSurrogate => "lone leading surrogate in hex escape"
  | .trailingComma => "trailing comma"
  | .trailingText => "trailing characters"
  | .endInEscape => "unexpected end of hex escape"
  | .tooDeep => "recursion limit exceeded"

structure ReadError where
  fault : Fault
  line : Nat
  column : Nat
  deriving DecidableEq, Repr

def ReadError.message (e : ReadError) : String :=
  s!"{e.fault.message} at line {e.line} column {e.column}"

/-- The text still to be read, and how far reading has come: lines from 1, bytes of this line. -/
structure Cursor where
  rest : List Char
  line : Nat
  column : Nat

def Cursor.start (s : List Char) : Cursor := ⟨s, 1, 0⟩

def Cursor.next (c : Cursor) : Cursor :=
  match c.rest with
  | [] => c
  | '\n' :: cs => ⟨cs, c.line + 1, 0⟩
  | x :: cs => ⟨cs, c.line, c.column + x.utf8Size⟩

def Cursor.fail {α} (c : Cursor) (f : Fault) : Except ReadError α := .error ⟨f, c.line, c.column⟩

def Cursor.failNext {α} (c : Cursor) (f : Fault) : Except ReadError α :=
  match c.rest with
  | [] => c.fail f
  | '\n' :: _ => .error ⟨f, c.line + 1, 0⟩
  | _ :: _ => .error ⟨f, c.line, c.column + 1⟩

def placeAfter : Nat → Nat → Nat → List Char → Nat × Nat
  | 0, line, column, _ | _ + 1, line, column, [] => (line, column)
  | n + 1, line, column, x :: cs =>
    if x = '\n' then placeAfter n (line + 1) 0 cs
    else placeAfter (n + 1 - x.utf8Size) line (column + min (n + 1) x.utf8Size) cs

def Cursor.failAfter {α} (c : Cursor) (n : Nat) (f : Fault) : Except ReadError α :=
  let (line, column) := placeAfter n c.line c.column c.rest
  .error ⟨f, line, column⟩

def isSpace (c : Char) : Bool := c == ' ' || c == '\n' || c == '\t' || c == '\r'

/-- The cursor after white space, where `s` is the text still to be read. -/
def skipFrom (line column : Nat) : List Char → Cursor
  | [] => ⟨[], line, column⟩
  | x :: cs =>
    if x == '\n' then skipFrom (line + 1) 0 cs
    else if isSpace x then skipFrom line (column + 1) cs
    else ⟨x :: cs, line, column⟩

def Cursor.skip (c : Cursor) : Cursor := skipFrom c.line c.column c.rest

/-! ## Words and strings -/

/-- Reads the rest of a word whose first letter has been read. -/
def readWord : List Char → Cursor → Except ReadError Cursor
  | [], c => .ok c
  | w :: ws, c =>
    match c.rest with
    | [] => c.fail .endInValue
    | x :: _ => if x = w then readWord ws c.next else c.failNext .expectedWord

def hexValue? (c : Char) : Option Nat :=
  if '0' ≤ c ∧ c ≤ '9' then some (c.toNat - 48)
  else if 'a' ≤ c ∧ c ≤ 'f' then some (c.toNat - 87)
  else if 'A' ≤ c ∧ c ≤ 'F' then some (c.toNat - 55)
  else none

def readHex (c : Cursor) : Except ReadError (Nat × Cursor) :=
  if (String.ofList c.rest).utf8ByteSize < 4 then c.failAfter 4 .endInString
  else
    match c.rest.take 4 |>.map hexValue? with
    | [some x, some y, some z, some w] =>
      .ok (x * 4096 + y * 256 + z * 16 + w, ⟨c.rest.drop 4, c.line, c.column + 4⟩)
    | _ => c.failAfter 4 .badEscape

/-- Reads one given character of an escape that continues a pair of surrogates. -/
def readPairMark (x : Char) (c : Cursor) : Except ReadError Cursor :=
  match c.rest with
  | [] => c.fail .endInString
  | y :: _ => if y = x then .ok c.next else c.failNext .endInEscape

/-- Reads the digits of an escape; two surrogates make one character. -/
def readUnicode (c : Cursor) : Except ReadError (Char × Cursor) := do
  let (n, c) ← readHex c
  if 0xDC00 ≤ n ∧ n ≤ 0xDFFF then c.fail .loneSurrogate
  else if n < 0xD800 ∨ 0xDBFF < n then return (Char.ofNat n, c)
  else
    let c ← readPairMark '\\' c
    let c ← readPairMark 'u' c
    let (m, c) ← readHex c
    if m < 0xDC00 ∨ 0xDFFF < m then c.fail .loneSurrogate
    else return (Char.ofNat ((n - 0xD800) * 1024 + (m - 0xDC00) + 0x10000), c)

def readEscape (c : Cursor) : Except ReadError (Char × Cursor) :=
  match c.rest with
  | [] => c.fail .endInString
  | x :: _ =>
    if x = '"' ∨ x = '\\' ∨ x = '/' then .ok (x, c.next)
    else if x = 'b' then .ok (Char.ofNat 8, c.next)
    else if x = 'f' then .ok (Char.ofNat 12, c.next)
    else if x = 'n' then .ok ('\n', c.next)
    else if x = 'r' then .ok ('\r', c.next)
    else if x = 't' then .ok ('\t', c.next)
    else if x = 'u' then readUnicode c.next
    else c.failNext .badEscape

/-- Reads a string up to its closing quote; `done` holds its characters so far, the last first. -/
def readChars : Nat → List Char → Cursor → Except ReadError (String × Cursor)
  | 0, _, c => c.fail .endInString
  | fuel + 1, done, c =>
    match c.rest with
    | [] => c.fail .endInString
    | '"' :: _ => .ok (String.ofList done.reverse, c.next)
    | '\\' :: _ => do
      let (x, c) ← readEscape c.next
      readChars fuel (x :: done) c
    | x :: _ =>
      if x.toNat < 32 then c.next.fail .control
      else readChars fuel (x :: done) c.next

def readString (c : Cursor) : Except ReadError (String × Cursor) :=
  readChars (c.rest.length + 1) [] c

/-! ## Numbers -/

/-- The greatest digits that are kept exactly. -/
def maxDigits : Nat := 18446744073709551615

/-- `digits · 10^exponent` as a double: the digits are rounded, then scaled by powers of ten. -/
def scaled (digits : Nat) (exponent : Int) : Option Float :=
  let x := Decimal.ofInt digits
  if exponent ≥ 0 then
    if exponent ≤ 308 then
      let y := x * Decimal.ofDecimal 1 exponent
      if y.isInf then none else some y
    else if digits = 0 then some x
    else none
  else if exponent ≥ -308 then some (x / Decimal.ofDecimal 1 (-exponent))
  else if digits = 0 then some x
  else
    -- each step takes 308 places off, until the value vanishes or the rest is in reach
    let y := x / Decimal.ofDecimal 1 308
    if exponent ≥ -616 then some (y / Decimal.ofDecimal 1 (-exponent - 308))
    else some 0.0

/-- A double of the given sign, or a fault if it is out of range. -/
def finish (negative : Bool) (digits : Nat) (exponent : Int) (c : Cursor) :
    Except ReadError (Number × Cursor) :=
  match scaled digits exponent with
  | some x => .ok (.float (if negative then -x else x), c)
  | none => c.fail .numberRange

def digitRun (c : Cursor) : List Char × Cursor :=
  let ds := c.rest.takeWhile Char.isDigit
  (ds, ⟨c.rest.drop ds.length, c.line, c.column + ds.length⟩)

def digitValue (c : Char) : Nat := c.toNat - 48

/-- Appends digits to `n` while they are kept exactly; the second part is what was left over. -/
def appendDigits (n : Nat) : List Char → Nat × List Char
  | [] => (n, [])
  | d :: ds =>
    if n * 10 + digitValue d ≤ maxDigits then appendDigits (n * 10 + digitValue d) ds
    else (n, d :: ds)

def readExponent (negative : Bool) (digits : Nat) (start : Int) (c : Cursor) :
    Except ReadError (Number × Cursor) :=
  let (down, c) := match c.rest with
    | '+' :: _ => (false, c.next)
    | '-' :: _ => (true, c.next)
    | _ => (false, c)
  match c.rest with
  | [] => c.fail .endInValue
  | d :: _ =>
    if !d.isDigit then c.failNext .badNumber
    else
      let (ds, c') := digitRun c
      let e := ds.foldl (fun n d => n * 10 + digitValue d) 0
      if e > 2147483647 then
        if digits ≠ 0 ∧ !down then
          -- reading stops at the digit that goes beyond 32 bits
          let short := (List.range ds.length).find? fun n =>
            (ds.take (n + 1)).foldl (fun n d => n * 10 + digitValue d) 0 > 2147483647
          c.failAfter (short.getD 0 + 1) .numberRange
        else .ok (.float (if negative then -0.0 else 0.0), c')
      else finish negative digits (if down then start - e else start + e) c'

def readTail (negative : Bool) (digits : Nat) (exponent : Int) (c : Cursor) :
    Except ReadError (Number × Cursor) :=
  match c.rest with
  | 'e' :: _ | 'E' :: _ => readExponent negative digits exponent c.next
  | _ => finish negative digits exponent c

def readFraction (negative : Bool) (digits : Nat) (exponent : Int) (c : Cursor) :
    Except ReadError (Number × Cursor) :=
  let (ds, c') := digitRun c
  if ds.isEmpty then
    match c.rest with
    | [] => c.fail .endInValue
    | _ :: _ => c.failNext .badNumber
  else
    let (n, left) := appendDigits digits ds
    readTail negative n (exponent - (ds.length - left.length : Nat)) c'

def readNumber (negative : Bool) (c : Cursor) : Except ReadError (Number × Cursor) :=
  match c.rest with
  | [] => c.fail .endInValue
  | d :: _ =>
    if !d.isDigit then c.failNext .badNumber
    else
      let (ds, c') := if d = '0' then (['0'], c.next) else digitRun c
      if d = '0' ∧ (c'.rest.head?.any Char.isDigit) then c'.failNext .badNumber
      else
        let (n, left) := appendDigits 0 ds
        let skipped : Int := left.length
        match c'.rest with
        | '.' :: _ => readFraction negative n skipped c'.next
        | 'e' :: _ | 'E' :: _ => readExponent negative n skipped c'.next
        | _ =>
          if !left.isEmpty then finish negative n skipped c'
          else if !negative then .ok (.int n, c')
          -- zero with a sign is a double, as is what lies below the signed numbers
          else if n = 0 ∨ n > 9223372036854775808 then .ok (.float (-(Decimal.ofInt n)), c')
          else .ok (.int (-n), c')

/-! ## Values -/

/-- Reads array items after the first bracket or comma; `first` tells which. -/
def readItems (value : Cursor → Except ReadError (Value × Cursor)) :
    Nat → Bool → List Value → Cursor → Except ReadError (Value × Cursor)
  | 0, _, _, c => c.fail .endInList
  | fuel + 1, first, done, c => do
    let c := c.skip
    match c.rest with
    | [] => c.failNext .endInList
    | ']' :: _ => return (.arr done.reverse, c.next)
    | x :: _ =>
      if first then
        let (v, c) ← value c
        readItems value fuel false (v :: done) c
      else if x = ',' then
        let c := c.next.skip
        match c.rest with
        | [] => c.failNext .endInValue
        | ']' :: _ => c.failNext .trailingComma
        | _ :: _ =>
          let (v, c) ← value c
          readItems value fuel false (v :: done) c
      else c.failNext .expectedListEnd

def readField (value : Cursor → Except ReadError (Value × Cursor)) (c : Cursor) :
    Except ReadError ((String × Value) × Cursor) := do
  let (k, c) ← readString c.next
  let c := c.skip
  match c.rest with
  | [] => c.failNext .endInObject
  | ':' :: _ =>
    let (v, c) ← value c.next
    return ((k, v), c)
  | _ :: _ => c.failNext .expectedColon

def readFields (value : Cursor → Except ReadError (Value × Cursor)) :
    Nat → Bool → Fields → Cursor → Except ReadError (Value × Cursor)
  | 0, _, _, c => c.fail .endInObject
  | fuel + 1, first, done, c => do
    let c := c.skip
    match c.rest with
    | [] => c.failNext .endInObject
    | '\x7d' :: _ => return (.obj done, c.next)
    | x :: _ =>
      if first then
        if x = '"' then
          let ((k, v), c) ← readField value c
          readFields value fuel false (Fields.insert k v done) c
        else c.failNext .keyNotString
      else if x = ',' then
        let c := c.next.skip
        match c.rest with
        | [] => c.failNext .endInValue
        | '"' :: _ =>
          let ((k, v), c) ← readField value c
          readFields value fuel false (Fields.insert k v done) c
        | '\x7d' :: _ => c.failNext .trailingComma
        | _ :: _ => c.failNext .keyNotString
      else c.failNext .expectedObjectEnd

/-- Reads a value nested at most `depth` deep. -/
def readValue : Nat → Cursor → Except ReadError (Value × Cursor)
  | depth, c => do
    let c := c.skip
    match c.rest with
    | [] => c.failNext .endInValue
    | 'n' :: _ => return (.null, ← readWord "ull".toList c.next)
    | 't' :: _ => return (.bool true, ← readWord "rue".toList c.next)
    | 'f' :: _ => return (.bool false, ← readWord "alse".toList c.next)
    | '-' :: _ =>
      let (n, c) ← readNumber true c.next
      return (.num n, c)
    | '"' :: _ =>
      let (s, c) ← readString c.next
      return (.str s, c)
    | '[' :: _ =>
      match depth with
      | 0 => c.failNext .tooDeep
      | d + 1 => readItems (readValue d) (c.rest.length + 1) true [] c.next
    | '\x7b' :: _ =>
      match depth with
      | 0 => c.failNext .tooDeep
      | d + 1 => readFields (readValue d) (c.rest.length + 1) true [] c.next
    | x :: _ =>
      if x.isDigit then
        let (n, c) ← readNumber false c
        return (.num n, c)
      else c.failNext .expectedValue

def read (s : String) : Except ReadError Value := do
  let (v, c) ← readValue 127 (.start s.toList)
  let c := c.skip
  match c.rest with
  | [] => return v
  | _ :: _ => c.failNext .trailingText

end ViewWeave.Data
