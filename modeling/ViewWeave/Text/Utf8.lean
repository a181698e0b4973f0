/-!
# Bytes and text

Files hold bytes. Reading them as text either accepts only well-formed bytes or replaces each
malformed part by one mark.
-/

namespace ViewWeave.Text

def utf8 (s : String) : List UInt8 := s.toUTF8.data.toList

/-- Whether `b` may follow the first byte of a character in last position. -/
def isTail (b : UInt8) : Bool := 0x80 ≤ b && b ≤ 0xBF

/-- The range of the second byte after first byte `a`, and the number of bytes in all. -/
def leadByte? (a : UInt8) : Option (UInt8 × UInt8 × Nat) :=
  if 0xC2 ≤ a && a ≤ 0xDF then some (0x80, 0xBF, 2)
  else if a == 0xE0 then some (0xA0, 0xBF, 3)
  else if 0xE1 ≤ a && a ≤ 0xEC then some (0x80, 0xBF, 3)
  else if a == 0xED then some (0x80, 0x9F, 3)
  else if 0xEE ≤ a && a ≤ 0xEF then some (0x80, 0xBF, 3)
  else if a == 0xF0 then some (0x90, 0xBF, 4)
  else if 0xF1 ≤ a && a ≤ 0xF3 then some (0x80, 0xBF, 4)
  else if a == 0xF4 then some (0x80, 0x8F, 4)
  else none

def charOfBytes : List UInt8 → Char
  | [a] => Char.ofNat a.toNat
  | [a, b] => Char.ofNat ((a.toNat % 32) * 64 + b.toNat % 64)
  | [a, b, c] => Char.ofNat ((a.toNat % 16) * 4096 + (b.toNat % 64) * 64 + c.toNat % 64)
  | [a, b, c, d] =>
    Char.ofNat ((a.toNat % 8) * 262144 + (b.toNat % 64) * 4096 + (c.toNat % 64) * 64 + d.toNat % 64)
  | _ => '\uFFFD'

/-- One step of reading: a character, or the length of the malformed part, which is at least one
and as long as it could still begin a character. -/
def decodeOne (a : UInt8) (bs : List UInt8) : Except Nat (Char × Nat) :=
  if a < 0x80 then .ok (Char.ofNat a.toNat, 1)
  else
    match leadByte? a with
    | none => .error 1
    | some (low, high, n) =>
      match bs with
      | [] => .error 1
      | b :: rest =>
        if !(low ≤ b && b ≤ high) then .error 1
        else
          let tails := (rest.take (n - 2)).takeWhile isTail
          if tails.length = n - 2 then .ok (charOfBytes (a :: b :: tails), n)
          else .error (2 + tails.length)

/-- The characters of well-formed bytes, reading at most `fuel` sequences. -/
def decodeFrom : Nat → List UInt8 → Option (List Char)
  | _, [] => some []
  | 0, _ => none
  | fuel + 1, a :: bs =>
    match decodeOne a bs with
    | .ok (c, n) => (decodeFrom fuel (bs.drop (n - 1))).map (c :: ·)
    | .error _ => none

def decode? (bs : List UInt8) : Option String := (decodeFrom bs.length bs).map String.ofList

def decodeLossyFrom : Nat → List UInt8 → List Char
  | _, [] => []
  | 0, _ => []
  | fuel + 1, a :: bs =>
    match decodeOne a bs with
    | .ok (c, n) => c :: decodeLossyFrom fuel (bs.drop (n - 1))
    | .error n => '\uFFFD' :: decodeLossyFrom fuel (bs.drop (n - 1))

/-- The text that the bytes spell, with a replacement character for each malformed part. -/
def decodeLossy (bs : List UInt8) : String := String.ofList (decodeLossyFrom bs.length bs)

end ViewWeave.Text
