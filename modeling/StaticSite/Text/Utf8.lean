import StaticSite.Text.Basic

/-!
# UTF-8

Reading bytes as text. Decoding stops at the first fault and says where it stands: the offset of the
first byte of the faulty sequence, its bytes up to the one that breaks the rule, and the rule.

## Main definitions

* `decode`: the text, or the first fault.
* `encode`: the bytes of a text.
-/

namespace StaticSite.Text.Utf8

/-- The rule that a faulty sequence breaks. -/
inductive Rule
  | start
  | continuation
  | ending
  deriving DecidableEq, Repr

/-- The wording of a broken rule. -/
def Rule.message : Rule → String
  | .start => "invalid start byte"
  | .continuation => "invalid continuation byte"
  | .ending => "unexpected end of data"

/-- The first fault of a string of bytes. -/
structure Fault where
  /-- The offset of the first byte of the faulty sequence. -/
  offset : Nat
  /-- The first byte of the faulty sequence. -/
  byte : UInt8
  /-- The number of bytes that belong to the sequence. -/
  length : Nat
  /-- The rule that is broken. -/
  rule : Rule
  deriving DecidableEq, Repr

/-- The wording of a fault. -/
def Fault.message (f : Fault) : String :=
  let place :=
    if f.length == 1 then
      "byte 0x" ++ String.ofList (padded 16 2 f.byte.toNat) ++ " in position " ++ toString f.offset
    else
      "bytes in position " ++ toString f.offset ++ "-" ++ toString (f.offset + f.length - 1)
  "'utf-8' codec can't decode " ++ place ++ ": " ++ f.rule.message

/-- The number of continuation bytes after a start byte, with the bounds of the first of them. -/
def shape? (b : Nat) : Option (Nat × Nat × Nat) :=
  if b < 0xc2 then none
  else if b < 0xe0 then some (1, 0x80, 0xbf)
  else if b == 0xe0 then some (2, 0xa0, 0xbf)
  else if b == 0xed then some (2, 0x80, 0x9f)
  else if b < 0xf0 then some (2, 0x80, 0xbf)
  else if b == 0xf0 then some (3, 0x90, 0xbf)
  else if b < 0xf4 then some (3, 0x80, 0xbf)
  else if b == 0xf4 then some (3, 0x80, 0x8f)
  else none

/-- The value of the payload bits of a start byte with `n` continuation bytes. -/
def startBits (n b : Nat) : Nat :=
  match n with
  | 1 => b % 0x20
  | 2 => b % 0x10
  | _ => b % 0x08

/-- A sequence that is being read: the offset and value of its first byte, the bytes read of it, the
value so far, the continuation bytes missing and the bounds of the next one. -/
structure Pending where
  /-- The offset of the first byte. -/
  offset : Nat
  /-- The first byte. -/
  first : UInt8
  /-- The number of bytes read. -/
  length : Nat
  /-- The payload read so far. -/
  value : Nat
  /-- The continuation bytes still missing. -/
  missing : Nat
  /-- The least admissible next byte. -/
  least : Nat
  /-- The greatest admissible next byte. -/
  greatest : Nat

/-- Read the bytes from an offset on, inside or outside a sequence. -/
def decodeFrom (offset : Nat) : Option Pending → List UInt8 → Except Fault (List Char)
  | none, [] => .ok []
  | some p, [] => .error ⟨p.offset, p.first, p.length, .ending⟩
  | none, b :: rest =>
    if b.toNat < 0x80 then
      match decodeFrom (offset + 1) none rest with
      | .ok cs => .ok (Char.ofNat b.toNat :: cs)
      | .error f => .error f
    else match shape? b.toNat with
      | none => .error ⟨offset, b, 1, .start⟩
      | some (n, least, greatest) =>
        decodeFrom (offset + 1) (some ⟨offset, b, 1, startBits n b.toNat, n, least, greatest⟩) rest
  | some p, b :: rest =>
    if b.toNat < p.least || p.greatest < b.toNat then
      .error ⟨p.offset, p.first, p.length, .continuation⟩
    else
      let value := p.value * 0x40 + b.toNat % 0x40
      if p.missing ≤ 1 then
        match decodeFrom (offset + 1) none rest with
        | .ok cs => .ok (Char.ofNat value :: cs)
        | .error f => .error f
      else
        decodeFrom (offset + 1)
          (some { p with length := p.length + 1, value := value, missing := p.missing - 1,
                         least := 0x80, greatest := 0xbf }) rest

/-- The text that the bytes stand for, or their first fault. -/
def decode (bytes : List UInt8) : Except Fault (List Char) := decodeFrom 0 none bytes

/-- The bytes of one character. -/
def encodeChar (c : Char) : List UInt8 :=
  let n := c.toNat
  let tail (k : Nat) : UInt8 := UInt8.ofNat (0x80 + n / Nat.pow 0x40 k % 0x40)
  if n < 0x80 then [UInt8.ofNat n]
  else if n < 0x800 then [UInt8.ofNat (0xc0 + n / 0x40), tail 0]
  else if n < 0x10000 then [UInt8.ofNat (0xe0 + n / 0x1000), tail 1, tail 0]
  else [UInt8.ofNat (0xf0 + n / 0x40000), tail 2, tail 1, tail 0]

/-- The bytes of a text. -/
def encode (s : List Char) : List UInt8 := s.flatMap encodeChar

end StaticSite.Text.Utf8
