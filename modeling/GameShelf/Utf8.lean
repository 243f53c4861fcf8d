import GameShelf.Text.Basic

/-!
# UTF-8

Texts as bytes and back.  Decoding is strict: overlong forms, surrogates and code points above
U+10FFFF are refused, and the answer is then the number of bytes in front of the first bad
sequence.  The arithmetic is on natural numbers, division by powers of two in place of shifts.
-/

set_option autoImplicit false

namespace GameShelf

/-- A sequence of bytes. -/
abbrev Bytes := List UInt8

namespace Utf8

/-! ## Encoding -/

/-- A byte that continues a sequence, with six bits of the code point. -/
def continuation (bits : Nat) : UInt8 :=
  UInt8.ofNat (0x80 + bits % 64)

/-- The bytes of a character. -/
def encodeChar (c : Char) : Bytes :=
  let n := c.toNat
  if n < 0x80 then [UInt8.ofNat n]
  else if n < 0x800 then [UInt8.ofNat (0xC0 + n / 64), continuation n]
  else if n < 0x10000 then
    [UInt8.ofNat (0xE0 + n / 4096), continuation (n / 64), continuation n]
  else
    [UInt8.ofNat (0xF0 + n / 262144), continuation (n / 4096), continuation (n / 64),
      continuation n]

/-- The bytes of a text. -/
def encode (t : Text) : Bytes :=
  t.flatMap encodeChar

/-! ## Decoding -/

/-- Whether the byte continues a sequence. -/
def isContinuation (b : UInt8) : Bool :=
  0x80 ≤ b.toNat && b.toNat < 0xC0

/-- The character of a sequence of one byte. -/
def oneByte? (a : UInt8) : Option Char :=
  if a.toNat < 0x80 then some (Char.ofNat a.toNat) else none

/-- The character of a sequence of two bytes. -/
def twoBytes? (a b : UInt8) : Option Char :=
  if 0xC2 ≤ a.toNat ∧ a.toNat < 0xE0 ∧ isContinuation b then
    some (Char.ofNat ((a.toNat - 0xC0) * 64 + (b.toNat - 0x80)))
  else none

/-- The character of a sequence of three bytes. -/
def threeBytes? (a b c : UInt8) : Option Char :=
  let n := (a.toNat - 0xE0) * 4096 + (b.toNat - 0x80) * 64 + (c.toNat - 0x80)
  if 0xE0 ≤ a.toNat ∧ a.toNat < 0xF0 ∧ isContinuation b ∧ isContinuation c
      ∧ 0x800 ≤ n ∧ ¬(0xD800 ≤ n ∧ n < 0xE000) then
    some (Char.ofNat n)
  else none

/-- The character of a sequence of four bytes. -/
def fourBytes? (a b c d : UInt8) : Option Char :=
  let n := (a.toNat - 0xF0) * 262144 + (b.toNat - 0x80) * 4096 + (c.toNat - 0x80) * 64
    + (d.toNat - 0x80)
  if 0xF0 ≤ a.toNat ∧ a.toNat < 0xF5 ∧ isContinuation b ∧ isContinuation c ∧ isContinuation d
      ∧ 0x10000 ≤ n ∧ n < 0x110000 then
    some (Char.ofNat n)
  else none

/-- Puts a character of `width` bytes in front of what follows it. -/
def prepend (c : Char) (width : Nat) : Except Nat Text → Except Nat Text
  | .ok t => .ok (c :: t)
  | .error index => .error (width + index)

/-- The text of a sequence of bytes, or the number of bytes in front of the first bad sequence. -/
def decode : Bytes → Except Nat Text
  | [] => .ok []
  | a :: rest =>
    match oneByte? a with
    | some char => prepend char 1 (decode rest)
    | none =>
      match rest with
      | [] => .error 0
      | b :: rest =>
        match twoBytes? a b with
        | some char => prepend char 2 (decode rest)
        | none =>
          match rest with
          | [] => .error 0
          | c :: rest =>
            match threeBytes? a b c with
            | some char => prepend char 3 (decode rest)
            | none =>
              match rest with
              | [] => .error 0
              | d :: rest =>
                match fourBytes? a b c d with
                | some char => prepend char 4 (decode rest)
                | none => .error 0

end Utf8
end GameShelf
