import Tapeline.Text.Basic

/-!
# UTF-8

Bytes are decoded one at a time.  Behind the first byte of a character the decoder knows how many
bytes must follow and between which bounds the next one lies, so overlong forms, surrogates and
code points above U+10FFFF are refused at the first byte that shows it.  A fault names the place
where its character starts and how many of the bytes belong to it.
-/

namespace Tapeline

namespace Utf8

/-- Why bytes are not text. -/
inductive Reason where
  | invalidStart
  | invalidContinuation
  | unexpectedEnd
deriving DecidableEq, Repr

/-- The words for a reason. -/
def Reason.message : Reason → Text
  | invalidStart => "invalid start byte".toList
  | invalidContinuation => "invalid continuation byte".toList
  | unexpectedEnd => "unexpected end of data".toList

/-- Bytes that are not text: where they start, how many they are, and why. -/
structure Fault where
  start : Nat
  count : Nat
  reason : Reason
deriving DecidableEq, Repr

/-- A character of which some bytes have come: where it started, its value so far, how many bytes
must follow, and the bounds for the next of them. -/
structure Pending where
  start : Nat
  value : Nat
  needed : Nat
  low : Nat
  high : Nat
deriving DecidableEq, Repr

/-- What a first byte begins: a character of its own, or a longer one. -/
def begin? (position byte : Nat) : Option (Char ⊕ Pending) :=
  if byte < 0x80 then some (.inl (Char.ofNat byte))
  else if 0xC2 ≤ byte && byte < 0xE0 then some (.inr ⟨position, byte - 0xC0, 1, 0x80, 0xBF⟩)
  else if 0xE0 ≤ byte && byte < 0xF0 then
    let low := if byte = 0xE0 then 0xA0 else 0x80
    let high := if byte = 0xED then 0x9F else 0xBF
    some (.inr ⟨position, byte - 0xE0, 2, low, high⟩)
  else if 0xF0 ≤ byte && byte < 0xF5 then
    let low := if byte = 0xF0 then 0x90 else 0x80
    let high := if byte = 0xF4 then 0x8F else 0xBF
    some (.inr ⟨position, byte - 0xF0, 3, low, high⟩)
  else none

/-- The characters of the bytes from `position` on. -/
def decodeFrom (position : Nat) : Option Pending → List UInt8 → Except Fault Text
  | none, [] => .ok []
  | some p, [] => .error ⟨p.start, position - p.start, .unexpectedEnd⟩
  | none, byte :: rest =>
    match begin? position byte.toNat with
    | none => .error ⟨position, 1, .invalidStart⟩
    | some (.inl c) => (decodeFrom (position + 1) none rest).map (c :: ·)
    | some (.inr p) => decodeFrom (position + 1) (some p) rest
  | some p, byte :: rest =>
    if p.low ≤ byte.toNat && byte.toNat ≤ p.high then
      let value := p.value * 0x40 + (byte.toNat - 0x80)
      if p.needed ≤ 1 then
        (decodeFrom (position + 1) none rest).map (Char.ofNat value :: ·)
      else
        decodeFrom (position + 1) (some ⟨p.start, value, p.needed - 1, 0x80, 0xBF⟩) rest
    else .error ⟨p.start, position - p.start, .invalidContinuation⟩

/-- The text of bytes. -/
def decode (bytes : List UInt8) : Except Fault Text :=
  decodeFrom 0 none bytes

/-- The bytes of a text. -/
def encode (t : Text) : List UInt8 :=
  t.flatMap String.utf8EncodeChar

end Utf8

end Tapeline
