import Tapeline.Text.Basic

/-!
# UTF-16

Two bytes make a code unit, the lower one first or last.  A code unit outside the surrogates is a
character; a high surrogate makes one together with the low surrogate behind it.  A mark at the
start of a text may say which byte comes first.
-/

namespace Tapeline

namespace Utf16

/-- Which byte of a code unit comes first. -/
inductive ByteOrder where
  | littleEndian
  | bigEndian
deriving DecidableEq, Repr

/-- The code unit of two bytes. -/
def ByteOrder.unit : ByteOrder → UInt8 → UInt8 → Nat
  | littleEndian, a, b => b.toNat * 0x100 + a.toNat
  | bigEndian, a, b => a.toNat * 0x100 + b.toNat

/-- Why bytes are not text. -/
inductive Reason where
  | truncated
  | unexpectedEnd
  | illegalUnit
  | illegalSurrogate
deriving DecidableEq, Repr

/-- The words for a reason. -/
def Reason.message : Reason → Text
  | truncated => "truncated data".toList
  | unexpectedEnd => "unexpected end of data".toList
  | illegalUnit => "illegal encoding".toList
  | illegalSurrogate => "illegal UTF-16 surrogate".toList

/-- Bytes that are not text: where they start, how many they are, and why. -/
structure Fault where
  start : Nat
  count : Nat
  reason : Reason
deriving DecidableEq, Repr

/-- The character of two surrogates. -/
def pairChar (high low : Nat) : Char :=
  Char.ofNat (0x10000 + (high - 0xD800) * 0x400 + (low - 0xDC00))

/-- The characters of the bytes from `position` on. -/
def decodeFrom (order : ByteOrder) (position : Nat) : List UInt8 → Except Fault Text
  | [] => .ok []
  | [_] => .error ⟨position, 1, .truncated⟩
  | a :: b :: rest =>
    let unit := order.unit a b
    if unit < 0xD800 || 0xE000 ≤ unit then
      (decodeFrom order (position + 2) rest).map (Char.ofNat unit :: ·)
    else if 0xDC00 ≤ unit then .error ⟨position, 2, .illegalUnit⟩
    else
      match rest with
      | c :: d :: rest =>
        let low := order.unit c d
        if 0xDC00 ≤ low && low < 0xE000 then
          (decodeFrom order (position + 4) rest).map (pairChar unit low :: ·)
        else .error ⟨position, 2, .illegalSurrogate⟩
      | short => .error ⟨position, 2 + short.length, .unexpectedEnd⟩

/-- The byte order that a mark at the start shows, with the number of its bytes; little-endian
without a mark. -/
def orderOf : List UInt8 → ByteOrder × Nat
  | 0xFE :: 0xFF :: _ => (.bigEndian, 2)
  | 0xFF :: 0xFE :: _ => (.littleEndian, 2)
  | _ => (.littleEndian, 0)

end Utf16

end Tapeline
