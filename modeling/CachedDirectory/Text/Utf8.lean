/-!
# Bytes of a text

A text is stored as its UTF-8 bytes; bytes that are not UTF-8 are no text, and a
fault tells where they go wrong. A loose reading makes code points of any bytes,
for comparisons that do not ask whether the bytes are a text.
-/

namespace CachedDirectory.Text

/-- The UTF-8 bytes of a text. -/
def encodeUtf8 (text : String) : List UInt8 :=
  text.toUTF8.toList

/-- The text with these UTF-8 bytes, if there is one. -/
def decodeUtf8? (bytes : List UInt8) : Option String :=
  String.fromUTF8? ⟨bytes.toArray⟩

/-- Where bytes stop being UTF-8. -/
structure Utf8Fault where
  /-- How many bytes before are UTF-8. -/
  position : Nat
  /-- How many bytes begin no character; none if the bytes end within a
  character. -/
  length : Option Nat
deriving DecidableEq, Repr

/-- The fault in words. -/
def Utf8Fault.message (fault : Utf8Fault) : String :=
  match fault.length with
  | some length =>
      "invalid utf-8 sequence of " ++ toString length ++ " bytes from index " ++
        toString fault.position
  | none =>
      "incomplete utf-8 byte sequence from index " ++ toString fault.position

/-- The ranges of the bytes that follow the first byte of a character; none if
no character begins so. -/
def followers? (first : Nat) : Option (List (Nat × Nat)) :=
  let any := (0x80, 0xBF)
  if first < 0x80 then some []
  else if 0xC2 ≤ first ∧ first ≤ 0xDF then some [any]
  else if first = 0xE0 then some [(0xA0, 0xBF), any]
  else if first = 0xED then some [(0x80, 0x9F), any]
  else if 0xE1 ≤ first ∧ first ≤ 0xEF then some [any, any]
  else if first = 0xF0 then some [(0x90, 0xBF), any, any]
  else if first = 0xF4 then some [(0x80, 0x8F), any, any]
  else if 0xF1 ≤ first ∧ first ≤ 0xF3 then some [any, any, any]
  else none

/-- The fault of bytes, given where the character began that is being read, how
many of its bytes were read, and the ranges of those that are due. -/
def faultFrom? (position read : Nat) :
    List (Nat × Nat) → List UInt8 → Option Utf8Fault
  | [], [] => none
  | _ :: _, [] => some ⟨position, none⟩
  | [], byte :: rest =>
      match followers? byte.toNat with
      | some due => faultFrom? (position + read) 1 due rest
      | none => some ⟨position + read, some 1⟩
  | (low, high) :: due, byte :: rest =>
      if low ≤ byte.toNat ∧ byte.toNat ≤ high then
        faultFrom? position (read + 1) due rest
      else
        some ⟨position, some read⟩

/-- The first fault of bytes that are not UTF-8. -/
def utf8Fault? (bytes : List UInt8) : Option Utf8Fault :=
  faultFrom? 0 0 [] bytes

/-- Whether a byte continues a character. -/
def isContinuation (byte : UInt8) : Bool :=
  0x80 ≤ byte && byte < 0xC0

/-- What the first byte of several gives to the code point. -/
def leadingBits (first : Nat) : Nat :=
  if first < 0xE0 then first % 32
  else if first < 0xF0 then first % 16
  else if first < 0xF8 then first % 8
  else if first < 0xFC then first % 4
  else if first < 0xFE then first % 2
  else 0

/-- The code point that stands for one that is not read as such. -/
def replacementPoint : Nat :=
  0xFFFD

/-- A code point of several bytes as it is read: one that has a shorter form, a
surrogate and the two that are no characters are replaced. -/
def readPoint (point : Nat) : Nat :=
  if point < 0x80 || point / 0x800 == 0x1B ||
    point / 2 == 0x7FFF then replacementPoint else point

theorem length_dropWhile_lt {byte : UInt8} {rest : List UInt8} :
    (rest.dropWhile isContinuation).length < (byte :: rest).length :=
  Nat.lt_succ_of_le (List.dropWhile_suffix isContinuation).length_le

/-- The code points of any bytes. A first byte takes all continuations after it,
however many, and what exceeds 32 bits is lost. -/
def loosePoints : List UInt8 → List Nat
  | [] => []
  | byte :: rest =>
      if byte < 0xC0 then
        byte.toNat :: loosePoints rest
      else
        let point :=
          (rest.takeWhile isContinuation).foldl
            (fun point next => (64 * point + next.toNat % 64) % Nat.pow 2 32)
            (leadingBits byte.toNat)
        readPoint point :: loosePoints (rest.dropWhile isContinuation)
termination_by bytes => bytes.length
decreasing_by
  · exact Nat.lt_succ_self _
  · exact length_dropWhile_lt

end CachedDirectory.Text
