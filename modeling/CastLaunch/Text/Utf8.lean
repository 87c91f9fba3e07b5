import CastLaunch.Text.Numeral

/-!
Strict UTF-8.  `decode` reads a byte sequence as characters or names the first
fault: the bytes at fault (first and one past the last) and why.  Over-long forms,
surrogates and code points above U+10FFFF are faults.
-/

namespace CastLaunch.Text.Utf8

inductive Reason where
  | badStart
  | badContinuation
  | truncated
  deriving DecidableEq, Repr

/-- The first bytes that are not UTF-8: `start ≤ i < stop`. -/
structure Fault where
  bytes : List UInt8
  start : Nat
  stop : Nat
  reason : Reason
  deriving DecidableEq, Repr

/-- What the first byte of a character announces: how many bytes follow, the bounds of the
second one, and the bits the first one gives. -/
def lead (b : Nat) : Option (Nat × Nat × Nat × Nat) :=
  if b < 0x80 then some (0, 0, 0, b)
  else if b < 0xC2 then none
  else if b < 0xE0 then some (1, 0x80, 0xBF, b - 0xC0)
  else if b = 0xE0 then some (2, 0xA0, 0xBF, 0)
  else if b = 0xED then some (2, 0x80, 0x9F, 13)
  else if b < 0xF0 then some (2, 0x80, 0xBF, b - 0xE0)
  else if b = 0xF0 then some (3, 0x90, 0xBF, 0)
  else if b < 0xF4 then some (3, 0x80, 0xBF, b - 0xF0)
  else if b = 0xF4 then some (3, 0x80, 0x8F, 4)
  else none

/-- Reads `owed` further bytes of a character whose bits so far are `acc`; the next byte lies between
`low` and `high`.  Gives the bits and the rest, or how many bytes were good and why it ended. -/
def tails : Nat → Nat → Nat → Nat → List UInt8 → Except (Nat × Reason) (Nat × List UInt8)
  | 0, _, _, acc, rest => .ok (acc, rest)
  | _ + 1, _, _, _, [] => .error (0, .truncated)
  | owed + 1, low, high, acc, b :: rest =>
    if low ≤ b.toNat ∧ b.toNat ≤ high then
      match tails owed 0x80 0xBF (acc * 64 + (b.toNat - 0x80)) rest with
      | .ok r => .ok r
      | .error (k, why) => .error (k + 1, why)
    else .error (0, .badContinuation)

def decodeFrom : Nat → Nat → List UInt8 → Except Fault (List Char)
  | 0, _, _ => .ok []
  | _ + 1, _, [] => .ok []
  | fuel + 1, pos, b :: rest =>
    match lead b.toNat with
    | none => .error ⟨[b], pos, pos + 1, .badStart⟩
    | some (owed, low, high, bits) =>
      match tails owed low high bits rest with
      | .ok (n, rest') => (decodeFrom fuel (pos + 1 + owed) rest').map (Char.ofNat n :: ·)
      | .error (k, why) => .error ⟨b :: rest.take k, pos, pos + 1 + k, why⟩

def decode (bytes : List UInt8) : Except Fault (List Char) := decodeFrom bytes.length 0 bytes

def Reason.text : Reason → String
  | .badStart => "invalid start byte"
  | .badContinuation => "invalid continuation byte"
  | .truncated => "unexpected end of data"

def Fault.message (f : Fault) : String :=
  let bytes :=
    match f.bytes with
    | [b] => "byte 0x" ++ String.ofList (hexPair b.toNat) ++ " in position " ++ natText f.start
    | _ => "bytes in position " ++ natText f.start ++ "-" ++ natText (f.stop - 1)
  "'utf-8' codec can't decode " ++ bytes ++ ": " ++ f.reason.text

/-- The fault as a reader sees it that decodes a file piece by piece: the bytes of a character cut
off by the end of the file form a piece of their own. -/
def Fault.ofLastPiece (f : Fault) : Fault :=
  match f.reason with
  | .truncated => { f with start := 0, stop := f.stop - f.start }
  | _ => f

end CastLaunch.Text.Utf8
