/-!
Texts given by numbers.  Characters beyond the first 65536 may come as two halves,
each with a number that belongs to no character; a half alone is replaced.
-/

namespace CastLaunch.Text

def replacement : Char := '\ufffd'

def isUpperHalf (n : Nat) : Bool := decide (0xD800 ≤ n) && decide (n < 0xDC00)

def isLowerHalf (n : Nat) : Bool := decide (0xDC00 ≤ n) && decide (n < 0xE000)

/-- The character with the number; numbers that belong to none are replaced. -/
def ofCodePoint (n : Nat) : Char := if n.isValidChar then Char.ofNat n else replacement

/-- The characters with the numbers, two halves behind each other making one. -/
def ofCodePoints : List Nat → List Char
  | [] => []
  | [n] => [ofCodePoint n]
  | n :: m :: r =>
    if isUpperHalf n && isLowerHalf m then
      ofCodePoint (0x10000 + (n - 0xD800) * 0x400 + (m - 0xDC00)) :: ofCodePoints r
    else ofCodePoint n :: ofCodePoints (m :: r)

theorem ofCodePoint_toNat (c : Char) : ofCodePoint c.toNat = c := by
  have h : c.toNat.isValidChar := c.valid
  simp [ofCodePoint, h]

theorem ofCodePoints_map_toNat (s : List Char) : ofCodePoints (s.map Char.toNat) = s := by
  induction s with
  | nil => rfl
  | cons c r ih =>
    cases r with
    | nil => simp [ofCodePoints, ofCodePoint_toNat]
    | cons d r =>
      have h : isUpperHalf c.toNat = false := by
        have v : c.toNat.isValidChar := c.valid
        simp only [isUpperHalf, Nat.isValidChar] at *
        grind
      simp only [List.map_cons] at ih
      simp [ofCodePoints, h, ofCodePoint_toNat, ih]

end CastLaunch.Text
