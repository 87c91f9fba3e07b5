import CastLaunch.Text.Digit

/-!
Numerals.  `natText` and `intText` write decimal numerals without leading zeros;
`ofDigits?` reads digits of any base up to 36.  `unsigned?` is the reader of
option values: only ASCII digits, at least one and at most so many.

Where settings come from outside, decimal numerals are limited in length, because
reading and writing them takes time that grows with its square.
-/

namespace CastLaunch.Text

def natText (n : Nat) : String := String.ofList (Nat.toDigits 10 n)

def intText : Int → String
  | .ofNat n => natText n
  | .negSucc n => String.ofList ('-' :: Nat.toDigits 10 (n + 1))

def hexPair (n : Nat) : List Char := [Nat.digitChar (n / 16 % 16), Nat.digitChar (n % 16)]

def hexPadded (width n : Nat) : List Char :=
  let digits := Nat.toDigits 16 n
  List.replicate (width - digits.length) '0' ++ digits

/-- An ASCII letter in upper case; other characters stay. -/
def asciiUpper (s : List Char) : List Char := s.map Char.toUpper

/-- The value of the digits read in the base, most significant first; none when one does not belong. -/
def ofDigits? (base : Nat) (s : List Char) : Option Nat :=
  s.foldlM (fun acc c => (digitValue? c).bind fun v => if v < base then some (acc * base + v) else none) 0

/-- The value of ASCII decimal digits; anything else counts as the digit its code point is away from `0`. -/
def decimalNat (s : List Char) : Nat := s.foldl (fun acc c => acc * 10 + (c.toNat - 48)) 0

def unsigned? (maxDigits : Nat) (s : List Char) : Option Nat :=
  if 0 < s.length ∧ s.length ≤ maxDigits ∧ s.all isAsciiDigit = true then some (decimalNat s) else none

/-- The most digits of a decimal numeral that is read from outside or written for it. -/
def longestNumeral : Nat := 4300

inductive NumeralError where
  | tooLongToRead (digits : Nat)
  | tooLongToWrite
  deriving DecidableEq, Repr

def NumeralError.message (e : NumeralError) : String :=
  let length := match e with
    | .tooLongToRead digits => ": value has " ++ natText digits ++ " digits"
    | .tooLongToWrite => ""
  "Exceeds the limit (" ++ natText longestNumeral ++ " digits) for integer string conversion" ++ length ++
    "; use sys.set_int_max_str_digits() to increase the limit"

def isWritable (n : Int) : Bool := decide (n.natAbs < Nat.pow 10 longestNumeral)

/-- The value of ASCII decimal digits, of which there must not be too many; leading zeros count. -/
def limitedNat (s : List Char) : Except NumeralError Nat :=
  if longestNumeral < s.length then .error (.tooLongToRead s.length) else .ok (decimalNat s)

def limitedUnsigned? (maxDigits : Nat) (s : List Char) : Except NumeralError (Option Nat) :=
  if (unsigned? maxDigits s).isSome then (limitedNat s).map some else .ok none

theorem unsigned?_eq_some_iff {maxDigits : Nat} {s : List Char} {n : Nat} :
    unsigned? maxDigits s = some n ↔
      (0 < s.length ∧ s.length ≤ maxDigits ∧ s.all isAsciiDigit = true) ∧ decimalNat s = n := by
  unfold unsigned?
  split
  · next h => rw [Option.some.injEq]; exact ⟨fun e => ⟨h, e⟩, fun e => e.2⟩
  · next h => exact ⟨fun e => by simp at e, fun e => absurd e.1 h⟩

end CastLaunch.Text
