import CastLaunch.Text.Numeral

/-!
Decimal text of binary floating-point numbers.  The digits are the fewest that
read back to the same number; of several candidates of that length the nearest
is taken, and of two equally near ones the even one.  All comparisons are made on
whole numbers: a finite number is `m * 2 ^ q`, and the numbers that round to it
form an interval whose ends belong to it when `m` is even.
-/

namespace CastLaunch.Decimal
open CastLaunch.Text

inductive Parts where
  | nan
  | infinite (negative : Bool)
  | finite (negative : Bool) (m : Nat) (q : Int)
  deriving DecidableEq, Repr

def parts (x : Float) : Parts :=
  let bits : Nat := x.toBits.toNat
  let negative := decide (bits / Nat.pow 2 63 = 1)
  let exponent : Nat := bits / Nat.pow 2 52 % Nat.pow 2 11
  let fraction : Nat := bits % Nat.pow 2 52
  if exponent = 2047 then (if fraction = 0 then .infinite negative else .nan)
  else if exponent = 0 then .finite negative fraction (-1074)
  else .finite negative (Nat.pow 2 52 + fraction) ((exponent : Int) - 1075)

/-- A positive fraction `num / den` with the ends `low / den` and `high / den` of the interval around it. -/
structure Spot where
  num : Nat
  den : Nat
  low : Nat
  high : Nat
  closed : Bool

/-- The interval of `m * 2 ^ q`; below a power of two the next smaller number is nearer. -/
def spot (m : Nat) (q : Int) : Spot :=
  let up := Nat.pow 2 (q - 2).toNat
  let narrow := decide (m = Nat.pow 2 52) && decide (-1074 < q)
  { num := 4 * m * up, den := Nat.pow 2 (2 - q).toNat,
    low := (if narrow then 4 * m - 1 else 4 * m - 2) * up, high := (4 * m + 2) * up,
    closed := decide (m % 2 = 0) }

def Spot.order (s : Spot) : Int :=
  if s.den ≤ s.num then ((Nat.toDigits 10 (s.num / s.den)).length : Int) - 1
  else -((Nat.toDigits 10 (s.den / s.num)).length : Int)

def Spot.holds (s : Spot) (p : Int) (d : Nat) : Bool :=
  let x := d * Nat.pow 10 p.toNat * s.den
  let scale := Nat.pow 10 (-p).toNat
  if s.closed then decide (s.low * scale ≤ x) && decide (x ≤ s.high * scale)
  else decide (s.low * scale < x) && decide (x < s.high * scale)

/-- The number with grid `10 ^ p` that stands for the interval, if one does. -/
def Spot.onGrid (s : Spot) (p : Int) : Option Nat :=
  let unit := Nat.pow 10 p.toNat * s.den
  let value := s.num * Nat.pow 10 (-p).toNat
  let d := value / unit
  let below := value - d * unit
  let above := unit - below
  match s.holds p d, s.holds p (d + 1) with
  | true, true => some (if below < above ∨ (below = above ∧ d % 2 = 0) then d else d + 1)
  | true, false => some d
  | false, true => some (d + 1)
  | false, false => none

def Spot.search (s : Spot) : Nat → Nat → Nat × Int
  | 0, k => (s.num / s.den, s.order - k)
  | fuel + 1, k =>
    let p := s.order - (k : Int) + 1
    match s.onGrid p with
    | some d => (d, p)
    | none => s.search fuel (k + 1)

/-- The shortest `d` and `p` with `d * 10 ^ p` in the interval; seventeen digits always suffice. -/
def Spot.shortest (s : Spot) : Nat × Int := s.search 17 1

/-- How the digits are laid out: positional between two exponents, else with an exponent of so many
digits at least. -/
structure Style where
  lowest : Int
  highest : Int
  exponentDigits : Nat
  infinity : String
  undefined : String

/-- Positional from `0.0001` up to sixteen digits before the point, always with a fraction. -/
def Style.plain : Style := ⟨-4, 16, 2, "inf", "nan"⟩

def pointed (digits : List Char) (n : Int) : List Char :=
  if n ≤ 0 then '0' :: '.' :: List.replicate (-n).toNat '0' ++ digits
  else
    let k := n.toNat
    if digits.length ≤ k then digits ++ List.replicate (k - digits.length) '0' ++ ['.', '0']
    else digits.take k ++ '.' :: digits.drop k

def Style.layout (style : Style) (d : Nat) (p : Int) : List Char :=
  let digits := dropEnd0 (Nat.toDigits 10 d)
  let exponent := p + ((Nat.toDigits 10 d).length : Int) - 1
  if style.lowest ≤ exponent ∧ exponent < style.highest then pointed digits (exponent + 1)
  else
    let size := Nat.toDigits 10 exponent.natAbs
    let fraction := if digits.length ≤ 1 then [] else '.' :: digits.drop 1
    digits.take 1 ++ fraction ++ 'e' :: (if exponent < 0 then '-' else '+') ::
      (List.replicate (style.exponentDigits - size.length) '0' ++ size)
where
  dropEnd0 (s : List Char) : List Char :=
    match (s.reverse.dropWhile (· == '0')).reverse with
    | [] => ['0']
    | t => t

def Style.text (style : Style) (x : Float) : String :=
  match parts x with
  | .nan => style.undefined
  | .infinite negative => (if negative then "-" else "") ++ style.infinity
  | .finite negative m q =>
    let body := if m = 0 then ['0', '.', '0'] else
      let r := (spot m q).shortest
      style.layout r.1 r.2
    String.ofList (if negative then '-' :: body else body)

/-- The number `m * 10 ^ e`, correctly rounded; magnitudes far outside the range go to zero or infinity at once. -/
def ofScientific (m : Nat) (e : Int) : Float :=
  let order := e + ((Nat.toDigits 10 m).length : Int)
  if m = 0 ∨ order < -400 then 0.0
  else if 400 < order then 1.0 / 0.0
  else if e < 0 then Float.ofScientific m true e.natAbs
  else Float.ofScientific m false e.natAbs

/-- The number nearest to a natural one; none beyond the middle between the largest number and the next power
of two. -/
def ofNat? (n : Nat) : Option Float := if n < Nat.pow 2 1024 - Nat.pow 2 970 then some (ofScientific n 0) else none

end CastLaunch.Decimal
