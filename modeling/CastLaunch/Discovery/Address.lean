import CastLaunch.Text.Numeral

/-!
Addresses of version 4 in the wide sense.  One to four numbers stand between dots,
each decimal, octal behind a zero or hexadecimal behind `0x`; all but the last fill
one byte each, and the last one fills what is left.  Behind the address may stand a
blank and then anything.
-/

namespace CastLaunch.Address
open CastLaunch.Text

/-- One number and what follows it; a `0x` without a digit behind it is the number zero. -/
def number? (s : List Char) : Option (Nat × List Char) :=
  let isDigitOf := fun (base : Nat) (c : Char) => ((digitValue? c).map fun v => decide (v < base)).getD false
  let read := fun (base : Nat) (r : List Char) =>
    some (((ofDigits? base (r.takeWhile (isDigitOf base))).getD 0), r.dropWhile (isDigitOf base))
  match s with
  | '0' :: x :: r =>
    if (x == 'x' || x == 'X') && (r.head?.map (isDigitOf 16)).getD false then read 16 r else read 8 s
  | c :: _ => if isAsciiDigit c then read (if c = '0' then 8 else 10) s else none
  | [] => none

/-- The numbers between the dots, at most `left` of them, and what stands behind. -/
def numbers? : Nat → List Char → Option (List Nat × List Char)
  | 0, _ => none
  | left + 1, s =>
    match number? s with
    | none => none
    | some (n, '.' :: r) => (numbers? left r).map fun (ns, rest) => (n :: ns, rest)
    | some (n, r) => some ([n], r)

def lowBytes : Nat → Nat → List Nat
  | 0, _ => []
  | k + 1, n => lowBytes k (n / 256) ++ [n % 256]

def isSpace (c : Char) : Bool := c == ' ' || (decide (9 ≤ c.toNat) && decide (c.toNat ≤ 13))

def bytes? (address : String) : Option (List Nat) :=
  match numbers? 4 address.toList with
  | none => none
  | some (ns, rest) =>
    let front := ns.dropLast
    let last := ns.getLastD 0
    let size := 4 - front.length
    if ((rest.head?.map isSpace).getD true) && front.all (fun n => decide (n < 256)) &&
        decide (last < Nat.pow 256 size) then
      some (front ++ lowBytes size last)
    else none

end CastLaunch.Address
