import CastLaunch.Value
import CastLaunch.Yaml.LoadError

/-!
What an unquoted scalar of a settings file stands for, by the YAML 1.1 rules: the
null and truth words, whole numbers in base 2, 8, 10, 16 and 60, numbers with a
fraction in base 10 and 60, calendar dates, and text for everything else.
Underscores inside numbers are dropped.  A date with a time of day behind it is also
left as the text that it is, although the rules make a point in time of it.
-/

namespace CastLaunch.Yaml
open CastLaunch.Text

def nullWords : List String := ["", "~", "null", "Null", "NULL"]

def trueWords : List String := ["yes", "Yes", "YES", "true", "True", "TRUE", "on", "On", "ON"]

def falseWords : List String := ["no", "No", "NO", "false", "False", "FALSE", "off", "Off", "OFF"]

/-- The sign of a number, true for a minus, and what follows it. -/
def signed (s : List Char) : Bool × List Char :=
  match s with
  | '-' :: r => (true, r)
  | '+' :: r => (false, r)
  | r => (false, r)

def dropUnderscores (s : List Char) : List Char := s.filter (· != '_')

def isRun (p : Char → Bool) (s : List Char) : Bool := s.all fun c => p c || c == '_'

/-- Digits that begin with one, underscores after it allowed. -/
def isDigitRun (s : List Char) : Bool :=
  match s with
  | c :: r => isAsciiDigit c && isRun isAsciiDigit r
  | [] => false

/-- One or two digits below 60, as after the colons of a base-60 number. -/
def isSixtieth (s : List Char) : Bool :=
  match s with
  | [c] => isAsciiDigit c
  | [t, c] => decide ('0' ≤ t) && decide (t ≤ '5') && isAsciiDigit c
  | _ => false

/-- Digits of the base; none at all is an error. -/
def based (base : Nat) (s : List Char) : Except LoadError Nat :=
  match dropUnderscores s with
  | [] => .error (.noDigits base)
  | digits => .ok ((ofDigits? base digits).getD 0)

/-- The value of base-60 digits, most significant first; a single group is a decimal number.  Only the first
group can be too long. -/
def sexagesimal (groups : List (List Char)) : Except LoadError Nat :=
  groups.foldlM (fun acc g => do return acc * 60 + (← (limitedNat g).mapError .numeral)) 0

def unsignedWhole? (s : List Char) : Option (Except LoadError Nat) :=
  match s with
  | '0' :: 'b' :: c :: digits =>
    if isRun (fun d => d == '0' || d == '1') (c :: digits) then some (based 2 (c :: digits)) else none
  | '0' :: 'x' :: c :: digits =>
    if isRun (fun d => ((digitValue? d).map (decide <| · < 16)).getD false) (c :: digits) then
      some (based 16 (c :: digits))
    else none
  | '0' :: digits =>
    if isRun (fun d => decide ('0' ≤ d) && decide (d ≤ '7')) digits then
      some (.ok ((ofDigits? 8 (dropUnderscores digits)).getD 0))
    else none
  | _ =>
    match s.splitOn ':' with
    | head :: groups =>
      if isDigitRun head && groups.all isSixtieth then some (sexagesimal (dropUnderscores head :: groups)) else none
    | [] => none

def whole? (s : List Char) : Option (Except LoadError Int) :=
  let (negative, r) := signed s
  (unsignedWhole? r).map fun n => n.map fun n => if negative then -(n : Int) else n

/-- An exponent part, which always has a sign, or nothing. -/
def exponent? (s : List Char) : Option Int :=
  match s with
  | [] => some 0
  | e :: sign :: digits =>
    if (e == 'e' || e == 'E') && !digits.isEmpty && digits.all isAsciiDigit then
      if sign = '-' then some (-(decimalNat digits : Int))
      else if sign = '+' then some (decimalNat digits : Int)
      else none
    else none
  | _ => none

def pointNumber (before after : List Char) (exponent : Int) : Float :=
  let before := dropUnderscores before
  let after := dropUnderscores after
  Decimal.ofScientific (decimalNat (before ++ after)) (exponent - after.length)

def atPoint? (s : List Char) : Option (List Char × List Char) :=
  match s.dropWhile (· != '.') with
  | [] => none
  | _ :: r => some (s.takeWhile (· != '.'), r)

/-- The value of base-60 digits, least significant first, of which the first may have a fraction.  Every
place needs a value within the range, even a place with a zero. -/
def sexagesimalNumber (digits : List Float) : Except LoadError Float := do
  let step := fun (acc : Float × Nat) (d : Float) => do
    let place ← ((Decimal.ofNat? acc.2).map .ok).getD (.error LoadError.tooManyPlaces)
    return (acc.1 + d * place, acc.2 * 60)
  return (← digits.foldlM step (0.0, 1)).1

def fractional? (s : List Char) : Option (Except LoadError Float) :=
  let (negative, r) := signed s
  let sign := fun x : Float => if negative then -x else x
  if [".inf", ".Inf", ".INF"].contains (String.ofList r) then some (.ok (sign (1.0 / 0.0)))
  else if [".nan", ".NaN", ".NAN"].contains (String.ofList s) then some (.ok (0.0 / 0.0))
  else do
    let (before, after) ← atPoint? r
    let fraction := after.takeWhile fun c => isAsciiDigit c || c == '_'
    let tail := after.drop fraction.length
    if before = [] then
      if s.head? = some '.' && isDigitRun fraction then
        return .ok (pointNumber [] fraction (← exponent? tail))
      else none
    else
      match before.splitOn ':' with
      | [head] =>
        if isDigitRun head then return .ok (sign (pointNumber head fraction (← exponent? tail))) else none
      | head :: groups =>
        if isDigitRun head && groups.all isSixtieth && tail = [] then
          let digits := (dropUnderscores head :: groups).map fun g => pointNumber g [] 0
          let last := pointNumber (groups.getLastD []) fraction 0
          return (sexagesimalNumber (last :: digits.dropLast.reverse)).map sign
        else none
      | [] => none

def isLeap (year : Nat) : Bool := year % 4 = 0 && (year % 100 != 0 || year % 400 = 0)

def monthLength (year month : Nat) : Nat :=
  if month = 2 then (if isLeap year then 29 else 28)
  else if [4, 6, 9, 11].contains month then 30 else 31

def calendarDay (year month day : Nat) : Except LoadError Value :=
  if year = 0 then .error (.badYear year)
  else if month = 0 ∨ 12 < month then .error .badMonth
  else if day = 0 ∨ monthLength year month < day then .error .badDay
  else .ok (.date ⟨year, month, day⟩)

def date? (s : List Char) : Option (Except LoadError Value) :=
  match s with
  | [a, b, c, d, '-', e, f, '-', g, h] =>
    if [a, b, c, d, e, f, g, h].all isAsciiDigit then
      some (calendarDay (decimalNat [a, b, c, d]) (decimalNat [e, f]) (decimalNat [g, h]))
    else none
  | _ => none

def resolve (text : String) : Except LoadError Value :=
  let s := text.toList
  if nullWords.contains text then .ok .null
  else if trueWords.contains text then .ok (.bool true)
  else if falseWords.contains text then .ok (.bool false)
  else if text = "<<" ∨ text = "=" then .error .malformed
  else
    match fractional? s with
    | some x => x.map .float
    | none =>
      match whole? s with
      | some n => n.map .int
      | none => (date? s).getD (.ok (.text text))

end CastLaunch.Yaml
