import CastLaunch.Text.Numeral

/-!
Why a settings file has no value.  Most faults are faults of form and have no text of
their own.  The others concern one scalar: a number or a date that does not exist, or
an escape for a character that does not exist.  Other loaders may have other faults,
and a host may keep a file from being read.
-/

namespace CastLaunch.Yaml
open CastLaunch.Text

inductive LoadError where
  | malformed
  | noCharacter (code : Nat)
  | noDigits (base : Nat)
  | numeral (e : NumeralError)
  /-- A base-60 number with a fraction and with more places than such numbers can have. -/
  | tooManyPlaces
  | badYear (year : Nat)
  | badMonth
  | badDay
  /-- A fault that reading has in this library only by what it is given: another loader, or a host that refuses. -/
  | other (text : String)
  deriving DecidableEq, Repr

namespace LoadError

/-- Escapes from here on are told apart from those for smaller numbers. -/
def codeLimit : Nat := Nat.pow 2 31

def message : LoadError → String
  | malformed => "yaml error"
  | noCharacter code =>
    if code < codeLimit then "chr() arg not in range(0x110000)"
    else "Python int too large to convert to C int"
  | noDigits base => "invalid literal for int() with base " ++ natText base ++ ": ''"
  | numeral e => e.message
  | tooManyPlaces => "int too large to convert to float"
  | badYear year => "year " ++ natText year ++ " is out of range"
  | badMonth => "month must be in 1..12"
  | badDay => "day is out of range for month"
  | other text => text

def isOverflow : LoadError → Bool
  | noCharacter code => decide (codeLimit ≤ code)
  | tooManyPlaces => true
  | _ => false

end LoadError

/-- What has to be there; a text without it is malformed. -/
def expected {α : Type} : Option α → Except LoadError α
  | some a => .ok a
  | none => .error .malformed

end CastLaunch.Yaml
