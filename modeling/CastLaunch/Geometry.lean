import CastLaunch.ConfigError

/-!
Display geometry, written `WxH` or `WxH@R`.  Width and height have one to four
digits and are not zero; the refresh rate has one to three digits and lies
between 1 and 255.  Leading zeros are allowed.
-/

namespace CastLaunch
open CastLaunch.Text

structure Geometry where
  width : Nat
  height : Nat
  refresh : Option Nat
  deriving DecidableEq, Repr

def splitAtFirst (c : Char) (s : List Char) : List Char × Option (List Char) :=
  match s.dropWhile (· != c) with
  | [] => (s, none)
  | _ :: r => (s.takeWhile (· != c), some r)

namespace Geometry

def extent? (s : List Char) : Option Nat :=
  (unsigned? Limits.geometryDigits s).filter (· != 0)

def refresh? (s : List Char) : Option Nat :=
  (unsigned? Limits.refreshDigits s).filter fun r => r != 0 && decide (r ≤ Limits.maxRefresh)

def read? (s : List Char) : Option Geometry := do
  let (w, rest) := splitAtFirst 'x' s
  let (h, r) := splitAtFirst '@' (← rest)
  let width ← extent? w
  let height ← extent? h
  match r with
  | none => some ⟨width, height, none⟩
  | some r => some ⟨width, height, some (← refresh? r)⟩

def parse (flag value : String) : Except ConfigError Geometry :=
  match read? value.toList with
  | some g => .ok g
  | none => .error ⟨flag, value, .geometry flag⟩

/-- The refresh rate, or `given` when the geometry names none. -/
def refreshOr (g : Geometry) (given : Int) : Int := (g.refresh.map Int.ofNat).getD given

def written (g : Geometry) : String :=
  natText g.width ++ "x" ++ natText g.height ++
    match g.refresh with
    | none => ""
    | some r => "@" ++ natText r

end Geometry

end CastLaunch
