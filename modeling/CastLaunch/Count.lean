import CastLaunch.ConfigError
import CastLaunch.Text.Blank

/-!
Counts and free-form names.  A count is a positive decimal of at most ten digits,
optionally with a ceiling; a name is any text that is not blank.
-/

namespace CastLaunch
open CastLaunch.Text

/-- Reads a positive count; a ceiling of zero or below means none. -/
def Count.read? (ceiling : Int) (s : List Char) : Option Nat :=
  (unsigned? Limits.countDigits s).filter fun n => n != 0 && (decide (ceiling ≤ 0) || decide ((n : Int) ≤ ceiling))

def Count.parse (flag : String) (ceiling : Int) (value : String) : Except ConfigError Nat :=
  match Count.read? ceiling value.toList with
  | some n => .ok n
  | none => .error ⟨flag, value, .count flag ceiling⟩

def Selector.parse (flag value : String) : Except ConfigError String :=
  if allBlank value then .error ⟨flag, value, .blank⟩ else .ok value

theorem Selector.parse_ok_iff {flag value s : String} :
    Selector.parse flag value = .ok s ↔ allBlank value = false ∧ value = s := by
  unfold Selector.parse
  split <;> simp_all

end CastLaunch
