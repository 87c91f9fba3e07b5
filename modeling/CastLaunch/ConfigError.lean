import CastLaunch.Limits
import CastLaunch.Text.Numeral

/-!
Why a configuration value is refused.  An error names the option that carried the
value, the value itself and the bound it breaks; the wording is fixed here.
-/

namespace CastLaunch
open CastLaunch.Text

inductive Reason where
  | geometry (flag : String)
  | count (flag : String) (ceiling : Int)
  | portGroup (size : Nat)
  | orientation
  | flip
  | rotation
  | blank
  | range (label : String) (maximum : Int)
  | negative
  | tripleSize
  | tripleRange
  | notBoolean
  | onePortList
  deriving DecidableEq, Repr

structure ConfigError where
  flag : String
  value : String
  reason : Reason
  deriving DecidableEq, Repr

def portInterval : String :=
  "[" ++ natText Limits.lowestPort ++ "," ++ natText Limits.highestPort ++ "]"

def Reason.text : Reason → String
  | .geometry flag =>
    flag ++ " wxh : max w,h=" ++ natText Limits.maxExtent ++ "; " ++ flag ++ " wxh@r : max r=" ++
      natText Limits.maxRefresh
  | .count flag ceiling =>
    flag ++ " n : must be a positive integer" ++
      (if 0 < ceiling then ", max n=" ++ intText ceiling else "")
  | .portGroup size =>
    "all " ++ natText size ++ " ports must be distinct and in range " ++ portInterval
  | .orientation => "choices are H, V, I, L, R"
  | .flip => "unknown flip type, choices are H, V, I"
  | .rotation => "unknown rotation type, choices are R, L"
  | .blank => "a non-empty value is required"
  | .range label maximum => label ++ " must be in range [1," ++ intText maximum ++ "]"
  | .negative => "must not be negative"
  | .tripleSize => "exactly " ++ natText Limits.portGroupSize ++ " ports required"
  | .tripleRange => "ports must be distinct and in range " ++ portInterval
  | .notBoolean => "must be true or false"
  | .onePortList => "expected one port list"

def ConfigError.message (e : ConfigError) : String :=
  "invalid \"" ++ e.flag ++ " " ++ e.value ++ "\"; " ++ e.reason.text

end CastLaunch
