import CastLaunch.ConfigError

/-!
Groups of network ports.  A group is written as comma-separated ports; missing
ones at the end follow the last one given.  All ports of a group are distinct and
lie in the allowed range, or the group is `dynamic` and holds zeros only.
-/

namespace CastLaunch
open CastLaunch.Text

structure PortTriple where
  first : Nat
  second : Nat
  third : Nat
  deriving DecidableEq, Repr

namespace PortTriple

/-- Ports left to the engine. -/
def dynamic : PortTriple := ⟨0, 0, 0⟩

def toList (t : PortTriple) : List Nat := [t.first, t.second, t.third]

def ofList? : List Nat → Option PortTriple
  | [a, b, c] => some ⟨a, b, c⟩
  | _ => none

def legacyTcp : PortTriple := ⟨7100, 7000, 7001⟩
def legacyUdp : PortTriple := ⟨7011, 6001, 6000⟩

@[simp] theorem ofList?_toList (t : PortTriple) : ofList? t.toList = some t := rfl

end PortTriple

namespace PortGroup

def inRange (p : Nat) : Bool := decide (Limits.lowestPort ≤ p) && decide (p ≤ Limits.highestPort)

def port? (s : List Char) : Option Nat := (unsigned? Limits.portDigits s).filter inRange

/-- The ports that follow `last`, `missing` of them. -/
def following (last missing : Nat) : List Nat := (List.range missing).map (last + 1 + ·)

/-- The ports with the missing ones filled in, when all stay in range and no two are equal. -/
def complete? (count : Nat) (ports : List Nat) : Option (List Nat) :=
  match ports.getLast? with
  | none => none
  | some last =>
    let missing := count - ports.length
    let all := ports ++ following last missing
    if last + missing ≤ Limits.highestPort ∧ all.Nodup then some all else none

def read? (count : Nat) (s : List Char) : Option (List Nat) :=
  let tokens := s.splitOn ','
  if count < tokens.length then none
  else (tokens.mapM port?).bind (complete? count)

def parse (flag : String) (count : Nat) (value : String) : Except ConfigError (List Nat) :=
  match read? count value.toList with
  | some ports => .ok ports
  | none => .error ⟨flag, value, .portGroup count⟩

def parseTriple (flag value : String) : Except ConfigError PortTriple :=
  match (read? Limits.portGroupSize value.toList).bind PortTriple.ofList? with
  | some t => .ok t
  | none => .error ⟨flag, value, .portGroup Limits.portGroupSize⟩

def written (t : PortTriple) : String := String.intercalate "," (t.toList.map natText)

end PortGroup

end CastLaunch
