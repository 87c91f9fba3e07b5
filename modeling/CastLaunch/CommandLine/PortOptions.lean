import CastLaunch.PortGroup

/-!
Occurrences of the port option, applied in command-line order.  A bare occurrence
selects the legacy ports, a port list sets both transports, and `tcp` or `udp`
before the list sets only that one.
-/

namespace CastLaunch.CommandLine

structure PortPair where
  tcp : PortTriple
  udp : PortTriple
  deriving DecidableEq, Repr

def PortPair.occurrence (p : PortPair) : List String → Except ConfigError PortPair
  | [] => .ok ⟨.legacyTcp, .legacyUdp⟩
  | "tcp" :: r =>
    match r with
    | [ports] => do return { p with tcp := ← PortGroup.parseTriple "-p tcp" ports }
    | _ => .error ⟨"-p tcp", String.intercalate " " r, .onePortList⟩
  | "udp" :: r =>
    match r with
    | [ports] => do return { p with udp := ← PortGroup.parseTriple "-p udp" ports }
    | _ => .error ⟨"-p udp", String.intercalate " " r, .onePortList⟩
  | [ports] => do
    let group ← PortGroup.parseTriple "-p" ports
    return ⟨group, group⟩
  | values => .error ⟨"-p", String.intercalate " " values, .onePortList⟩

def PortPair.apply (p : PortPair) (occurrences : List (List String)) : Except ConfigError PortPair :=
  occurrences.foldlM PortPair.occurrence p

end CastLaunch.CommandLine
