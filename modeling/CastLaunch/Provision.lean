import CastLaunch.Identifier
import CastLaunch.Log
import CastLaunch.Text.Lines
import CastLaunch.Text.Utf8

/-!
The identifier of a run.  The first interface file that can be read and is not
blank decides; when there is none, when its text is malformed, or on request, the
identifier is drawn at random, with the bits of a local address for one receiver.
-/

namespace CastLaunch
open CastLaunch.Text

/-- An interface file; no bytes when it is missing or cannot be read.  Its path is one that can be read from:
a path with a null character is refused as a value and not as a file, and is left out here. -/
structure AddressFile where
  path : String
  bytes : Option (List UInt8)
  deriving DecidableEq, Repr

/-- Random numbers: the `k`-th draw below `n` takes the `k`-th number modulo `n`. -/
structure RandomSource where
  number : Nat → Nat

/-- The draws for one identifier: one below 64 and five below 256. -/
structure Draws where
  first : Fin 64
  rest : Vector (Fin 256) 5
  deriving DecidableEq, Repr

def Draws.bounds (d : Draws) : List (Nat × Nat) :=
  (64, d.first.val) :: d.rest.toList.map fun v => (256, v.val)

def RandomSource.draws (r : RandomSource) : Draws where
  first := ⟨r.number 0 % 64, Nat.mod_lt _ (by decide)⟩
  rest := Vector.ofFn fun i => ⟨r.number (i.val + 1) % 256, Nat.mod_lt _ (by decide)⟩

/-- The seed of the random numbers of a process, from the clock in nanoseconds and the process number. -/
def RandomSource.seed (time process : Nat) : Nat := time ^^^ (process <<< 16)

namespace DeviceIdentifier

/-- The identifier of the draws: the first octet ends in the bits one and zero. -/
def ofDraws (d : Draws) : DeviceIdentifier where
  octets := (d.first.val * 4 + 2) :: d.rest.toList.map (·.val)
  size := by simp [Limits.identifierOctets]
  bounded := by
    intro o ho
    rcases List.mem_cons.1 ho with rfl | h
    · have := d.first.isLt
      omega
    · obtain ⟨x, _, rfl⟩ := List.mem_map.1 h
      exact x.isLt

theorem isLocal_ofDraws (d : Draws) : (ofDraws d).isLocal = true := by
  simp [isLocal, firstOctet, ofDraws]
  omega

theorem isMulticast_ofDraws (d : Draws) : (ofDraws d).isMulticast = false := by
  simp [isMulticast, firstOctet, ofDraws]
  omega

/-- What the interface files say: an identifier, or none, with the warnings on the way. -/
def discover : List AddressFile → Except Utf8.Fault (Option DeviceIdentifier × List LogRecord)
  | [] => .ok (none, [])
  | f :: rest =>
    match f.bytes with
    | none => discover rest
    | some bytes =>
      match Utf8.decode bytes with
      | .error fault => .error fault
      | .ok content =>
        let text := String.ofList (trim (unifyBreaks content))
        if text = "" then discover rest
        else
          match parse text with
          | .ok d => .ok (some d, [])
          | .error _ =>
            .ok (none, [⟨.warning, .identifier,
              "Ignoring malformed hardware address in " ++ f.path ++ ": " ++ quoted text⟩])

end DeviceIdentifier

structure Provision where
  identifier : DeviceIdentifier
  draws? : Option Draws
  records : List LogRecord

namespace Provision

def synthesized (p : Provision) : Bool := p.draws?.isSome

def random (r : RandomSource) (before : List LogRecord) : Provision where
  identifier := .ofDraws r.draws
  draws? := some r.draws
  records := before ++ [⟨.info, .identifier,
    "Using randomly-generated device identifier " ++ (DeviceIdentifier.ofDraws r.draws).written⟩]

/-- Chooses the identifier; `randomize` skips the search. -/
def choose (randomize : Bool) (files : List AddressFile) (r : RandomSource) : Except Utf8.Fault Provision :=
  if randomize then .ok (random r [])
  else
    match DeviceIdentifier.discover files with
    | .error fault => .error fault
    | .ok (some d, records) => .ok ⟨d, none, records⟩
    | .ok (none, records) => .ok (random r records)

end Provision

end CastLaunch
