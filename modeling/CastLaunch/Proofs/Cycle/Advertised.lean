import CastLaunch.Proofs.Cycle.Course
import CastLaunch.Proofs.Discovery.Ledger
import Mathlib.Data.List.Basic

/-!
The ports under which a cycle is found.  A start that gets through has put each service on a port once, the audio
service on the port that the engine listens on and the mirroring service on its companion.  Both are ports, and they
differ: the configured ones because those of a valid configuration do, and the others because they are neighbours.
-/

namespace CastLaunch

namespace Served

/-- The service that a call puts on a port.  A registrar from outside is told which it is, and a record that is
published has its name. -/
def registration? (s : Served) : Call → Option (Service × Int)
  | .registerService k port => some (k, port)
  | .publishRecord name port =>
    (Service.all.find? fun k => k.instanceName s.config.name s.identifier == name).map (·, port)
  | _ => none

/-- The services that have been put on ports, in their order. -/
def registrations (s : Served) (events : List Entry) : List (Service × Int) := (asked events).filterMap s.registration?

/-- Two ports under which a cycle can be found. -/
structure Advertises (s : Served) (w : World) (primary companion : Int) : Prop where
  first : 1 ≤ primary ∧ primary ≤ Limits.highestPort
  second : 1 ≤ companion ∧ companion ≤ Limits.highestPort
  apart : primary ≠ companion
  configured : s.config.tcp ≠ .dynamic → primary = s.config.tcp.first ∧ companion = s.config.tcp.third
  chosen : s.config.tcp = .dynamic → primary = w.dynamicPort ∧ (companion = primary + 1 ∨ companion = primary - 1)

variable {s : Served} {w : World} {t : Session} {h : Handles}

/-! The ports. -/

theorem portOf_of_dynamic (dynamic : s.config.tcp = .dynamic) (k : Service) :
    s.portOf w k = match k with
      | .raop => w.dynamicPort
      | .airplay => companionPort w.dynamicPort 0 := by
  have primary : s.primaryPort w = w.dynamicPort := by
    rw [primaryPort, Step.requestedPort, dynamic]
    rfl
  cases k with
  | raop => exact primary
  | airplay => rw [portOf, primary, dynamic]; rfl

theorem portOf_of_configured (first : s.config.tcp.first ≠ 0) (third : s.config.tcp.third ≠ 0) (k : Service) :
    s.portOf w k = match k with
      | .raop => (s.config.tcp.first : Int)
      | .airplay => (s.config.tcp.third : Int) := by
  cases k with
  | raop => exact if_neg (Int.natCast_ne_zero.mpr first)
  | airplay => exact if_pos (Int.natCast_ne_zero.mpr third)

/-- The engine's own choice has a neighbour at both ends of the range. -/
theorem companionPort_neighbour {port : Int} (bounds : 1 ≤ port ∧ port ≤ Limits.highestPort) :
    (1 ≤ companionPort port 0 ∧ companionPort port 0 ≤ Limits.highestPort) ∧
      (companionPort port 0 = port + 1 ∨ companionPort port 0 = port - 1) := by
  have high : (Limits.highestPort : Int) = 65535 := rfl
  simp only [companionPort, ne_eq, not_true, if_false]
  split <;> omega

theorem advertises_portOf (valid : s.config.Valid)
    (chosen : s.config.tcp = .dynamic → 1 ≤ w.dynamicPort ∧ w.dynamicPort ≤ Limits.highestPort) :
    s.Advertises w (s.portOf w .raop) (s.portOf w .airplay) := by
  rcases valid.tcp with dynamic | ⟨bounds, distinct⟩
  · have port := chosen dynamic
    obtain ⟨inside, beside⟩ := companionPort_neighbour port
    rw [portOf_of_dynamic dynamic, portOf_of_dynamic dynamic]
    exact ⟨port, inside, by dsimp only; omega, fun configured => absurd dynamic configured, fun _ => ⟨rfl, beside⟩⟩
  · have low : Limits.lowestPort = 1024 := rfl
    have first := bounds s.config.tcp.first (by simp [PortTriple.toList])
    have third := bounds s.config.tcp.third (by simp [PortTriple.toList])
    have apart : s.config.tcp.first ≠ s.config.tcp.third := by
      simp only [PortTriple.toList, List.nodup_cons, List.mem_cons] at distinct
      exact fun same => distinct.1 (.inr (.inl same))
    have set : s.config.tcp ≠ .dynamic := by
      intro dynamic
      rw [dynamic] at first
      exact absurd first.1 (by decide)
    rw [portOf_of_configured (by omega) (by omega), portOf_of_configured (by omega) (by omega)]
    exact ⟨by dsimp only; omega, by dsimp only; omega, fun same => apart (Int.ofNat.inj same), fun _ => ⟨rfl, rfl⟩,
      fun dynamic => absurd dynamic set⟩

/-! The registrations. -/

theorem find?_instanceName (k : Service) (name : String) (d : DeviceIdentifier) :
    (Service.all.find? fun j => j.instanceName name d == k.instanceName name d) = some k := by
  have own : (fun j : Service => j.instanceName name d == k.instanceName name d) = fun j => j == k := by
    funext j
    rw [Bool.eq_iff_iff, beq_iff_eq, beq_iff_eq]
    exact ⟨Service.eq_of_instanceName_eq, fun same => by rw [same]⟩
  rw [own]
  cases k <;> rfl

theorem registration?_record {k : Service} {r : ServiceRecord} (made : s.record w k = .ok r) :
    s.registration? (.publishRecord r.name r.port) = some (k, s.portOf w k) := by
  obtain ⟨name, port⟩ : r.name = k.instanceName s.config.name s.identifier ∧ r.port = s.portOf w k := by
    unfold record Advertiser.record at made
    split at made
    · cases made
    · split at made
      · cases made
      · cases made
        exact ⟨rfl, rfl⟩
  rw [registration?, name, find?_instanceName, port]
  rfl

/-- The steps that register a service put it on its port, and no other step does. -/
theorem registration?_call? {step : Step} (passes : step.passes w s = true) :
    (step.call? w s).bind s.registration? = step.service?.map fun k => (k, s.portOf w k) := by
  cases step with
  | register k =>
    cases source : s.factories.registrar with
    | external => simp [Step.call?, source, registration?, Step.service?]
    | builtIn =>
      cases made : s.record w k with
      | ok r => simp [Step.call?, source, made, registration?_record made, Step.service?]
      | error e => simp [Step.passes, Step.failure?, Step.call?, Step.lack?, source, made] at passes
  | createSink | setSinkLevel | createVideo | createAudio | createRegistrar =>
    rw [Step.call?]
    split <;> rfl
  | _ => rfl

/-- A start that gets through has passed its whole plan. -/
theorem passed_of_ok (ok : (s.start w t).outcome = .ok h) :
    (∀ step ∈ s.plan, step.passes w s = true) ∧
      asked (s.start w t).events = s.plan.filterMap (Step.call? w s) ∧ s.Complete w h := by
  obtain ⟨rfl, events⟩ := start_of_ok ok
  obtain ⟨asks, -, ends⟩ := (s.stands_nothing w).courses (List.nil_append s.plan).symm
  cases rest : s.plan.dropWhile (Step.passes w s) with
  | nil =>
    rw [rest] at asks ends
    have all := List.dropWhile_eq_nil_iff.mp rest
    refine ⟨all, ?_, ends.2.complete⟩
    rw [events, asks, List.takeWhile_eq_self_iff.mpr all, List.take_nil, List.append_nil]
  | cons step others =>
    rw [rest] at ends
    -- A step that does not pass would have ended the start.
    obtain ⟨detail, -, fails⟩ := ends
    rw [start_apply] at ok
    simp only [fails] at ok
    cases e : step.error detail <;> rw [e] at ok <;> cases ok

theorem services_plan (s : Served) : s.plan.filterMap Step.service? = [.raop, .airplay] := by
  cases video : s.config.videoEnabled <;> cases audio : s.config.audioEnabled <;>
    simp only [plan, video, audio] <;> rfl

theorem registrations_of_ok (ok : (s.start w t).outcome = .ok h) :
    s.registrations (s.start w t).events = [(.raop, s.portOf w .raop), (.airplay, s.portOf w .airplay)] := by
  obtain ⟨passes, asks, -⟩ := passed_of_ok ok
  calc s.registrations (s.start w t).events
      = s.plan.filterMap fun step => (step.call? w s).bind s.registration? := by
        rw [registrations, asks, List.filterMap_filterMap]
    _ = s.plan.filterMap fun step => step.service?.map fun k => (k, s.portOf w k) :=
        List.filterMap_congr fun step member => registration?_call? (passes step member)
    _ = (s.plan.filterMap Step.service?).map fun k => (k, s.portOf w k) := List.map_filterMap.symm
    _ = [(.raop, s.portOf w .raop), (.airplay, s.portOf w .airplay)] := by rw [services_plan]; rfl

/-- A start of a valid configuration that gets through puts the audio service on the primary port and the mirroring
service on the companion port, each once, and the two can be found under these. -/
theorem start_advertises (valid : s.config.Valid)
    (chosen : s.config.tcp = .dynamic → 1 ≤ w.dynamicPort ∧ w.dynamicPort ≤ Limits.highestPort)
    (ok : (s.start w t).outcome = .ok h) :
    ∃ primary companion, h.primary = some primary ∧ h.companion = some companion ∧
      s.registrations (s.start w t).events = [(.raop, primary), (.airplay, companion)] ∧
      h.registered = [.raop, .airplay] ∧ s.Advertises w primary companion := by
  obtain ⟨-, -, complete⟩ := passed_of_ok ok
  exact ⟨_, _, complete.ports.1, complete.ports.2, registrations_of_ok ok, complete.registered,
    advertises_portOf valid chosen⟩

/-- The defaults with the built-in sink and registrar. -/
def ofDefaults : Served := ⟨{}, ⟨[2, 0, 0, 0, 0, 1], by decide, by decide⟩, {}⟩

/-- A host on which all goes well and the engine takes the highest port. -/
def highHost : World where
  reply _ := .done
  dynamicPort := 65535
  hostname := some "loft"
  localAddress := "192.0.2.10"

theorem start_advertises_highest :
    ofDefaults.config.Valid ∧ (1 ≤ highHost.dynamicPort ∧ highHost.dynamicPort ≤ Limits.highestPort) ∧
      (ofDefaults.start highHost {}).outcome = .ok (ofDefaults.reached highHost) ∧
      ofDefaults.registrations (ofDefaults.start highHost {}).events = [(.raop, 65535), (.airplay, 65534)] := by
  have valid : ofDefaults.config.Valid :=
    ⟨by decide, by decide, by decide, by decide, by decide, by decide, by decide, .inl rfl, .inl rfl⟩
  have bounds : 1 ≤ highHost.dynamicPort ∧ highHost.dynamicPort ≤ Limits.highestPort := by decide
  have ok : (ofDefaults.start highHost {}).outcome = .ok (ofDefaults.reached highHost) := by decide +kernel
  obtain ⟨primary, companion, -, -, registrations, -, ports⟩ := start_advertises valid (fun _ => bounds) ok
  obtain ⟨rfl, beside⟩ := ports.chosen rfl
  have below : companion = 65534 := by
    have most : companion ≤ 65535 := ports.second.2
    have port : highHost.dynamicPort = 65535 := rfl
    omega
  rw [below] at registrations
  exact ⟨valid, bounds, ok, registrations⟩

end Served

end CastLaunch
