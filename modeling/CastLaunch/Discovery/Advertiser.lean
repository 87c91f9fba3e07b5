import CastLaunch.Discovery.Address
import CastLaunch.Execution

/-!
The built-in registrar.  It needs a responder of its own to come into being.  It
publishes at most one record of each service, keeps them in the order of their
publication, and withdraws a record before it publishes another one of the same
service.
-/

namespace CastLaunch
open CastLaunch.Text

structure ServiceRecord where
  name : String
  port : Int
  addresses : List (List Nat)
  server : String
  properties : List (String × String)
  deriving DecidableEq, Repr

structure Advertiser where
  name : String
  identifier : DeviceIdentifier
  addresses : List String
  /-- The records in force, in the order of their publication. -/
  records : List (Service × ServiceRecord) := []
  deriving DecidableEq, Repr

namespace Advertiser

def routeSteps (w : World) : Run Fault Unit Unit := do
  Run.perform w .openSocket
  let route ← Run.attempt (ε := Fault) do
    Run.perform w .connectSocket
    Run.perform w .askSocketAddress
  Run.perform w .closeSocket
  match route with
  | .ok () => return ()
  | .error e => Run.fail e

/-- The address that the host sends from, or the one that every host has for itself. -/
def localAddress (w : World) : Run Fault Unit String := do
  match ← Run.attempt (ε := Fault) (routeSteps w) with
  | .ok () => return w.localAddress
  | .error e =>
    Run.log .warning .discovery ("Could not determine local IP: " ++ e.message)
    return "127.0.0.1"

/-- Sets the responder up.  This is no call at a collaborator and leaves no event, but it may fail. -/
def openResponder (w : World) : Run Fault Unit Unit :=
  match w.responderFault? with
  | none => pure ()
  | some text => Run.fail (.collaborator text)

/-- The addresses that a registrar publishes: its own, or the one that the host sends from. -/
def ownAddresses (w : World) : Option (List String) → Run Fault Unit (List String)
  | some given => pure given
  | none => do return [← localAddress w]

def create (w : World) (name : String) (identifier : DeviceIdentifier) (addresses : Option (List String)) :
    Run Fault Unit Advertiser := do
  openResponder w
  return { name, identifier, addresses := ← ownAddresses w addresses }

def addressBytes : List String → Option (List (List Nat))
  | [] => some []
  | a :: r =>
    match Address.bytes? a with
    | none => none
    | some bytes => (addressBytes r).map (bytes :: ·)

def record (w : World) (a : Advertiser) (k : Service) (port : Int) : Except Fault ServiceRecord :=
  match addressBytes a.addresses with
  | none => .error .illegalAddress
  | some addresses =>
    match w.hostname with
    | none => .error .noHostname
    | some host => .ok {
        name := k.instanceName a.name a.identifier
        port
        addresses
        server := host ++ ".local."
        properties := k.properties a.identifier }

def dropRecord (k : Service) (a : Advertiser) : Advertiser :=
  { a with records := a.records.filter fun r => r.1 != k }

def publish (w : World) (k : Service) (port : Int) : Run Fault Advertiser Unit := do
  let a ← Run.read
  match record w a k port with
  | .error e => Run.fail e
  | .ok r =>
    Run.perform w (.publishRecord r.name r.port)
    Run.update fun a => { a with records := a.records ++ [(k, r)] }
    Run.log .info .discovery
      ("Registered " ++ k.recordType ++ " service " ++ a.name ++ " on port " ++ intText port)

/-- Publishes the service on the port, in place of an earlier record of it. -/
def register (w : World) (k : Service) (port : Int) : Run Fault Advertiser Unit := do
  let a ← Run.read
  Run.update (dropRecord k)
  match a.records.lookup k with
  | some previous => Run.perform w (.withdrawRecord previous.name previous.port)
  | none => pure ()
  publish w k port

def unregister (w : World) (k : Service) : Run Fault Advertiser Unit := do
  let a ← Run.read
  match a.records.lookup k with
  | none => return ()
  | some r =>
    Run.update (dropRecord k)
    Run.perform w (.withdrawRecord r.name r.port)
    Run.log .info .discovery ("Unregistered " ++ k.recordType ++ " service")

/-- Withdraws the record of the service and only logs a failure. -/
def unregisterQuietly (w : World) (k : Service) : Run Fault Advertiser Unit := do
  match ← Run.attempt (ε := Fault) (unregister w k) with
  | .ok () => return ()
  | .error e => Run.log .error .discovery ("Error unregistering service: " ++ e.message)

def destroy (w : World) : Run Fault Advertiser Unit := do
  let a ← Run.read
  Run.each (unregisterQuietly w) (a.records.map (·.1))
  Run.perform w .closeResponder

end Advertiser

end CastLaunch
