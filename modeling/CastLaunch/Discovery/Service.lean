import CastLaunch.Identifier
import CastLaunch.Value

/-!
The two services that one instance advertises, and what their records say: type,
instance name and properties.  The name of the primary service begins with the
identifier, so that instances of one name differ.
-/

namespace CastLaunch

inductive Service where
  /-- The audio service on the primary port. -/
  | raop
  /-- Its companion, the mirroring service. -/
  | airplay
  deriving DecidableEq, Repr

namespace Service

def label : Service → String
  | .raop => "raop"
  | .airplay => "airplay"

def all : List Service := [.raop, .airplay]

def ofLabel? (s : String) : Option Service := all.find? fun k => k.label == s

theorem ofLabel?_label (k : Service) : ofLabel? k.label = some k := by
  cases k <;> decide

def recordType : Service → String
  | .raop => "_raop._tcp.local."
  | .airplay => "_airplay._tcp.local."

def instanceName (k : Service) (name : String) (d : DeviceIdentifier) : String :=
  match k with
  | .raop => d.packed ++ "@" ++ name ++ "." ++ k.recordType
  | .airplay => name ++ "." ++ k.recordType

def features : String := "0x5A7FFFF7,0x1E"
def model : String := "AppleTV3,2"
def sourceVersion : String := "220.68"

def upperIdentifier (d : DeviceIdentifier) : String :=
  String.ofList (Text.asciiUpper d.written.toList)

/-- What a record says besides its address, in the order in which it is published. -/
def properties (k : Service) (d : DeviceIdentifier) : List (String × String) :=
  match k with
  | .raop =>
    [("ch", "2"), ("cn", "0,1,2,3"), ("da", "true"), ("et", "0,3,5"), ("vv", "2"), ("ft", features),
     ("am", model), ("md", "0,1,2"), ("rhd", "5.6.0.0"), ("pw", "false"), ("sr", "44100"), ("ss", "16"),
     ("sv", "false"), ("tp", "UDP"), ("txtvers", "1"), ("sf", "0x4"), ("vs", sourceVersion), ("vn", "65537")]
  | .airplay =>
    [("features", features), ("flags", "0x4"), ("model", model), ("srcvers", sourceVersion), ("vv", "2"),
     ("deviceid", upperIdentifier d)]

end Service

/-- Properties as bytes; values that are no texts are written out. -/
def encodeProperties (properties : List (String × Value)) : List (List UInt8 × List UInt8) :=
  properties.map fun p => (p.1.toUTF8.toList, p.2.plain.toUTF8.toList)

end CastLaunch
