/-!
Bounds and defaults that all parts of the launcher share.
-/

namespace CastLaunch.Limits

def version : String := "1.38.0"

/-! Network -/

def lowestPort : Nat := 1024
def highestPort : Nat := 65535
def portGroupSize : Nat := 3
def legacyTcp : List Nat := [7100, 7000, 7001]
def legacyUdp : List Nat := [7011, 6001, 6000]

/-! Option values -/

def geometryDigits : Nat := 4
def refreshDigits : Nat := 3
def maxRefresh : Nat := 255
def countDigits : Nat := 10
def portDigits : Nat := 5
def maxFps : Nat := 255

def maxExtent : Nat := Nat.pow 10 geometryDigits - 1

/-! Defaults -/

def defaultName : String := "UxPlay"
def defaultVideoSink : String := "autovideosink"
def defaultAudioSink : String := "autoaudiosink"

/-- The sink name that switches a renderer off. -/
def sinkDisabled : String := "0"

/-- The frame rate asked of the engine when nothing is rendered. -/
def disabledVideoFps : Nat := 1

/-! Serve cycles -/

def engineCapacity : Nat := 10

def idleTick : Float := 1.0

def historySize : Nat := 64

def hardwareAddressFiles : List String :=
  ["/sys/class/net/eth0/address", "/sys/class/net/wlan0/address"]

def identifierOctets : Nat := 6

def configVariable : String := "UXLAUNCH_CONFIG"

end CastLaunch.Limits
