import CastLaunch.Text.Numeral

/-!
Media that an engine hands to the renderers.
-/

namespace CastLaunch
open CastLaunch.Text

structure Frame where
  timestamp : Int
  payload : List UInt8
  deriving DecidableEq, Repr

inductive FrameKind where
  /-- A frame that needs earlier ones. -/
  | dependent
  /-- A frame that decoding can start with. -/
  | key
  deriving DecidableEq, Repr

namespace FrameKind

def code : FrameKind → Int
  | .dependent => 0
  | .key => 1

def ofCode? (n : Int) : Option FrameKind :=
  if n = 0 then some .dependent else if n = 1 then some .key else none

def isKey : FrameKind → Bool
  | .dependent => false
  | .key => true

theorem ofCode?_code (k : FrameKind) : ofCode? k.code = some k := by
  cases k <;> rfl

end FrameKind

inductive Volume where
  | whole (n : Int)
  | fraction (x : Float)
  deriving DecidableEq, Repr

namespace AudioFormat

def known : List (Int × String) :=
  [(0x1000000, "AAC_ELD"), (0x40000, "ALAC"), (0x400000, "AAC"), (0x0, "PCM")]

def name (code : Int) : String := (known.lookup code).getD "UNKNOWN"

def codeText (code : Int) : String :=
  "0x" ++ (if code < 0 then "-" else "") ++ String.ofList (asciiUpper (Nat.toDigits 16 code.natAbs))

end AudioFormat

end CastLaunch
