import CastLaunch.Limits
import CastLaunch.Text.Blank
import CastLaunch.Text.Quoted

/-!
Device identifiers: six octets, like a hardware address.  The written form has two
lower-case hexadecimal digits for each octet and colons between them.  Reading is
more generous: any part of two characters that reads as a number in base 16 is
taken, with a sign or blanks beside the digit and digits of any script.
-/

namespace CastLaunch
open CastLaunch.Text

structure DeviceIdentifier where
  octets : List Nat
  size : octets.length = Limits.identifierOctets
  bounded : ∀ o ∈ octets, o < 256
  deriving DecidableEq, Repr

inductive IdentifierError where
  | malformed (text : String)
  | notHexadecimal (part : String)
  | octetRange (value : Int)
  | octetCount (count : Nat)
  deriving DecidableEq, Repr

def IdentifierError.message : IdentifierError → String
  | .malformed text => "malformed device identifier: " ++ quoted text
  | .notHexadecimal part => "invalid literal for int() with base 16: " ++ quoted part
  | .octetRange value => "octet out of range: " ++ intText value
  | .octetCount count =>
    "device identifier needs " ++ natText Limits.identifierOctets ++ " octets, got " ++ natText count

namespace DeviceIdentifier

def octet (value : Int) : Except IdentifierError { n : Nat // n < 256 } :=
  if h : 0 ≤ value ∧ value ≤ 255 then .ok ⟨value.toNat, by omega⟩ else .error (.octetRange value)

def octetList : List Int → Except IdentifierError (List { n : Nat // n < 256 })
  | [] => .ok []
  | v :: r => do return (← octet v) :: (← octetList r)

/-- An identifier of the octets; their number is checked before their values. -/
def ofOctets (values : List Int) : Except IdentifierError DeviceIdentifier :=
  if values.length = Limits.identifierOctets then
    match octetList values with
    | .error e => .error e
    | .ok os =>
      if h : (os.map (·.val)).length = Limits.identifierOctets then
        .ok ⟨os.map (·.val), h, by
          intro o ho
          obtain ⟨x, _, rfl⟩ := List.mem_map.1 ho
          exact x.2⟩
      else .error (.octetCount os.length)
  else .error (.octetCount values.length)

/-- A character of a part as a reader of numbers takes it: blanks outside ASCII as a space, digits of
any script as ASCII digits. -/
def plainChar (c : Char) : Char :=
  if c.toNat < 127 then c
  else if isBlank c then ' '
  else
    match decimalValue? c with
    | some n => Nat.digitChar n
    | none => '?'

def isPadding (c : Char) : Bool := c == ' ' || (decide (9 ≤ c.toNat) && decide (c.toNat ≤ 13))

def partValue? (part : List Char) : Option Int :=
  let s := dropEnd isPadding ((part.map plainChar).dropWhile isPadding)
  let number := fun digits : List Char => if digits = [] then none else ofDigits? 16 digits
  match s with
  | '-' :: digits => (number digits).map fun n => -(n : Int)
  | '+' :: digits => (number digits).map Int.ofNat
  | digits => (number digits).map Int.ofNat

def partValues : List (List Char) → Except IdentifierError (List Int)
  | [] => .ok []
  | p :: r =>
    match partValue? p with
    | none => .error (.notHexadecimal (String.ofList p))
    | some v => do return v :: (← partValues r)

/-- Reads an identifier; blanks around it do not count. -/
def parse (text : String) : Except IdentifierError DeviceIdentifier :=
  let parts := (trim text.toList).splitOn ':'
  if parts.length = Limits.identifierOctets ∧ parts.all (·.length == 2) then
    (partValues parts).bind ofOctets
  else .error (.malformed text)

def written (d : DeviceIdentifier) : String :=
  String.ofList (List.intercalate [':'] (d.octets.map hexPair))

def packed (d : DeviceIdentifier) : String := String.ofList (asciiUpper (d.octets.flatMap hexPair))

def toBytes (d : DeviceIdentifier) : List UInt8 := d.octets.map Nat.toUInt8

def firstOctet (d : DeviceIdentifier) : Nat := d.octets.headD 0

/-- Whether the address was assigned locally and not by a manufacturer. -/
def isLocal (d : DeviceIdentifier) : Bool := d.firstOctet / 2 % 2 == 1

/-- Whether the address names a group of receivers. -/
def isMulticast (d : DeviceIdentifier) : Bool := d.firstOctet % 2 == 1

end DeviceIdentifier

end CastLaunch
