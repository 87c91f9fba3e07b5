import CastLaunch.Text.CodePoints
import CastLaunch.Value

/-!
Templates of log lines.  A template is text with fields: a percent sign, the name
of a field in parentheses, flags, a width, a precision and a letter that says how
the value is written.  Two percent signs stand for one.
-/

namespace CastLaunch.Logging
open CastLaunch.Text

structure Field where
  name : String
  flags : List Char
  width : Nat
  precision : Option Nat
  conversion : Char
  deriving DecidableEq, Repr

inductive Piece where
  | literal (c : Char)
  | field (f : Field)
  deriving DecidableEq, Repr

def isFlag (c : Char) : Bool := ['#', '0', '-', ' ', '+'].contains c

/-- The characters up to the parenthesis that closes the name, and those behind it. -/
def fieldName : Nat → List Char → Option (List Char × List Char)
  | _, [] => none
  | 0, ')' :: r => some ([], r)
  | depth + 1, ')' :: r => (fieldName depth r).map fun x => (')' :: x.1, x.2)
  | depth, '(' :: r => (fieldName (depth + 1) r).map fun x => ('(' :: x.1, x.2)
  | depth, c :: r => (fieldName depth r).map fun x => (c :: x.1, x.2)

/-- A precision and what follows it; a point without digits means zero. -/
def precision (s : List Char) : Option Nat × List Char :=
  match s with
  | '.' :: r => (some (decimalNat (r.takeWhile isAsciiDigit)), r.dropWhile isAsciiDigit)
  | r => (none, r)

def field? (s : List Char) : Option (Field × List Char) :=
  match s with
  | '(' :: r =>
    match fieldName 0 r with
    | none => none
    | some (name, r) =>
      let flags := r.takeWhile isFlag
      let r := r.dropWhile isFlag
      let width := decimalNat (r.takeWhile isAsciiDigit)
      let (precision, r) := precision (r.dropWhile isAsciiDigit)
      match r.dropWhile fun c => ['h', 'l', 'L'].contains c with
      | [] => none
      | c :: r => some (⟨String.ofList name, flags, width, precision, c⟩, r)
  | _ => none

/-- The pieces of a template of at most `fuel` pieces; none when a percent sign begins no field. -/
def piecesFrom : Nat → List Char → Option (List Piece)
  | 0, _ => some []
  | _ + 1, [] => some []
  | fuel + 1, '%' :: '%' :: r => (piecesFrom fuel r).map (.literal '%' :: ·)
  | fuel + 1, '%' :: r =>
    match field? r with
    | none => none
    | some (f, r) => (piecesFrom fuel r).map (.field f :: ·)
  | fuel + 1, c :: r => (piecesFrom fuel r).map (.literal c :: ·)

def pieces (template : String) : Option (List Piece) :=
  piecesFrom template.toList.length template.toList

/-! Writing -/

def padded (f : Field) (s : List Char) : List Char :=
  let blanks := List.replicate (f.width - s.length) ' '
  if f.flags.contains '-' then s ++ blanks else blanks ++ s

def writeText (f : Field) (s : String) : List Char :=
  padded f (match f.precision with | some k => s.toList.take k | none => s.toList)

def sign (f : Field) (negative : Bool) : List Char :=
  if negative then ['-'] else if f.flags.contains '+' then ['+'] else if f.flags.contains ' ' then [' '] else []

/-- A number with its sign and its base mark in front, filled up with zeros or blanks. -/
def writeNumber (f : Field) (negative : Bool) (mark body : List Char) : List Char :=
  let front := sign f negative ++ mark
  if f.flags.contains '0' && !f.flags.contains '-' then
    front ++ List.replicate (f.width - front.length - body.length) '0' ++ body
  else padded f (front ++ body)

def writeWhole (f : Field) (base : Nat) (mark : List Char) (n : Int) : List Char :=
  let digits := Nat.toDigits base n.natAbs
  let zeros := List.replicate (f.precision.getD 0 - digits.length) '0'
  writeNumber f (decide (n < 0)) (if f.flags.contains '#' then mark else []) (zeros ++ digits)

/-- The digits before and after a point; without any behind it the point stands only when asked for. -/
def joinedAtPoint (f : Field) (whole fraction : List Char) : List Char :=
  whole ++ if fraction = [] then (if f.flags.contains '#' then ['.'] else []) else '.' :: fraction

def trimZeros (s : List Char) : List Char := (s.reverse.dropWhile (· == '0')).reverse

/-- The number rounded to `k + 1` digits, half to even, with the exponent of the first of them. -/
def leadingDigits (k n : Nat) : List Char × Nat :=
  let digits := Nat.toDigits 10 n
  if digits.length ≤ k + 1 then (digits ++ List.replicate (k + 1 - digits.length) '0', digits.length - 1)
  else
    let unit := Nat.pow 10 (digits.length - (k + 1))
    let up := decide (unit < 2 * (n % unit)) || (decide (2 * (n % unit) = unit) && decide (n / unit % 2 = 1))
    let rounded := Nat.toDigits 10 (n / unit + if up then 1 else 0)
    (rounded.take (k + 1), digits.length - 1 + (rounded.length - (k + 1)))

def withExponent (f : Field) (digits : List Char) (exponent : Nat) : List Char :=
  let size := Nat.toDigits 10 exponent
  joinedAtPoint f (digits.take 1) (digits.drop 1) ++ 'e' :: '+' :: (List.replicate (2 - size.length) '0' ++ size)

/-- A whole number with a fraction of zeros, six of them unless the precision says otherwise. -/
def writeFixed (f : Field) (n : Int) : List Char :=
  writeNumber f (decide (n < 0)) []
    (joinedAtPoint f (Nat.toDigits 10 n.natAbs) (List.replicate (f.precision.getD 6) '0'))

def writeScientific (f : Field) (n : Int) : List Char :=
  let (digits, exponent) := leadingDigits (f.precision.getD 6) n.natAbs
  writeNumber f (decide (n < 0)) [] (withExponent f digits exponent)

/-- A whole number with so many digits at most, and with an exponent only when it has more. -/
def writeGeneral (f : Field) (n : Int) : List Char :=
  let k := max (f.precision.getD 6) 1
  let (digits, exponent) := leadingDigits (k - 1) n.natAbs
  let shown := fun s : List Char => if f.flags.contains '#' then s else trimZeros s
  writeNumber f (decide (n < 0)) []
    (if exponent < k then joinedAtPoint f (digits.take (exponent + 1)) (shown (digits.drop (exponent + 1)))
    else withExponent f (digits.take 1 ++ shown (digits.drop 1)) exponent)

def asciiOnly (s : List Char) : List Char :=
  s.flatMap fun c =>
    if c.toNat < 128 then [c]
    else if c.toNat < 256 then '\\' :: 'x' :: hexPadded 2 c.toNat
    else if c.toNat < 65536 then '\\' :: 'u' :: hexPadded 4 c.toNat
    else '\\' :: 'U' :: hexPadded 8 c.toNat

def whole? (v : Value) : Option Int :=
  match v.magnitude? with
  | some (.ratio n d) => if n % d = 0 then some (n / d) else none
  | _ => none

/-- A single character, given by itself or by its number. -/
def character? : Value → Option Char
  | .int n => if 0 ≤ n ∧ n < 0x110000 then some (ofCodePoint n.toNat) else none
  | .text s => match s.toList with | [c] => some c | _ => none
  | _ => none

def integer? : Value → Option Int
  | .int n => some n
  | _ => none

/-- The value as the field writes it; none when the letter does not fit the value. -/
def Field.write (f : Field) (v : Value) : Option (List Char) :=
  match f.conversion with
  | 's' => some (writeText f v.plain)
  | 'r' => some (writeText f v.shown)
  | 'a' => some (writeText f (String.ofList (asciiOnly v.shown.toList)))
  | 'c' => (character? v).map fun c => padded f [c]
  | 'd' | 'i' | 'u' => (whole? v).map (writeWhole f 10 [])
  | 'x' => (integer? v).map (writeWhole f 16 ['0', 'x'])
  | 'X' => (integer? v).map fun n => asciiUpper (writeWhole f 16 ['0', 'x'] n)
  | 'o' => (integer? v).map (writeWhole f 8 ['0', 'o'])
  | 'f' | 'F' => (whole? v).map (writeFixed f)
  | 'e' => (whole? v).map (writeScientific f)
  | 'E' => (whole? v).map fun n => asciiUpper (writeScientific f n)
  | 'g' => (whole? v).map (writeGeneral f)
  | 'G' => (whole? v).map fun n => asciiUpper (writeGeneral f n)
  | _ => none

def fill (value? : String → Option Value) : List Piece → Option (List Char)
  | [] => some []
  | .literal c :: r => (fill value? r).map (c :: ·)
  | .field f :: r => do return (← (value? f.name).bind f.write) ++ (← fill value? r)

/-! Validity -/

/-- The characters of field names: letters, digits and underscores, and what can be printed outside ASCII. -/
def isNameChar (c : Char) : Bool :=
  c == '_' || c.isAlphanum || (decide (128 ≤ c.toNat) && isPrintable c)

def startsField (s : List Char) : Bool :=
  match s with
  | '(' :: r =>
    let name := r.takeWhile isNameChar
    match r.dropWhile isNameChar with
    | ')' :: r =>
      let r := starOrDigits (r.dropWhile isFlag)
      let r := match r with
        | '.' :: t => if (starOrDigits t).length < t.length then starOrDigits t else r
        | _ => r
      let letters := ['d', 'i', 'o', 'u', 'x', 'e', 'f', 'g', 'c', 'r', 's', 'a', '%']
      !name.isEmpty && (r.head?.map fun c => letters.contains c.toLower).getD false
    | _ => false
  | _ => false
where
  starOrDigits : List Char → List Char
    | '*' :: r => r
    | r => r.dropWhile isDecimal

def hasField : List Char → Bool
  | [] => false
  | '%' :: r => startsField r || hasField r
  | _ :: r => hasField r

end CastLaunch.Logging
