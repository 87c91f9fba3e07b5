import CastLaunch.Text.Quoted
import CastLaunch.Decimal.Shortest

/-!
Dynamic values, as a settings file holds them.  A value has two texts: `plain`
is what a setting that wants text receives, and `shown` is how the value appears
inside a list, a table or a diagnostic, with texts in quotes.

Settings files can hold more than this: points in time, bytes, sets, and pairs, most of
them behind a tag.  There are no values for these here.
-/

namespace CastLaunch
open CastLaunch.Text

structure Day where
  year : Nat
  month : Nat
  day : Nat
  deriving DecidableEq, Repr

inductive Value where
  | null
  | bool (b : Bool)
  | int (n : Int)
  | float (x : Float)
  | text (s : String)
  | date (d : Day)
  | list (items : List Value)
  | table (entries : List (Value × Value))
  deriving Inhabited

def zeroPadded (width n : Nat) : String :=
  let digits := Nat.toDigits 10 n
  String.ofList (List.replicate (width - digits.length) '0' ++ digits)

def Day.plain (d : Day) : String :=
  zeroPadded 4 d.year ++ "-" ++ zeroPadded 2 d.month ++ "-" ++ zeroPadded 2 d.day

def Day.shown (d : Day) : String :=
  "datetime.date(" ++ natText d.year ++ ", " ++ natText d.month ++ ", " ++ natText d.day ++ ")"

namespace Value

mutual
/-- The text of a value inside another one. -/
def shown : Value → String
  | null => "None"
  | bool true => "True"
  | bool false => "False"
  | int n => intText n
  | float x => Decimal.Style.plain.text x
  | text s => quoted s
  | date d => d.shown
  | list items => "[" ++ String.intercalate ", " (shownItems items) ++ "]"
  | table entries => "\x7b" ++ String.intercalate ", " (shownEntries entries) ++ "\x7d"

def shownItems : List Value → List String
  | [] => []
  | v :: r => shown v :: shownItems r

def shownEntries : List (Value × Value) → List String
  | [] => []
  | (k, v) :: r => (shown k ++ ": " ++ shown v) :: shownEntries r
end

/-- The text of a value that stands alone: texts without quotes, dates in their usual form. -/
def plain : Value → String
  | text s => s
  | date d => d.plain
  | v => v.shown

/-- Whether the value counts as given: not null, false, zero or empty. -/
def given : Value → Bool
  | null => false
  | bool b => b
  | int n => n != 0
  | float x => x != 0
  | text s => s != ""
  | date _ => true
  | list items => !items.isEmpty
  | table entries => !entries.isEmpty

def typeName : Value → String
  | null => "NoneType"
  | bool _ => "bool"
  | int _ => "int"
  | float _ => "float"
  | text _ => "str"
  | date _ => "datetime.date"
  | list _ => "list"
  | table _ => "dict"

mutual
def isWritable : Value → Bool
  | int n => Text.isWritable n
  | list items => areWritable items
  | table entries => areWritableEntries entries
  | _ => true

def areWritable : List Value → Bool
  | [] => true
  | v :: r => isWritable v && areWritable r

def areWritableEntries : List (Value × Value) → Bool
  | [] => true
  | (k, v) :: r => isWritable k && isWritable v && areWritableEntries r
end

def written (v : Value) : Except NumeralError String :=
  if v.isWritable then .ok v.plain else .error .tooLongToWrite

inductive Magnitude where
  | undefined
  | belowAll
  | ratio (n : Int) (d : Nat)
  | aboveAll
  deriving DecidableEq, Repr

/-- Whether two magnitudes are the same; all undefined ones are. -/
def Magnitude.same : Magnitude → Magnitude → Bool
  | .ratio n d, .ratio m e => n * e == m * d
  | x, y => x == y

def Magnitude.below : Magnitude → Magnitude → Bool
  | .undefined, _ | _, .undefined => false
  | .ratio n d, .ratio m e => decide (n * e < m * d)
  | x, y => (x == .belowAll || y == .aboveAll) && x != y

/-- What the value amounts to, if it is a number; truth values are zero and one. -/
def magnitude? : Value → Option Magnitude
  | bool b => some (.ratio (if b then 1 else 0) 1)
  | int n => some (.ratio n 1)
  | float x =>
    match Decimal.parts x with
    | .nan => some .undefined
    | .infinite negative => some (if negative then .belowAll else .aboveAll)
    | .finite negative m q =>
      let n : Int := m * Nat.pow 2 q.toNat
      some (.ratio (if negative then -n else n) (Nat.pow 2 (-q).toNat))
  | _ => none

/-- Whether two keys are the same key: numbers by what they amount to whatever their type, texts and dates by
content. -/
def sameKey (a b : Value) : Bool :=
  match a, b with
  | null, null => true
  | text s, text t => s == t
  | date d, date e => d == e
  | _, _ =>
    match a.magnitude?, b.magnitude? with
    | some x, some y => x.same y
    | _, _ => false

def isKey : Value → Bool
  | list _ | table _ => false
  | _ => true

/-- The order of keys of one family; none when the two cannot be compared. -/
def below? (a b : Value) : Option Bool :=
  match a, b with
  | text s, text t => some (decide (s < t))
  | date d, date e => some (decide (d.plain < e.plain))
  | _, _ =>
    match a.magnitude?, b.magnitude? with
    | some x, some y => some (x.below y)
    | _, _ => none

/-- The entries with `v` under `k`: a key keeps its first place and takes the last value. -/
def put (k v : Value) : List (Value × Value) → List (Value × Value)
  | [] => [(k, v)]
  | (k', v') :: r => if k'.sameKey k then (k', v) :: r else (k', v') :: put k v r

def find? (key : String) : List (Value × Value) → Option Value
  | [] => none
  | (text s, v) :: r => if s = key then some v else find? key r
  | _ :: r => find? key r

end Value

end CastLaunch
