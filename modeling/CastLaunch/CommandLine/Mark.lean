import CastLaunch.CommandLine.Opt

/-!
What each argument of a command line is: a value, the separator `--`, an option
with or without an attached value, or an unknown option.  After the separator
everything is a value.
-/

namespace CastLaunch.CommandLine
open CastLaunch.Text

inductive Mark where
  | value
  | separator
  | unknown
  | option (o : Opt) (attached : Option (List Char))
  deriving DecidableEq, Repr

/-- The readings of an argument as an option: a two-character option with the rest attached, or any
option that the whole argument begins. -/
def readings (argument : List Char) : List (String × Opt × Option (List Char)) :=
  names.filterMap fun (name, o) =>
    if name.toList = argument.take 2 then some (name, o, some (argument.drop 2))
    else if argument.isPrefixOf name.toList then some (name, o, none)
    else none

/-- A minus sign and a decimal number with or without a fraction; a line feed may follow. -/
def isNegativeNumber (argument : List Char) : Bool :=
  match argument with
  | '-' :: r =>
    let body := match r.reverse with
      | '\n' :: t => t.reverse
      | _ => r
    let whole := body.takeWhile isDecimal
    match body.dropWhile isDecimal with
    | [] => !whole.isEmpty
    | '.' :: fraction => !fraction.isEmpty && fraction.all isDecimal
    | _ => false
  | _ => false

def assigned? (argument : List Char) : Option (Opt × List Char) :=
  match argument.dropWhile (· != '=') with
  | [] => none
  | _ :: value =>
    (Opt.ofName? (String.ofList (argument.takeWhile (· != '=')))).map (·, value)

/-- What a single argument is when no separator precedes it. -/
def Mark.of (argument : String) : Except UsageError Mark :=
  match argument.toList with
  | '-' :: c :: r =>
    match Opt.ofName? argument with
    | some o => .ok (.option o none)
    | none =>
      match assigned? ('-' :: c :: r) with
      | some (o, text) => .ok (.option o (some text))
      | none =>
        match if c = '-' then [] else readings ('-' :: c :: r) with
        | [(_, o, attached)] => .ok (.option o attached)
        | [] =>
          if isNegativeNumber ('-' :: c :: r) || r.contains ' ' || c == ' ' then .ok .value
          else .ok .unknown
        | several => .error (.ambiguous argument (several.map (·.1)))
  | _ => .ok .value

def marked : List String → Except UsageError (List (String × Mark))
  | [] => .ok []
  | a :: r =>
    if a = "--" then .ok ((a, .separator) :: r.map (·, .value))
    else do
      let m ← Mark.of a
      return (a, m) :: (← marked r)

end CastLaunch.CommandLine
