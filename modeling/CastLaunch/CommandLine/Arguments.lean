import CastLaunch.CommandLine.Mark

/-!
Parsed arguments.  The marked arguments are read from left to right; an option
that takes values waits for them and is complete when the next argument is not a
value.  Flags may share one argument, as in `-dmo`, and an option that takes a
value may end such a cluster with the value attached.  An attached separator counts as
no value, and an unknown letter ends a cluster with an error, as `argparse` 3.11.2 has
it.
-/

namespace CastLaunch.CommandLine
open CastLaunch.Text

/-- The value of an option.  A lone separator attached to an option leaves it without a text. -/
inductive OptValue where
  | text (s : String)
  | empty
  deriving DecidableEq, Repr

structure Arguments where
  help : Bool := false
  display : Option OptValue := none
  overscan : Bool := false
  fps : Option OptValue := none
  flip : Option OptValue := none
  turn : Option OptValue := none
  videoSink : Option OptValue := none
  audioSink : Option OptValue := none
  audioOff : Bool := false
  ports : Option (List (List String)) := none
  name : Option OptValue := none
  randomIdentifier : Bool := false
  idleTimeout : Option OptValue := none
  debugToggles : Nat := 0
  deriving DecidableEq, Repr

def OptValue.ofList : List String → OptValue
  | [s] => .text s
  | _ => .empty

/-- The arguments after one more occurrence of the option; of several values the last one counts. -/
def Arguments.record (a : Arguments) (o : Opt) (given : List String) : Arguments :=
  let values := given.erase "--"
  let v := some (OptValue.ofList values)
  match o with
  | .help => { a with help := true }
  | .display => { a with display := v }
  | .overscan => { a with overscan := true }
  | .fps => { a with fps := v }
  | .flip => { a with flip := v }
  | .turn => { a with turn := v }
  | .videoSink => { a with videoSink := v }
  | .audioSink => { a with audioSink := v }
  | .audioOff => { a with audioOff := true }
  | .ports => { a with ports := some (a.ports.getD [] ++ [values]) }
  | .name => { a with name := v }
  | .randomIdentifier => { a with randomIdentifier := true }
  | .idleTimeout => { a with idleTimeout := v }
  | .debug => { a with debugToggles := a.debugToggles + 1 }

/-- The option that still takes values from the following arguments. -/
inductive Awaiting where
  | nothing
  | one (o : Opt)
  | many (o : Opt) (values : List String)
  deriving DecidableEq, Repr

def Arguments.begin (a : Arguments) (o : Opt) : Arguments × Awaiting :=
  match o.arity with
  | .flag => (a.record o [], .nothing)
  | .one => (a, .one o)
  | .many => (a, .many o [])

/-- The option with text attached to it.  After a flag the text names further options by one letter each. -/
def Arguments.attach (a : Arguments) (o : Opt) : List Char → Except UsageError (Arguments × Awaiting)
  | [] => if o.arity = .flag then .error (.ignoredValue o "") else .ok (a.record o [""], .nothing)
  | c :: r =>
    if o.arity = .flag then
      match Opt.ofName? (String.ofList ['-', c]) with
      | none => .error (.ignoredValue o (String.ofList (c :: r)))
      | some next => if r = [] then .ok ((a.record o []).begin next) else (a.record o []).attach next r
    else .ok (a.record o [String.ofList (c :: r)], .nothing)

structure Reading where
  arguments : Arguments := {}
  awaiting : Awaiting := .nothing
  extras : List String := []
  deriving DecidableEq, Repr

def Reading.settle (s : Reading) : Except UsageError Reading :=
  match s.awaiting with
  | .nothing => .ok s
  | .one o => .error (.missingValue o)
  | .many o values => .ok { s with arguments := s.arguments.record o values, awaiting := .nothing }

def Reading.step (s : Reading) (item : String × Mark) : Except UsageError Reading :=
  match item.2 with
  | .value =>
    match s.awaiting with
    | .nothing => .ok { s with extras := s.extras ++ [item.1] }
    | .one o => .ok { s with arguments := s.arguments.record o [item.1], awaiting := .nothing }
    | .many o values => .ok { s with awaiting := .many o (values ++ [item.1]) }
  | .separator | .unknown => do
    let s ← s.settle
    return { s with extras := s.extras ++ [item.1] }
  | .option o attached => do
    let s ← s.settle
    match attached with
    | none =>
      let (a, w) := s.arguments.begin o
      return { s with arguments := a, awaiting := w }
    | some text =>
      let (a, w) ← s.arguments.attach o text
      return { s with arguments := a, awaiting := w }

/-- Reads a whole command line.  Ambiguities anywhere before the separator are reported first. -/
def Arguments.parse (argv : List String) : Except UsageError Arguments := do
  let items ← marked argv
  let s ← items.foldlM Reading.step {}
  let s ← s.settle
  if s.extras = [] then return s.arguments
  else throw (.unrecognized s.extras)

end CastLaunch.CommandLine
