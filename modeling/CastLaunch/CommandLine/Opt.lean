import CastLaunch.Text.Quoted

/-!
The options of the command line: their names in the order of definition, how many
values each takes, and the errors of a malformed command line.  The conventions are
those of version 3.11.2 of the `argparse` library; later versions treat a separator
that is attached to an option, and unknown letters in a cluster of flags, in another
way.
-/

namespace CastLaunch.CommandLine
open CastLaunch.Text

inductive Opt where
  | help
  | display
  | overscan
  | fps
  | flip
  | turn
  | videoSink
  | audioSink
  | audioOff
  | ports
  | name
  | randomIdentifier
  | idleTimeout
  | debug
  deriving DecidableEq, Repr

inductive Arity where
  | flag
  | one
  | many
  deriving DecidableEq, Repr

def Opt.arity : Opt → Arity
  | .help | .overscan | .audioOff | .randomIdentifier | .debug => .flag
  | .ports => .many
  | _ => .one

/-- Every option name with its option; ambiguities are listed in this order. -/
def names : List (String × Opt) :=
  [("-h", .help), ("-v", .help), ("-s", .display), ("-o", .overscan), ("-fps", .fps),
   ("-f", .flip), ("-r", .turn), ("-vs", .videoSink), ("-as", .audioSink), ("-a", .audioOff),
   ("-p", .ports), ("-n", .name), ("-m", .randomIdentifier), ("-t", .idleTimeout), ("-d", .debug)]

def Opt.ofName? (s : String) : Option Opt := names.lookup s

def Opt.label (o : Opt) : String :=
  String.intercalate "/" ((names.filter (·.2 == o)).map (·.1))

inductive UsageError where
  | ambiguous (argument : String) (candidates : List String)
  | missingValue (o : Opt)
  | ignoredValue (o : Opt) (value : String)
  | unrecognized (arguments : List String)
  deriving DecidableEq, Repr

def UsageError.message : UsageError → String
  | .ambiguous argument candidates =>
    "ambiguous option: " ++ argument ++ " could match " ++ String.intercalate ", " candidates
  | .missingValue o => "argument " ++ o.label ++ ": expected one argument"
  | .ignoredValue o value =>
    "argument " ++ o.label ++ ": ignored explicit argument " ++ quoted value
  | .unrecognized arguments => "unrecognized arguments: " ++ String.intercalate " " arguments

end CastLaunch.CommandLine
