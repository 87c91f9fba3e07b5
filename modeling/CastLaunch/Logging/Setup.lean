import CastLaunch.Log
import CastLaunch.Logging.Template
import CastLaunch.ShapeError
import CastLaunch.Settings.Sections
import CastLaunch.Text.Uppercase

/-!
Logging as the settings ask for it: the threshold by its name, the template of the
lines with the version behind the time, and a file beside the error output.  What is
said here about the file is only whether it is named; `Logging.File` opens it.
-/

namespace CastLaunch.Logging
open CastLaunch.Text

def versioned (template : String) : String :=
  template.replace "%(asctime)s" ("%(asctime)s [v" ++ Limits.version ++ "]")

/-- The threshold in force: debugging wins over the settings. -/
def effectiveLevel (configured : Value) (debug : Bool) : Value := if debug then .text "DEBUG" else configured

def thresholds : List (String × Nat) :=
  [("NOTSET", 0), ("DEBUG", 10), ("INFO", 20), ("WARN", 30), ("WARNING", 30), ("ERROR", 40), ("FATAL", 50),
   ("CRITICAL", 50)]

/-- A name of the logging system that is not a threshold but a template. -/
def basicName : String := "BASIC_FORMAT"
def basicTemplate : String := "%(levelname)s:%(name)s:%(message)s"

inductive SetupError where
  | shape (e : ShapeError)
  | unknownName (name : String)
  | invalidTemplate (template : String)
  | unknownThreshold (text : String)
  deriving DecidableEq, Repr

def SetupError.message : SetupError → String
  | .shape e => e.message
  | .unknownName name => "module 'logging' has no attribute '" ++ name ++ "'"
  | .invalidTemplate template => "Invalid format '" ++ template ++ "' for '%' style"
  | .unknownThreshold text => "Unknown level: " ++ quoted text

structure Setup where
  threshold : Nat
  template : String
  file : Option String
  deriving DecidableEq, Repr

/-- A text that is asked for `part`; other values do not have it. -/
def textWith (part : String) : Value → Except SetupError String
  | .text s => .ok s
  | v => .error (.shape (.noPart v.typeName part))

def fileOf (v : Value) : Except SetupError (Option String) :=
  if v.given then
    match v with
    | .text s => .ok (some s)
    | v => .error (.shape (.notPath v.typeName))
  else .ok none

def thresholdOf (name : String) : Except SetupError (Option Nat) :=
  match thresholds.lookup name with
  | some n => .ok (some n)
  | none => if name = basicName then .ok none else .error (.unknownName name)

/-- Sets logging up where the file, if one is named, opens; an empty template shows the message alone. -/
def Setup.of (level template file : Value) : Except SetupError Setup := do
  let file ← fileOf file
  let template ← textWith "replace" template
  let level ← textWith "upper" level
  let threshold ← thresholdOf (uppercase level)
  let shown := if template = "" then "%(message)s" else versioned template
  if hasField shown.toList then
    match threshold with
    | some threshold => return { threshold, template := shown, file }
    | none => throw (.unknownThreshold basicTemplate)
  else throw (.invalidTemplate shown)

structure Line where
  level : Int
  channel : String
  message : String
  deriving DecidableEq, Repr

def Setup.isEnabled (s : Setup) (level : Int) : Bool := decide (0 < level) && decide ((s.threshold : Int) ≤ level)

def levelName (level : Int) : String :=
  match [Severity.debug, .info, .warning, .error, .critical].find? fun s => (s.level : Int) == level with
  | some s => s.name
  | none => "Level " ++ intText level

def Line.value? (time : String) (l : Line) (field : String) : Option Value :=
  match field with
  | "asctime" => some (.text time)
  | "levelname" => some (.text (levelName l.level))
  | "levelno" => some (.int l.level)
  | "name" => some (.text (if l.channel = "" then "root" else l.channel))
  | "message" | "msg" => some (.text l.message)
  | "created" | "msecs" => some (.float 0)
  | _ => none

/-- What a line leaves in the output; nothing when it is below the threshold or the template fails. -/
def Setup.render (s : Setup) (time : String) (l : Line) : String :=
  if s.isEnabled l.level then
    match (pieces s.template).bind (fill (l.value? time)) with
    | some text => String.ofList (text ++ ['\n'])
    | none => ""
  else ""

end CastLaunch.Logging
