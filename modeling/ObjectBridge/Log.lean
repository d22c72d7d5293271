import ObjectBridge.Data.Json
import ObjectBridge.Text.Quoted

/-!
# `ObjectBridge.Log`: what is logged and how

A logger has a lowest level, a name made of component names, and fields
that every entry carries. Entries are written in one of two forms: an
object, or a line of parts for people to read.
-/

set_option autoImplicit false

namespace ObjectBridge

/-- How grave a message is. -/
inductive LogLevel
  | debug | info | warn | error | dpanic | panic | fatal
  deriving DecidableEq, Repr

namespace LogLevel

/-- All levels, the least important first. -/
def all : List LogLevel := [.debug, .info, .warn, .error, .dpanic, .panic, .fatal]

/-- The name of the level. -/
def name : LogLevel → String
  | .debug => "debug"
  | .info => "info"
  | .warn => "warn"
  | .error => "error"
  | .dpanic => "dpanic"
  | .panic => "panic"
  | .fatal => "fatal"

/-- Graver levels rank higher. -/
def rank : LogLevel → Nat
  | .debug => 0
  | .info => 1
  | .warn => 2
  | .error => 3
  | .dpanic => 4
  | .panic => 5
  | .fatal => 6

/-- The terminal colour of a level. -/
def colour : LogLevel → Nat
  | .debug => 35
  | .info => 34
  | .warn => 33
  | _ => 31

/-- Reads the name of a level. Letter case does not matter, and no name
means the usual level. -/
def parse? (s : String) : Option LogLevel :=
  let lowered := Letter.lowerString s
  if lowered = "" then some .info else all.find? fun l => l.name = lowered

/-- What is said about a name that no level has. -/
def unknownMessage (s : String) : String := "unrecognized level: " ++ Quoted.quote s

end LogLevel

/-- Where entries go. -/
structure Logger where
  /-- The lowest level that is written; nothing is without one. -/
  level : Option LogLevel
  /-- Lines for people instead of objects. -/
  forPeople : Bool := false
  name : String := ""
  fields : List (String × String) := []

namespace Logger

/-- A logger that writes nothing. -/
def silent : Logger := { level := none }

/-- The logger when nothing is said. -/
def usual : Logger := { level := some .info }

/-- The logger for development. -/
def development : Logger := { level := some .debug, forPeople := true }

/-- Does the logger note messages of the level? -/
def enabled (l : Logger) (level : LogLevel) : Bool :=
  match l.level with
  | some lowest => decide (lowest.rank ≤ level.rank)
  | none => false

/-- The levels that are written. -/
def enabledLevels (l : Logger) : List LogLevel := LogLevel.all.filter l.enabled

/-- The name of the lowest level that is written. -/
def lowestName (l : Logger) : String := (l.level.map LogLevel.name).getD "none"

/-- The logger of a component. An empty name changes nothing. -/
def component (l : Logger) (name : String) : Logger :=
  if name = "" then l else { l with name := if l.name = "" then name else l.name ++ "." ++ name }

/-- The logger of a plugin instance. -/
def ofInstance (l : Logger) (id : String) : Logger :=
  { l with fields := l.fields ++ [("instance", id)] }

end Logger

/-- A message that was noted. -/
structure LogEntry where
  level : LogLevel
  message : String
  field : Option String := none

namespace LogEntry

/-- One character of a text between quotes. -/
def escapeChar (c : Char) : String :=
  if c = '"' then "\\\""
  else if c = '\\' then "\\\\"
  else if c = '\n' then "\\n"
  else if c = '\r' then "\\r"
  else if c = '\t' then "\\t"
  else if c.toNat < 0x20 then "\\u00" ++ Quoted.hex 2 c.toNat
  else c.toString

/-- The text in quotes. -/
def quote (s : String) : String := "\"" ++ String.join (s.toList.map escapeChar) ++ "\""

/-- The fields of the logger and then that of the message. -/
def allFields (l : Logger) (e : LogEntry) : List (String × String) :=
  l.fields ++ (e.field.map fun f => ("field", f)).toList

/-- The entry as an object. -/
def asObject (l : Logger) (e : LogEntry) : Json :=
  .object ([("level", .string e.level.name)]
    ++ (if l.name = "" then [] else [("logger", .string l.name)])
    ++ [("message", .string e.message)]
    ++ (e.allFields l).map fun f => (f.1, Json.string f.2))

/-- The parts of a line for people. -/
def parts (l : Logger) (e : LogEntry) : List String :=
  let fields := e.allFields l
  let level := "\x1b[" ++ toString e.level.colour ++ "m" ++ e.level.name.toUpper ++ "\x1b[0m"
  [level] ++ (if l.name = "" then [] else [l.name]) ++ [e.message]
    ++ (if fields.isEmpty then []
      else ["\x7b" ++ ", ".intercalate (fields.map fun f => quote f.1 ++ ": " ++ quote f.2) ++
      "\x7d"])

/-- What is written for an entry, if anything is. -/
def written (l : Logger) (e : LogEntry) : Option Json :=
  if !l.enabled e.level then none
  else if l.forPeople then some (.strings ((e.parts l).flatMap fun p => p.splitOn "\t"))
  else some (e.asObject l)

end LogEntry

namespace Logger

/-- Makes a logger from the name of a level. -/
def new? (level : String) (forPeople : Bool) : Option Logger :=
  (LogLevel.parse? level).map fun l => { level := some l, forPeople }

/-- What a logger writes, and which levels it and the loggers made in
other ways write. -/
def report (l : Logger) (components : List String) (inst : Option String)
    (entries : List LogEntry) : Json :=
  let child := components.foldl component l
  let child := match inst with
    | some id => child.ofInstance id
    | none => child
  .object [("enabled", .strings (l.enabledLevels.map LogLevel.name)),
    ("implicit_enabled", .string l.lowestName),
    ("default_enabled", .string usual.lowestName),
    ("development_enabled", .string development.lowestName),
    ("nop_enabled", .string silent.lowestName),
    ("wrap_nil_enabled", .string silent.lowestName),
    ("wrap_enabled", .string l.lowestName),
    ("lines", .array (entries.filterMap (LogEntry.written child)))]

end Logger

end ObjectBridge
