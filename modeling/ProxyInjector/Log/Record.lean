import ProxyInjector.Log.Level
import ProxyInjector.Template.Rendering

/-!
# Log records

A record says what happened, where, and how pressing it is; it may carry the trouble that caused
it.  When a record is made, by which process and on which line is no part of it but on its stamp.

* `Site`              where a record is made that does not say so itself;
* `Record.fields`     what templates can ask a stamped record for, by name;
* `Record.render?`    a record written by a template; trouble takes a line of its own behind it.
-/

namespace ProxyInjector.Log

open Template (Filling View)

/-- the kind and the message of what went wrong -/
structure Trouble where
  label : String
  message : String
  /-- the kind, and where it is defined if it is one of this program's own -/
  origin : String := label
deriving DecidableEq, Repr

/-- The record of a write is made in two places, one for properties and one for other stores.  All
other records tell by their unit, function and pattern where they are made. -/
inductive Site where
  | told
  | properties
  | variables
deriving DecidableEq, Repr

/-- what is noted on a record besides what it says -/
structure Stamp where
  line : Int := 0
  process : Int := 1
  thread : Int := 1
  time : String := "1970-01-01 00:00:00,000"
  /-- the time once more, in seconds -/
  created : Double := Double.zero false
  /-- the part of a second in it, in thousandths -/
  fraction : Double := Double.zero false
  /-- how long logging has been in use, in thousandths of a second -/
  age : Double := Double.zero false
deriving DecidableEq, Repr

structure Record where
  level : Level
  logger : String
  message : String
  /-- the message before values were filled in -/
  pattern : Value := .text message
  /-- the values that were filled in, quoted -/
  arguments : List String := []
  unit : String
  function : String
  trouble : Option Trouble := none

namespace Record

/-- values in parentheses; a single one keeps its comma -/
def tuple : List String → String
  | [] => "()"
  | [a] => "(" ++ a ++ ",)"
  | as => "(" ++ ", ".intercalate as ++ ")"

def unitFile (r : Record) : String := r.unit ++ ".py"

def troubleField (r : Record) : Filling :=
  match r.trouble with
  | none => .value .null
  | some t =>
    .shown "tuple" (tuple ["<class '" ++ t.origin ++ "'>",
      t.label ++ "(" ++ Text.quoted t.message ++ ")", "<traceback object>"])

/-- the fields, in order; the time stands behind them where a template asks for it -/
def fields (stamp : Stamp) (r : Record) : List (String × Filling) := [
  ("name", .text r.logger),
  ("msg", .value r.pattern),
  ("args", .shown "tuple" (tuple r.arguments)),
  ("levelname", .text (Level.name r.level)),
  ("levelno", .int r.level),
  ("pathname", .text r.unitFile),
  ("filename", .text r.unitFile),
  ("module", .text r.unit),
  ("exc_info", r.troubleField),
  ("exc_text", .value .null),
  ("stack_info", .value .null),
  ("lineno", .int stamp.line),
  ("funcName", .text r.function),
  ("created", .value (.double stamp.created)),
  ("msecs", .value (.double stamp.fraction)),
  ("relativeCreated", .value (.double stamp.age)),
  ("thread", .int stamp.thread),
  ("threadName", .text "MainThread"),
  ("processName", .text "MainProcess"),
  ("process", .int stamp.process),
  ("message", .text r.message)]

def timeField (stamp : Stamp) : String × Filling := ("asctime", .text stamp.time)

def isTimed (template : List Char) : Bool :=
  match template with
  | [] => false
  | c :: cs => "%(asctime)".toList.isPrefixOf (c :: cs) || isTimed cs

/-- all fields with their names, in braces -/
def whole (fields : List (String × Filling)) : Filling :=
  .shown "dict" ("\x7b" ++ ", ".intercalate (fields.map fun f =>
    Text.quoted f.1 ++ ": " ++ String.ofList f.2.quoted) ++ "\x7d")

/-- the record as a template sees it -/
def view (stamp : Stamp) (r : Record) (template : List Char) : View :=
  let fields := if isTimed template then r.fields stamp ++ [timeField stamp] else r.fields stamp
  { field? := fun name => (fields.find? fun f => f.1.toList == name).map (·.2)
    whole := whole fields }

/-- a line by the template, and the trouble on the next -/
def render? (stamp : Stamp) (template : String) (r : Record) : Option String :=
  (Template.render template.toList (r.view stamp template.toList)).toOption.map fun line =>
    match r.trouble with
    | none => String.ofList line
    | some t =>
      String.ofList (if line.getLast? = some '\n' then line else line ++ ['\n'])
        ++ t.label ++ ": " ++ t.message

end Record

end ProxyInjector.Log
