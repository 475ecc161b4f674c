import ProxyInjector.Text.Case
import ProxyInjector.Value

/-!
# Levels of log records

A level is a number, the more pressing the larger.  Five numbers have names, and the first letter
of a name, in either case, is enough to choose its level (`Level.ofValue`).
-/

namespace ProxyInjector.Log

abbrev Level := Int

inductive LevelError where
  /-- no level starts with that letter -/
  | unknown (letter : Char)
  | empty
  | misuse (m : Misuse)
deriving DecidableEq, Repr

namespace LevelError

def label : LevelError → String
  | .unknown _ => "KeyError"
  | .empty => "IndexError"
  | .misuse m => m.label

def message : LevelError → String
  | .unknown c => Text.quoted (String.singleton c)
  | .empty => "string index out of range"
  | .misuse m => m.message

end LevelError

namespace Level

def unset : Level := 0
def debug : Level := 10
def info : Level := 20
def warning : Level := 30
def error : Level := 40
def critical : Level := 50

def name (l : Level) : String :=
  if l = unset then "NOTSET"
  else if l = debug then "DEBUG"
  else if l = info then "INFO"
  else if l = warning then "WARNING"
  else if l = error then "ERROR"
  else if l = critical then "CRITICAL"
  else "Level " ++ toString l

def ofLetter? : Char → Option Level
  | 'D' => some debug
  | 'I' => some info
  | 'W' => some warning
  | 'E' => some error
  | 'C' => some critical
  | _ => none

def ofText (s : String) : Except LevelError Level :=
  match s.toList with
  | [] => .error .empty
  | c :: _ =>
    match ofLetter? (Text.capital c) with
    | some l => .ok l
    | none => .error (.unknown (Text.capital c))

def ofValue (v : Value) : Except LevelError Level :=
  match v.asText "upper" with
  | .ok s => ofText s
  | .error m => .error (.misuse m)

end Level

end ProxyInjector.Log
