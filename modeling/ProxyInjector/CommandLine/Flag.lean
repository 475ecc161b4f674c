import ProxyInjector.CommandLine.Arity
import ProxyInjector.CommandLine.Unsuited
import ProxyInjector.Text.Case

/-!
# Flags

A flag is something that a command line may say: an option, which has names that start with a
dash, or a positional flag, which has none.  It says how many arguments the flag takes, how they
are read and checked, and what they do to the values that the command line sets.
-/

namespace ProxyInjector.CommandLine

/-- what a flag does with its value -/
inductive Action where
  | store
  | append
  | extend
  /-- sets the flag's constant -/
  | setConstant
  | appendConstant
  | count
  | help
  | version
deriving DecidableEq, Repr

inductive Conversion where
  | text
  | integer
deriving DecidableEq, Repr

def Conversion.name : Conversion → String
  | .text => "str"
  | .integer => "int"

/-- the values that a flag may have -/
inductive Choices where
  | among (values : List Value)
  /-- the names of the fields of an object -/
  | fieldsOf (names : List String)
  /-- the pieces of a text -/
  | piecesOf (text : String)
  /-- something that is no collection, of that kind -/
  | closed (kind : String)

def Choices.values : Choices → List Value
  | .among vs => vs
  | .fieldsOf names => names.map .text
  | .piecesOf s => s.toList.map fun c => .text (String.singleton c)
  | .closed _ => []

structure Flag where
  /-- none for a positional flag -/
  names : List String
  /-- the name of the value that the flag sets -/
  target : String
  /-- a target that is no text, in the place of the other; nothing can be read with such a flag -/
  oddTarget : Option Value := none
  arity : Arity := .one
  action : Action := .store
  constant : Value := .null
  /-- the value as long as the flag is not given; some flags have none -/
  default : Option Value := some .null
  conversion : Option Conversion := none
  choices : Option Choices := none
  required : Bool := false
  help : Value := .null
  /-- what stands for an argument in usage and help -/
  standIn : Value := .null
  /-- what a flag that shows the version shows -/
  version : Value := .null

namespace Flag

def isPositional (f : Flag) : Bool := f.names.isEmpty

/-- a text that stands for no name at all -/
def nameless : Value := .text "==SUPPRESS=="

/-- the flag in messages, where it has a name; a flag without one goes by its choices -/
def label? (f : Flag) : Except Unsuited (Option Value) :=
  if !f.isPositional then .ok (some (.text ("/".intercalate f.names)))
  else if !f.standIn.same .null && !f.standIn.same nameless then .ok (some f.standIn)
  else if !(Value.text f.target).same nameless then .ok (some (.text f.target))
  else match (f.choices.map Choices.values).getD [] with
  | [] => .ok none
  | vs => (joinValues "," vs).map fun s => some (.text ("\x7b" ++ s ++ "\x7d"))

/-- the stand-in for one argument in usage and help -/
def placeholder (f : Flag) : String :=
  match f.standIn, f.choices with
  | .null, some c => "\x7b" ++ ",".intercalate (c.values.map Value.shown) ++ "\x7d"
  | .null, none => if f.isPositional then f.target else Text.upper f.target
  | v, _ => v.shown

/-- the stand-ins for all arguments -/
def arguments (f : Flag) : String :=
  let p := f.placeholder
  match f.arity with
  | .one | .affirmed => p
  | .optional => "[" ++ p ++ "]"
  | .any => "[" ++ p ++ " ...]"
  | .some => p ++ " [" ++ p ++ " ...]"
  | .rest => "..."
  | .command => p ++ " ..."
  | .hidden => ""
  | .exactly n => " ".intercalate (List.replicate n.toNat p)

end Flag

end ProxyInjector.CommandLine
