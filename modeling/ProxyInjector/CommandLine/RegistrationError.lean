import ProxyInjector.Value

/-!
# Faults of registrations

Why a flag cannot be registered: its names are none, its settings do not belong to its kind or do
not fit together, or other flags have its names.
-/

namespace ProxyInjector.CommandLine

inductive RegistrationError where
  /-- a setting that flags of that kind do not have -/
  | unexpected (kind setting : String)
  /-- settings that flags of that kind have to have -/
  | incomplete (kind : String) (settings : List String)
  | noName
  | emptyName
  /-- a list of nothing in the place of a name -/
  | emptyList
  /-- an object in the place of a name -/
  | noFirstItem
  | notName (kind : String)
  /-- a list in the place of a name that does not start with a text -/
  | notWithinText (kind : String)
  | notOption (name : Value)
  /-- no name to put the value under -/
  | noTarget (name : Value)
  | targetTwice
  | requiredPositional
  | unknownAction (action : Value)
  /-- a conversion that nobody knows -/
  | unknownConversion (conversion : Value)
  | storeTakesNone
  | appendTakesNone
  | unusedConstant
  | badArity
  | badChoices
  /-- names of a flag that other flags have -/
  | conflict (label : String) (names : List String)
  | misuse (m : Misuse)

namespace RegistrationError

def label : RegistrationError → String
  | .unexpected .. | .incomplete .. | .noName | .notName _ | .notWithinText _
  | .requiredPositional => "TypeError"
  | .emptyName | .emptyList => "IndexError"
  | .noFirstItem => "KeyError"
  | .conflict .. => "ArgumentError"
  | .misuse m => m.label
  | _ => "ValueError"

def message : RegistrationError → String
  | .unexpected kind setting =>
    kind ++ ".__init__() got an unexpected keyword argument '" ++ setting ++ "'"
  | .incomplete kind settings =>
    kind ++ ".__init__() missing " ++ toString settings.length ++ " required positional argument"
      ++ (if settings.length = 1 then ": " else "s: ")
      ++ " and ".intercalate (settings.map fun s => "'" ++ s ++ "'")
  | .noName =>
    "_ActionsContainer._get_positional_kwargs() missing 1 required positional argument: 'dest'"
  | .emptyName => "string index out of range"
  | .emptyList => "list index out of range"
  | .noFirstItem => "0"
  | .notName kind => "'" ++ kind ++ "' object is not subscriptable"
  | .notWithinText kind => "'in <string>' requires string as left operand, not " ++ kind
  | .notOption name =>
    "invalid option string " ++ name.quoted ++ ": must start with a character '-'"
  | .noTarget name => "dest= is required for options like " ++ name.quoted
  | .targetTwice => "dest supplied twice for positional argument"
  | .requiredPositional => "'required' is an invalid argument for positionals"
  | .unknownAction a => "unknown action \"" ++ a.shown ++ "\""
  | .unknownConversion c => c.quoted ++ " is not callable"
  | .storeTakesNone =>
    "nargs for store actions must be != 0; if you have nothing to store, actions such as store "
      ++ "true or store const may be more appropriate"
  | .appendTakesNone =>
    "nargs for append actions must be != 0; if arg strings are not supplying the value to append, "
      ++ "the append const action may be more appropriate"
  | .unusedConstant => "nargs must be '?' to supply const"
  | .badArity => "invalid nargs value"
  | .badChoices => "length of metavar tuple does not match nargs"
  | .conflict label names =>
    "argument " ++ label ++ (if names.length = 1 then ": conflicting option string: "
      else ": conflicting option strings: ") ++ ", ".intercalate names
  | .misuse m => m.message

end RegistrationError

end ProxyInjector.CommandLine
