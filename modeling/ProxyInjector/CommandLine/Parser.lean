import ProxyInjector.CommandLine.Settings

/-!
# Parsers

A parser knows flags, in the order in which they were registered.  It starts with the flag for
help alone.  `Parser.register` is the parser that also knows a further flag; no two flags share a
name.  A fault leaves no trace, since the parser is then the one before.
-/

namespace ProxyInjector.CommandLine

open RegistrationError

structure Parser where
  program : String
  description : String
  flags : List Flag

namespace Parser

def helpFlag : Flag where
  names := ["-h", "--help"]
  target := "help"
  arity := .exactly 0
  action := .help
  default := none
  help := .text "show this help message and exit"

def new (program description : String) : Parser := ⟨program, description, [helpFlag]⟩

/-- the names of all options in the order of their registration, each with its flag and the
flag's place -/
def options (p : Parser) : List (String × Flag × Nat) :=
  p.flags.zipIdx.flatMap fun f => f.1.names.eraseDups.map fun n => (n, f)

def option? (p : Parser) (name : String) : Option (Flag × Nat) :=
  (p.options.find? fun o => o.1 == name).map (·.2)

def add (p : Parser) (f : Flag) : Except RegistrationError Parser :=
  match f.names.filter fun n => (p.option? n).isSome with
  | [] => .ok { p with flags := p.flags ++ [f] }
  | taken => .error (.conflict ("/".intercalate f.names) taken)

/-- the parser with the flag, and the name of the value that the flag sets -/
def register (p : Parser) (names : List Value) (settings : Settings) :
    Except RegistrationError (Parser × Value) := do
  let f ← Flag.ofSettings names settings
  .ok (← p.add f, f.oddTarget.getD (.text f.target))

/-- the parser with flags that have been designed together -/
def ofFlags (program description : String) (flags : List Flag) : Parser :=
  ⟨program, description, helpFlag :: flags⟩

end Parser

end ProxyInjector.CommandLine
