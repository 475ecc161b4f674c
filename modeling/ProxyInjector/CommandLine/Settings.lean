import ProxyInjector.CommandLine.Naming
import ProxyInjector.CommandLine.Refusal

/-!
# Flags from settings

A host program gives a flag by its names and by settings, each a name with a plain value, and
anything may be wrong with them.  `Flag.ofSettings` is the flag that they describe, or the first
fault: names come before the kind of the flag, the kind before its settings, and these before the
conversion, the choices and the number of arguments.
-/

namespace ProxyInjector.CommandLine

open RegistrationError

/-! ## kinds of flags -/

/-- what a kind of flag is called, which settings it has, and what it starts from -/
structure Kind where
  label : String
  settings : List String
  action : Action
  /-- the kind reads arguments; the others take none -/
  reads : Bool := false
  constant : Value := .null
  default : Option Value := some .null
  help : Value := .null
  /-- settings that have to be given -/
  needed : List String := []
  /-- what flags of a kind that does not read arguments by itself take all the same -/
  arity : Arity := .exactly 0
  choices : Option Choices := none

namespace Kind

def readingSettings : List String :=
  ["nargs", "const", "default", "type", "choices", "required", "help", "metavar"]

def store : Kind where
  label := "_StoreAction"
  settings := readingSettings
  action := .store
  reads := true

def append : Kind where
  label := "_AppendAction"
  settings := readingSettings
  action := .append
  reads := true

def table : List (String × Kind) := [
  ("store", store),
  ("append", append),
  ("extend", { append with action := .extend }),
  ("store_const", { label := "_StoreConstAction", action := .setConstant
                    settings := ["const", "default", "required", "help", "metavar"] }),
  ("store_true", { label := "_StoreTrueAction", action := .setConstant
                   settings := ["default", "required", "help"]
                   constant := .bool true, default := some (.bool false) }),
  ("store_false", { label := "_StoreFalseAction", action := .setConstant
                    settings := ["default", "required", "help"]
                    constant := .bool false, default := some (.bool true) }),
  ("append_const", { label := "_AppendConstAction", action := .appendConstant
                     settings := ["const", "default", "required", "help", "metavar"] }),
  ("count", { label := "_CountAction", action := .count
              settings := ["default", "required", "help"] }),
  ("help", { label := "_HelpAction", action := .help
             settings := ["default", "help"], default := none }),
  ("version", { label := "_VersionAction", action := .version
                settings := ["version", "default", "help"], default := none
                help := .text "show program's version number and exit" }),
  ("parsers", { label := "_SubParsersAction", action := .store
                settings := ["prog", "parser_class", "required", "help", "metavar"]
                needed := ["prog", "parser_class"]
                arity := .command, choices := some (.fieldsOf []) })]

def ofValue (action : Value) : Except RegistrationError Kind :=
  if action.isKey then
    match action with
    | .null => .ok store
    | .text name =>
      match table.find? (·.1 == name) with
      | some k => .ok k.2
      | none => .error (.unknownAction action)
    | _ => .error (.unknownAction action)
  else .error (.misuse (.notKey action.kind))

end Kind

/-! ## reading settings -/

def arityOf : Option Value → Except RegistrationError Arity
  | none => .ok .one
  | some (.text "?") => .ok .optional
  | some (.text "*") => .ok .any
  | some (.text "+") => .ok .some
  | some (.text "...") => .ok .rest
  | some (.text "A...") => .ok .command
  | some (.text "==SUPPRESS==") => .ok .hidden
  | some (.int n) => .ok (.exactly n)
  | some (.bool b) => .ok (if b then .affirmed else .exactly 0)
  | some _ => .error .badArity

/-- the choices, which have to be a collection if the flag is `shown` by them -/
def choicesOf (shown : Bool) : Option Value → Except RegistrationError (Option Choices)
  | none => .ok none
  | some (.list vs) => .ok (some (.among vs))
  | some (.object fs) => .ok (some (.fieldsOf (fs.map (·.1))))
  | some (.text s) => .ok (some (.piecesOf s))
  | some v => if shown then .error .badChoices else .ok (some (.closed v.kind))

def conversionOf : Option Value → Except RegistrationError (Option Conversion)
  | none => .ok none
  | some (.text "int") => .ok (some .integer)
  | some (.text "str") => .ok (some .text)
  | some v =>
    .error (if v.isKey then .unknownConversion v else .misuse (.notKey v.kind))

/-- a positional flag has to be given unless it may stay without arguments -/
def isRequired (settings : Settings) : Bool :=
  match settings.get? "nargs" with
  | some (.text "?") => false
  | some (.text "*") => (settings.get? "default").isNone
  | _ => true

/-- the number of arguments is zero, in whatever form -/
def isZeroSetting : Option Value → Bool
  | some v => v.same (.int 0)
  | none => false

/-- the faults of settings that a kind finds by itself -/
def Kind.check (k : Kind) (settings : List String) (arity constant : Option Value) :
    Except RegistrationError Unit :=
  match settings.find? fun s => !k.settings.contains s with
  | some s => .error (.unexpected k.label s)
  | none =>
    match k.needed.filter fun s => !settings.contains s with
    | s :: ss => .error (.incomplete k.label (s :: ss))
    | [] =>
      if k.reads && isZeroSetting arity then
        .error (if k.action = .store then .storeTakesNone else .appendTakesNone)
      else if k.reads && constant.isSome && !(arity.any (·.same (.text "?"))) then
        .error .unusedConstant
      else .ok ()

/-- names of settings that are spoken for -/
def reserved : List String := ["action", "dest", "option_strings"]

/-- the parser itself is no setting -/
def checkReceiver (settings : Settings) : Except RegistrationError Unit :=
  if (settings.get? "self").isSome then
    .error (.misuse (.givenTwice "FlagParser.add_argument" "self"))
  else .ok ()

def Flag.ofSettings (names : List Value) (settings : Settings) :
    Except RegistrationError Flag := do
  checkReceiver settings
  let i ← identify names settings
  let positional := i.names.isEmpty
  let kind ← Kind.ofValue ((settings.get? "action").getD .null)
  let used := (settings.map (·.1)).filter fun s => !reserved.contains s
  let required := if positional then isRequired settings
    else ((settings.get? "required").map Value.truthy).getD false
  let implied := if positional && required then ["required"] else []
  let constant := settings.given? "const"
  kind.check (used ++ implied) (settings.given? "nargs") constant
  let conversion ← conversionOf (settings.given? "type")
  let standIn := (settings.get? "metavar").getD .null
  let choices ← choicesOf (standIn.same .null) (settings.given? "choices")
  let arity ← if kind.reads then arityOf (settings.given? "nargs") else .ok kind.arity
  match i.names.find? fun n => !n.isKey with
  | some name => .error (.misuse (.notKey name.kind))
  | none =>
    .ok { names := i.names.map Value.shown
          target := i.target.shown
          oddTarget := if i.target.isText then none else some i.target
          arity, required, standIn, conversion
          choices := choices <|> kind.choices
          action := kind.action
          constant := constant.getD kind.constant
          default := (settings.get? "default") <|> kind.default
          help := (settings.get? "help").getD kind.help
          version := (settings.get? "version").getD .null }

end ProxyInjector.CommandLine
