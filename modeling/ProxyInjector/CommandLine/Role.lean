import ProxyInjector.CommandLine.Parser
import ProxyInjector.Text.Digit
import ProxyInjector.Text.Segments

/-!
# Which arguments are options

`Parser.recognize` says whether an argument is an option, and of which flag.  An option may be
shortened as long as only one flag's name starts that way, its value may follow an equals sign, and
options of one letter may be written together.  What starts with a dash and is no flag's name is an
option that nobody knows, unless it is a negative number or holds a space.  Behind a double dash
nothing is an option (`Parser.recognizeAll`).
-/

namespace ProxyInjector.CommandLine

/-- a flag and its place among the flags of the parser -/
abbrev Known := Flag × Nat

structure Occurrence where
  /-- none if no flag has such a name -/
  flag : Option Known
  name : String
  /-- the value that came with the name -/
  value : Option (List Char) := none

inductive Role where
  | plain
  | option (o : Occurrence)
  | bar

def Role.mark : Role → Mark
  | .plain => .plain
  | .option _ => .option
  | .bar => .bar

/-- an argument with its role -/
abbrev Argument := Value × Role

def isNumeral (cs : List Char) : Bool :=
  cs != [] && cs.all Text.isDigit

/-- a dash and a number, perhaps with a point in it; a line break may end it -/
def looksNegative (s : String) : Bool :=
  match s.toList with
  | '-' :: cs =>
    let cs := if cs.getLast? = some '\n' then cs.dropLast else cs
    isNumeral cs ||
      match Text.cut? '.' cs with
      | some (whole, fraction) => whole.all Text.isDigit && isNumeral fraction
      | none => false
  | _ => false

namespace Parser

def hasNegativeNames (p : Parser) : Bool := p.options.any fun o => looksNegative o.1

/-- the options that an argument may be short for -/
def candidates (p : Parser) (arg : List Char) : List Occurrence :=
  match arg with
  | '-' :: '-' :: _ =>
    let name := Text.beforeFirst '=' arg
    let value := (Text.cut? '=' arg).map (·.2)
    (p.options.filter fun o => name.isPrefixOf o.1.toList).map fun o => ⟨some o.2, o.1, value⟩
  | '-' :: letter :: tail =>
    p.options.filterMap fun o =>
      if o.1.toList = ['-', letter] then some ⟨some o.2, o.1, some tail⟩
      else if arg.isPrefixOf o.1.toList then some ⟨some o.2, o.1, none⟩
      else none
  | _ => []

/-- the option whose name stands in front of an equals sign -/
def assigned? (p : Parser) (arg : List Char) : Option Occurrence :=
  (Text.cut? '=' arg).bind fun (name, value) =>
    (p.option? (String.ofList name)).map fun f => ⟨some f, String.ofList name, some value⟩

/-- an option that no flag has a name for, unless the argument is more likely plain text -/
def unknownRole (p : Parser) (arg : String) : Role :=
  if looksNegative arg && !p.hasNegativeNames then .plain
  else if arg.toList.contains ' ' then .plain
  else .option ⟨none, arg, none⟩

def recognizeText (p : Parser) (arg : String) : Except Halt Role :=
  if !startsWithDash arg then .ok .plain
  else match p.option? arg with
  | some f => .ok (.option ⟨some f, arg, none⟩)
  | none =>
    if arg = "-" then .ok .plain
    else match p.assigned? arg.toList with
    | some o => .ok (.option o)
    | none =>
      match p.candidates arg.toList with
      | [] => .ok (p.unknownRole arg)
      | [o] => .ok (.option o)
      | os => .error (.refused (.ambiguous arg (os.map (·.name))))

/-- the role of an argument; one that is no text is looked at as far as a text would be -/
def recognize (p : Parser) (arg : Value) : Except Halt Role :=
  if !arg.truthy then .ok .plain
  else match arg with
  | .text s => p.recognizeText s
  | .list (.text s :: _) =>
    if s = "-" ∨ s = "" then .error (.unsuited (.misuse (.notKey arg.kind))) else .ok .plain
  | .list (v :: _) => .error (.unsuited (.notWithinText v.kind))
  | .object _ => .error (.unsuited .noFirstItem)
  | v => .error (.unsuited (.notSubscriptable v.kind))

def isDoubleDash : Value → Bool
  | .text s => s == "--"
  | _ => false

def recognizeAll (p : Parser) : List Value → Except Halt (List Argument)
  | [] => .ok []
  | arg :: args =>
    if isDoubleDash arg then .ok ((arg, .bar) :: args.map (·, .plain))
    else do
      let role ← p.recognize arg
      .ok ((arg, role) :: (← p.recognizeAll args))

end Parser

end ProxyInjector.CommandLine
