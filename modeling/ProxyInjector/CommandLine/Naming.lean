import ProxyInjector.CommandLine.RegistrationError

/-!
# Names and targets of flags

A flag is an option if its names start with a dash; a single name that does not makes it
positional, and its target.  An option's target is that of its first long name, unless the settings
say another.  A host program may give anything in the place of a name: what matters is its first
item, and the first two of it for a long name.

* `identify`    the names and the target of a flag, or the first fault.
-/

namespace ProxyInjector.CommandLine

abbrev Settings := List (String × Value)

namespace Settings

def get? (s : Settings) (name : String) : Option Value :=
  (s.find? fun e => e.1 == name).map (·.2)

/-- a setting that counts as absent if it is null -/
def given? (s : Settings) (name : String) : Option Value :=
  match s.get? name with
  | some .null => none
  | v => v

end Settings

open RegistrationError

/-! ## names -/

def dash : Value := .text "-"

def firstItem : Value → Except RegistrationError Value
  | .text s =>
    match s.toList with
    | [] => .error .emptyName
    | c :: _ => .ok (.text (String.singleton c))
  | .list [] => .error .emptyList
  | .list (v :: _) => .ok v
  | .object _ => .error .noFirstItem
  | v => .error (.notName v.kind)

/-- the item of a name is a dash, or a text without characters -/
def isDash : Value → Except RegistrationError Bool
  | .text s => .ok (s == "-" || s == "")
  | v => .error (.notWithinText v.kind)

def startsWithDash (name : String) : Bool := name.toList.head? == some '-'

def opensOption (name : Value) : Except RegistrationError Bool := (firstItem name).bind isDash

/-- a name of more than one item, whose second one is a dash as well -/
def isLong : Value → Except RegistrationError Bool
  | .text s => .ok ((s.toList.drop 1).head? == some '-')
  | .list (_ :: v :: _) => isDash v
  | _ => .ok false

/-- the first long name, or else the first one; all have to be options -/
def mainName : List Value → Except RegistrationError (Option Value × Bool)
  | [] => .ok (none, false)
  | name :: names => do
    if !(← opensOption name) then .error (.notOption name)
    else if ← isLong name then (mainName names).map fun _ => (some name, true)
    else
      let (other, long) ← mainName names
      .ok (if long then (other, true) else (some name, false))

/-! ## targets -/

/-- the target of an option with that main name: the name without the dashes in front and with
underscores for the others -/
def targetOf (main last : Value) : Except RegistrationError Value :=
  match main with
  | .text name =>
    match name.toList.dropWhile (· == '-') with
    | [] => .error (.noTarget last)
    | cs => .ok (.text (String.ofList (cs.map fun c => if c = '-' then '_' else c)))
  | v => .error (.misuse (.noMember v.kind "lstrip"))

/-- the names of a flag, none for a positional one, and its target -/
structure Identity where
  names : List Value
  target : Value

def identifyOption (names : List Value) (settings : Settings) :
    Except RegistrationError Identity := do
  let (main, _) ← mainName names
  match settings.given? "dest" with
  | some target => .ok ⟨names, target⟩
  | none => (targetOf (main.getD .null) (names.getLast?.getD .null)).map (⟨names, ·⟩)

def identifyPositional (target : Value) (settings : Settings) :
    Except RegistrationError Identity :=
  if (settings.get? "required").isSome then .error .requiredPositional else .ok ⟨[], target⟩

/-- a target is looked up among the defaults, unless the settings bring one -/
def checkIdentity (i : Identity) (settings : Settings) : Except RegistrationError Unit :=
  if (settings.get? "default").isNone && !i.target.isKey then
    .error (.misuse (.notKey i.target.kind))
  else .ok ()

def identify (names : List Value) (settings : Settings) : Except RegistrationError Identity := do
  let i ←
    match names with
    | [] =>
      match settings.get? "dest" with
      | some target => identifyPositional target settings
      | none => .error .noName
    | [name] => do
      if ← opensOption name then identifyOption names settings
      else if (settings.get? "dest").isSome then .error .targetTwice
      else identifyPositional name settings
    | names => identifyOption names settings
  (checkIdentity i settings).map fun _ => i

end ProxyInjector.CommandLine
