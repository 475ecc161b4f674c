import ProxyInjector.Value

/-!
# Process environments

An environment maps names to texts.  It takes texts only, no name that is empty or holds an
equals sign, and no NUL anywhere; `Environment.check` names the first rule a variable breaks, in
the order of its tests.
-/

namespace ProxyInjector

inductive VariableError where
  | misuse (m : Misuse)
  | embeddedNull
  | illegalName
  | emptyName
deriving DecidableEq, Repr

namespace VariableError

def label : VariableError → String
  | .misuse m => m.label
  | .embeddedNull => "ValueError"
  | .illegalName => "ValueError"
  | .emptyName => "OSError"

def message : VariableError → String
  | .misuse m => m.message
  | .embeddedNull => "embedded null byte"
  | .illegalName => "illegal environment variable name"
  | .emptyName => "[Errno 22] Invalid argument"

end VariableError

/-- names and texts, in the order in which the names first came -/
abbrev Environment := List (String × String)

namespace Environment

def hasNull (s : String) : Bool := s.toList.contains '\x00'

def check : (name value : Value) → Except VariableError (String × String)
  | .text name, .text value =>
    if hasNull name || hasNull value then .error .embeddedNull
    else if name.toList.contains '=' then .error .illegalName
    else if name = "" then .error .emptyName
    else .ok (name, value)
  | .text _, v => .error (.misuse (.notText v.kind))
  | k, _ => .error (.misuse (.notText k.kind))

def get? (e : Environment) (name : String) : Option String :=
  (e.find? fun v => v.1 == name).map (·.2)

def put : Environment → String → String → Environment
  | [], name, value => [(name, value)]
  | v :: e, name, value => if v.1 == name then (v.1, value) :: e else v :: put e name value

/-- an environment set up variable by variable; the first one that breaks a rule ends it -/
def ofFields (fs : List (String × Value)) : Except VariableError Environment :=
  fs.foldlM (fun e f => (check (.text f.1) f.2).map fun v => e.put v.1 v.2) []

theorem get?_cons (v : String × String) (e : Environment) (name : String) :
    get? (v :: e) name = if v.1 == name then some v.2 else get? e name := by
  unfold get?
  rw [List.find?_cons]
  cases v.1 == name <;> rfl

theorem get?_put (e : Environment) (a b value : String) :
    get? (put e a value) b = if a = b then some value else get? e b := by
  induction e with
  | nil => by_cases h : a = b <;> simp [put, get?_cons, h]
  | cons v e ih =>
    unfold put
    by_cases hva : v.1 = a
    · by_cases hab : a = b <;> simp [get?_cons, hva, hab]
    · by_cases hvb : v.1 = b
      · have hab : a ≠ b := fun h => hva (hvb.trans h.symm)
        simp [get?_cons, hvb, hab, Ne.symm hab]
      · simp [get?_cons, hva, hvb, ih]

end Environment

end ProxyInjector
