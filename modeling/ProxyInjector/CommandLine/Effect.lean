import ProxyInjector.CommandLine.Member
import ProxyInjector.CommandLine.Refusal
import ProxyInjector.Text.Integer
import ProxyInjector.Text.Segments

/-!
# What a flag does when it is given

* `Flag.value`    the value that the flag makes of its arguments: read, checked against the
                  choices, and a list unless the flag takes a single argument;
* `Flag.act`      what becomes of what stands under the target of the flag.
-/

namespace ProxyInjector.CommandLine

def Choices.contains (c : Choices) (v : Value) : Except Unsuited Bool :=
  match c with
  | .among vs => .ok (vs.any (·.same v))
  | .fieldsOf names =>
    if v.isKey then .ok ((names.map Value.text).any (·.same v))
    else .error (.misuse (.notKey v.kind))
  | .piecesOf s =>
    match v with
    | .text t => .ok (Text.occursIn t.toList s.toList)
    | v => .error (.notWithinText v.kind)
  | .closed kind => .error (.notContainer kind)

namespace Flag

/-- an argument as an integer, if it can be read as one -/
def integerOf (arg : Value) : Except Unsuited (Option Int) :=
  match arg with
  | .text s => .ok (Text.integer? s.toList)
  | .double d =>
    match d.truncate? with
    | some n => .ok (some n)
    | none => .error .endless
  | v => .ok v.integer?

def convert (f : Flag) (arg : Value) : Except Halt Value :=
  match f.conversion with
  | some .integer =>
    match integerOf arg with
    | .error u => .error (.unsuited u)
    | .ok (some n) => .ok (.int n)
    | .ok none => .error (.refused (.invalidValue f .integer arg))
  | some .text => .ok (.text arg.shown)
  | none => .ok arg

def check (f : Flag) (v : Value) : Except Halt Value :=
  match f.choices with
  | none => .ok v
  | some cs =>
    match cs.contains v with
    | .error u => .error (.unsuited u)
    | .ok true => .ok v
    | .ok false => .error (.refused (.invalidChoice f v cs))

/-- what stands for the value of a flag that has none: a text is read as if it had been given -/
def substitute (f : Flag) (v : Value) : Except Halt Value :=
  match v with
  | .text s => do f.check (← f.convert (.text s))
  | v => .ok v

/-- the arguments without the first double dash -/
def withoutBar : List Value → List Value
  | [] => []
  | .text "--" :: args => args
  | arg :: args => arg :: withoutBar args

/-- the arguments that count for the value -/
def counted (f : Flag) (args : List Value) : List Value :=
  if f.arity.isVerbatim then args else withoutBar args

/-- the value that arguments make, if the flag has one -/
def value (f : Flag) (args : List Value) : Except Halt (Option Value) :=
  let args := f.counted args
  let default := f.default.getD .null
  match args, f.arity with
  | [], .optional =>
    (f.substitute (if f.isPositional then default else f.constant)).map some
  | [], .any =>
    if f.isPositional then
      (f.check (match default with | .null => .list [] | v => v)).map some
    else .ok (some (.list []))
  | _, .hidden => .ok none
  | _, .rest => (args.mapM f.convert).map fun vs => some (.list vs)
  | _, .command => do
    let vs ← args.mapM f.convert
    match vs with
    | [] => .ok (some (.list []))
    | v :: _ => (f.check v).map fun _ => some (.list vs)
  | _, _ =>
    match args, f.arity.isSingle with
    | [arg], true => do (f.check (← f.convert arg)).map some
    | _, _ => do
      let vs ← args.mapM f.convert
      (vs.mapM f.check).map fun vs => some (.list vs)

/-- which of its own values a flag with these arguments stores -/
inductive Own where
  | constant
  | default
deriving DecidableEq, Repr

/-- the value that is stored is the flag's own, and was not made of arguments -/
def own? (f : Flag) (args : List Value) : Option Own :=
  match f.action, f.counted args, f.arity with
  | .setConstant, _, _ => some .constant
  | .store, [], .optional => some (if f.isPositional then .default else .constant)
  | .store, [], .any => if f.isPositional then some .default else none
  | _, _, _ => none

/-- the list that a flag adds to, by the operation `member` -/
def items (current : Held) (member : String) : Except Unsuited (List Value) :=
  match current with
  | .value .null => .ok []
  | .value (.list vs) => .ok vs
  | .value v => .error (.misuse (.noMember v.kind member))
  | .own kind =>
    .error (if kind = "type" then .noClassMember member else .misuse (.noMember kind member))

/-- the pieces of a value -/
def parts : Value → Except Unsuited (List Value)
  | .list vs => .ok vs
  | .text s => .ok (s.toList.map fun c => .text (String.singleton c))
  | .object fs => .ok (fs.map fun f => .text f.1)
  | v => .error (.notIterable v.kind)

def oneMore : Held → Except Unsuited Value
  | .value .null => .ok (.int 1)
  | .value (.bool b) => .ok (.int (if b then 2 else 1))
  | .value (.int n) => .ok (.int (n + 1))
  | .value (.double d) => .ok (.double d.succ)
  | .value (.text _) | .own "str" => .error (.misuse (.textPlus "int"))
  | .value (.list _) => .error .listPlusNumber
  | .value v => .error (.plusNumber v.kind)
  | .own kind => .error (.plusNumber kind)

/-- what becomes of what stands under the target when the flag is given with `v` -/
def act (f : Flag) (current : Held) (v : Value) : Except Halt Value :=
  let suited : Except Unsuited Value → Except Halt Value := Except.mapError .unsuited
  match f.action with
  | .store => .ok v
  | .setConstant => .ok f.constant
  | .append => suited ((items current "append").map fun vs => .list (vs ++ [v]))
  | .appendConstant => suited ((items current "append").map fun vs => .list (vs ++ [f.constant]))
  | .extend => suited do
    let vs ← items current "extend"
    .ok (.list (vs ++ (← parts v)))
  | .count => suited (oneMore current)
  | .help => .error .help
  | .version => .error (.version f.version)

end Flag

end ProxyInjector.CommandLine
