import ProxyInjector.CommandLine.Role
import ProxyInjector.CommandLine.Slots

/-!
# Reading a command line

Once it is known which arguments are options, the arguments are taken from left to right
(`Parser.takeAll`): options where they stand, with as many plain arguments as fit behind them, and
between them as many positional flags as the plain arguments are enough for.  What no flag takes is
left over.

* `Parser.read`     the values that the command line sets, or what stopped the reading, and in
                    either case what has become of the objects of flags.  Flags that were not given
                    keep their defaults, and those that have to be given must be.
-/

namespace ProxyInjector.CommandLine

/-! ## defaults -/

/-- the last character that counts as the same wherever it stands alone -/
def lastCommon : Nat := 0xFF

/-- texts so short that no two of them differ unless they read differently -/
def isCommon (s : String) : Bool :=
  match s.toList with
  | [] => true
  | [c] => c.toNat ≤ lastCommon
  | _ => false

/-- the value of a slot is the default `text` of the flag at that place: it is where it came from,
or a text too short to tell -/
def Slot.isDefault (s : Slot) (place : Nat) (text : String) : Bool :=
  match s.value with
  | .text t => s.origin == some place || (t == text && isCommon text)
  | _ => false

/-! ## taking arguments -/

/-- what stops the reading, and the values at that moment -/
structure Stop where
  halt : Halt
  slots : Slots := {}

/-- a step of the reading that leaves the values alone -/
def Slots.step {α : Type} (s : Slots) (e : Except Halt α) : Except Stop α :=
  e.mapError fun halt => ⟨halt, s⟩

/-- a step of the reading that a value may turn out unfit for -/
def Slots.suit {α : Type} (s : Slots) (e : Except Unsuited α) : Except Stop α :=
  e.mapError fun u => ⟨.unsuited u, s⟩

structure Progress where
  slots : Slots
  /-- the positional flags that have not had their turn -/
  pending : List Known
  /-- the places of the flags that were given -/
  seen : List Nat := []
  extras : List Value := []

namespace Progress

/-- the flag is given with these arguments -/
def take (s : Progress) (f : Known) (args : List Value) : Except Stop Progress := do
  let v ← s.slots.step (f.1.value args)
  let s := { s with seen := f.2 :: s.seen }
  match v with
  | none => .ok s
  | some v =>
    let held := (s.slots.held? f.1.target).getD (.value .null)
    let new ← s.slots.step (f.1.act held v)
    let owner := (f.1.own? args).map (Owner.mk f.2)
    .ok { s with slots := ← s.slots.suit (s.slots.set f.1.target new owner) }

def takeEach : Progress → List (Known × List Value) → Except Stop Progress
  | s, [] => .ok s
  | s, (f, args) :: rest => do takeEach (← s.take f args) rest

def marks (args : List Argument) : List Mark := args.map fun a => a.2.mark

def words (args : List Argument) : List Value := args.map (·.1)

/-- the positional flags with their arguments, cut off the head of `args` -/
def deal : List Known → List Nat → List Argument → List (Known × List Value)
  | f :: fs, n :: ns, args => (f, words (args.take n)) :: deal fs ns (args.drop n)
  | _, _, _ => []

/-- as many positional flags as there are arguments for -/
def takePositionals (s : Progress) (args : List Argument) :
    Except Stop (Progress × List Argument) := do
  let counts := partialCounts (s.pending.map fun f => f.1.arity) (marks args)
  let t ← s.takeEach (deal s.pending counts args)
  .ok ({ t with pending := s.pending.drop counts.length }, args.drop (counts.foldl (· + ·) 0))

end Progress

namespace Parser

/-- the name is that of a short option -/
def isShort (name : String) : Bool := (name.toList.drop 1).head? != some '-'

/-- the flags given by an option with the value `value` that came with it, and how many of the
marks behind it the last one takes -/
def unfold (p : Parser) (f : Known) (name : String) (behind : List Mark) :
    Option (List Char) → Except Halt (List (Known × Option String) × Nat)
  | none =>
    match f.1.arity.counts false behind with
    | n :: _ => .ok ([(f, none)], n)
    | [] => .error (.refused (.unmatched f.1))
  | some value =>
    match f.1.arity.counts false [.plain], value with
    | [], _ => .error (.refused (.unmatched f.1))
    | 1 :: _, value => .ok ([(f, some (String.ofList value))], 0)
    | _, [] =>
      .error (if name.length < 2 then .unsuited .bareDash else .refused (.ignoredValue f.1 ""))
    | _, c :: cs =>
      if name.length < 2 then .error (.unsuited .bareDash)
      else if isShort name then
        let next := String.ofList ['-', c]
        match p.option? next with
        | none => .error (.refused (.ignoredValue f.1 (String.ofList (c :: cs))))
        | some g => do
          let (given, n) ← p.unfold g next behind (if cs = [] then none else some cs)
          .ok ((f, none) :: given, n)
      else .error (.refused (.ignoredValue f.1 (String.ofList (c :: cs))))
termination_by value => (value.getD []).length
decreasing_by split <;> simp

/-- the flags of `given` with their arguments: the value that came with the option, or the
arguments behind it for the last -/
def withArguments (behind : List Value) : List (Known × Option String) →
    List (Known × List Value)
  | [] => []
  | [(f, value)] => [(f, (value.map fun v => [.text v]).getD behind)]
  | (f, value) :: given =>
    (f, (value.map fun v => [.text v]).getD []) :: withArguments behind given

def takeOption (p : Parser) (s : Progress) (o : Occurrence) (arg : Value)
    (rest : List Argument) : Except Stop (Progress × List Argument) :=
  match o.flag with
  | none => .ok ({ s with extras := s.extras ++ [arg] }, rest)
  | some f => do
    let (given, n) ← s.slots.step (p.unfold f o.name (Progress.marks rest) o.value)
    let s ← s.takeEach (withArguments (Progress.words (rest.take n)) given)
    .ok (s, rest.drop n)

def isPlain (a : Argument) : Bool := a.2.mark != .option

/-- `fuel` bounds the number of arguments; plain arguments in front of an option go to positional
flags, and what these do not take is left over -/
def takeAllFrom (p : Parser) : (fuel : Nat) → Progress → List Argument → Except Stop Progress
  | 0, s, _ => .ok s
  | fuel + 1, s, args =>
    if args.all isPlain then do
      let (s, rest) ← s.takePositionals args
      .ok { s with extras := s.extras ++ Progress.words rest }
    else match args with
    | (arg, .option o) :: rest => do
      let (s, rest) ← p.takeOption s o arg rest
      p.takeAllFrom fuel s rest
    | args => do
      let (s, rest) ← s.takePositionals args
      if rest.length < args.length then p.takeAllFrom fuel s rest
      else
        let s := { s with extras := s.extras ++ Progress.words (args.takeWhile isPlain) }
        p.takeAllFrom fuel s (args.dropWhile isPlain)

def takeAll (p : Parser) (s : Progress) (args : List Argument) : Except Stop Progress :=
  p.takeAllFrom (args.length + 1) s args

/-! ## the whole -/

/-- the values before anything is read: the default of the first flag with that target, unless the
collection has an answer of its own -/
def defaults (p : Parser) : Slots :=
  p.flags.zipIdx.foldl (fun slots (f, i) =>
    match f.default with
    | none => slots
    | some v => if (slots.held? f.target).isSome then slots else slots.put f.target ⟨v, some i⟩) {}

def positionals (p : Parser) : List Known := p.flags.zipIdx.filter fun f => f.1.isPositional

/-- all flags have targets -/
def checkTargets (p : Parser) : Except Halt Unit :=
  match p.flags.findSome? Flag.oddTarget with
  | some v => .error (.unsuited (.notTarget v.kind))
  | none => .ok ()

/-- the flags that were not given: one that has to be is missing, and a text that is still the
default of its flag is converted now -/
def settle : List Known → List Nat → Slots → List (Option Value) →
    Except Stop (Slots × List (Option Value))
  | [], _, slots, missing => .ok (slots, missing.reverse)
  | (f, i) :: fs, seen, slots, missing =>
    if seen.contains i then settle fs seen slots missing
    else if f.required then do
      let label ← slots.suit f.label?
      settle fs seen slots (label :: missing)
    else match slots.get? f.target, f.default with
    | some slot, some (.text s) =>
      if slot.isDefault i s then do
        let v ← slots.step (f.convert (.text s))
        settle fs seen (← slots.suit (slots.set f.target v none)) missing
      else settle fs seen slots missing
    | _, _ => settle fs seen slots missing

/-- missing flags are named, which not all of them can be -/
def checkMissing (labels : List (Option Value)) : Except Halt Unit :=
  match textsFrom 0 (labels.map fun l => l.getD .null) with
  | .error u => .error (.unsuited u)
  | .ok [] => .ok ()
  | .ok labels => .error (.refused (.missing labels))

/-- the target under which further arguments are found that no flag takes -/
def extrasTarget : String := "_unrecognized_args"

/-- the slots without the further arguments, and these -/
def splitExtras (slots : Slots) : Except Unsuited (Slots × List Value) :=
  match slots.get? extrasTarget with
  | none => .ok (slots, [])
  | some slot => (Flag.parts slot.value).map fun vs =>
    ({ slots with entries := slots.entries.filter fun e => e.1 != extrasTarget }, vs)

def checkExtras (extras : List Value) : Except Halt Unit :=
  match textsFrom 0 extras with
  | .error u => .error (.unsuited u)
  | .ok [] => .ok ()
  | .ok texts => .error (.refused (.unrecognized texts))

abbrev Values := List (String × Value)

def readSlots (p : Parser) (args : List Value) : Except Stop Slots := do
  let none : Slots := {}
  none.step p.checkTargets
  let args ← none.step (p.recognizeAll args)
  let s ← p.takeAll { slots := p.defaults, pending := p.positionals } args
  let (slots, missing) ← settle p.flags.zipIdx s.seen s.slots []
  slots.step (checkMissing missing)
  let (slots, further) ← slots.suit (splitExtras slots)
  slots.step (checkExtras (s.extras ++ further))
  .ok slots

/-! ## the objects of flags -/

/-- the flag with an object of its own replaced -/
def replaceOwn (f : Flag) (own : Flag.Own) (fields : Values) : Flag :=
  match own with
  | .constant => { f with constant := .object fields }
  | .default => { f with default := some (.object fields) }

/-- the parser with one object of a flag as it is now -/
def replaceObject (p : Parser) (object : Owner × Entries) : Parser :=
  { p with flags := p.flags.modify object.1.place fun f =>
      replaceOwn f object.1.own object.2.fields }

def replaceObjects (p : Parser) (objects : List (Owner × Entries)) : Parser :=
  objects.foldl replaceObject p

/-- the fields of an object of the flag -/
def ownFields (f : Flag) : Flag.Own → Values
  | .constant => match f.constant with
    | .object fields => fields
    | _ => []
  | .default => match f.default with
    | some (.object fields) => fields
    | _ => []

/-- the fields of an object of a flag of the parser -/
def objectFields (p : Parser) (o : Owner) : Values :=
  (p.flags[o.place]?.map fun f => ownFields f o.own).getD []

/-- what a command line came to, and the parser afterwards -/
structure Reading where
  result : Except Halt Values
  /-- the object of a flag that the values are -/
  owner : Option Owner := none
  after : Parser

def read (p : Parser) (args : List Value) : Reading :=
  match p.readSlots args with
  | .error stop => ⟨.error stop.halt, none, p.replaceObjects stop.slots.objects⟩
  | .ok slots => ⟨.ok slots.entries.fields, slots.owner, p.replaceObjects slots.objects⟩

end Parser

end ProxyInjector.CommandLine
