import ProxyInjector.Value

/-!
# How many arguments a flag takes

The arguments of a command line carry marks: plain text, an option, or the double dash that ends
the options.  An arity says which stretches of marks a flag may take.

* `Arity.counts`    the lengths of the stretches at the head of a list that fit, longest first.
                    An option takes plain arguments only; a positional flag also takes the double
                    dashes around its arguments;
* `countsOf?`       lengths for a list of positional flags, one behind the other: the first choice
                    in the order of `counts` that leaves something fitting for all flags behind.
-/

namespace ProxyInjector.CommandLine

inductive Mark where
  | plain
  | option
  /-- a double dash -/
  | bar
deriving DecidableEq, Repr

inductive Arity where
  | one
  | optional
  | any
  | some
  /-- everything that follows, options included -/
  | rest
  /-- one argument and everything that follows -/
  | command
  /-- nothing, and the flag leaves no value -/
  | hidden
  | exactly (n : Int)
  /-- exactly one, where the number was given as a truth value -/
  | affirmed
deriving DecidableEq, Repr

namespace Arity

/-- how many marks at the head satisfy `p` -/
def run (p : Mark → Bool) (ms : List Mark) : Nat := (ms.takeWhile p).length

/-- `high`, `high - 1`, …, `low` -/
def down (high low : Nat) : List Nat := (List.range (high + 1 - low)).reverse.map (· + low)

/-- how many marks it takes to get past `n` plain ones, double dashes in front of each included -/
def past? : (n : Nat) → List Mark → Option Nat
  | 0, _ => .some 0
  | n + 1, ms =>
    let bars := run (· == .bar) ms
    match ms.drop bars with
    | .plain :: ms => (past? n ms).map (· + (bars + 1))
    | _ => none

/-- the lengths that take `least` marks, and more up to the end of a run of marks that satisfy
`p` -/
def from? (least : Option Nat) (p : Mark → Bool) (ms : List Mark) : List Nat :=
  match least with
  | .some n => down (n + run p (ms.drop n)) n
  | none => []

def isBar (m : Mark) : Bool := m == .bar

/-- the lengths for marks that may all be taken -/
def fits (a : Arity) (ms : List Mark) : List Nat :=
  match a with
  | one => from? (past? 1 ms) isBar ms
  | optional => from? (past? 1 ms) isBar ms ++ from? (.some 0) isBar ms
  | any => from? (.some 0) (· != .option) ms
  | some => from? (past? 1 ms) (· != .option) ms
  | rest => from? (.some 0) (fun _ => true) ms
  | command => from? (past? 1 ms) (fun _ => true) ms
  | hidden => from? (.some 0) isBar ms
  | exactly n => from? (past? n.toNat ms) isBar ms
  | affirmed => from? (past? 1 ms) isBar ms

def counts (a : Arity) (positional : Bool) (ms : List Mark) : List Nat :=
  a.fits (if positional then ms else ms.takeWhile (· != .bar))

/-- the flag takes no arguments -/
def isZero (a : Arity) : Bool := a == exactly 0

/-- arguments are not looked at one by one: a double dash among them is one of them -/
def isVerbatim (a : Arity) : Bool := a == rest || a == command

/-- a single argument is the value, and not a list of one -/
def isSingle (a : Arity) : Bool := a == one || a == optional

/-- the arity as a setting says it -/
def setting : Arity → Value
  | one => .null
  | optional => .text "?"
  | any => .text "*"
  | some => .text "+"
  | rest => .text "..."
  | command => .text "A..."
  | hidden => .text "==SUPPRESS=="
  | exactly n => .int n
  | affirmed => .bool true

/-- what is missing where nothing fits -/
def expectation : Arity → String
  | one => "expected one argument"
  | optional => "expected at most one argument"
  | some => "expected at least one argument"
  | any => "expected * arguments"
  | rest => "expected ... arguments"
  | command => "expected A... arguments"
  | hidden => "expected ==SUPPRESS== arguments"
  | exactly n => "expected " ++ toString n ++ if n = 1 then " argument" else " arguments"
  | affirmed => "expected True argument"

end Arity

def countsOf? : List Arity → List Mark → Option (List Nat)
  | [], _ => some []
  | a :: as, ms => (a.counts true ms).findSome? fun n => (countsOf? as (ms.drop n)).map (n :: ·)

/-- lengths for as many of the flags as there are fitting ones for, the first flags first -/
def partialCounts (as : List Arity) (ms : List Mark) : List Nat :=
  ((List.range as.length).reverse.findSome? fun n => countsOf? (as.take (n + 1)) ms).getD []

end ProxyInjector.CommandLine
