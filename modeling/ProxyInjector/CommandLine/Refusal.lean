import ProxyInjector.CommandLine.Flag

/-!
# What stops the reading of a command line

A command line may ask for help or for a version, it may be wrong (`Refusal`), or a flag turns out
unable to do its work.  `Refusal.message?` says what is wrong; it names a flag by its label, and a
flag may turn out unable to be named.
-/

namespace ProxyInjector.CommandLine

/-! ## wrong command lines -/

/-- why a command line cannot be read -/
inductive Refusal where
  | ambiguous (option : String) (candidates : List String)
  /-- an option's number of arguments does not fit -/
  | unmatched (flag : Flag)
  /-- a value behind an equals sign, or a tail of letters, that no option takes -/
  | ignoredValue (flag : Flag) (value : String)
  | invalidValue (flag : Flag) (conversion : Conversion) (value : Value)
  | invalidChoice (flag : Flag) (value : Value) (choices : Choices)
  | missing (labels : List String)
  | unrecognized (arguments : List String)

namespace Refusal

/-- a text about a flag; one without a name is left out -/
def about (f : Flag) (text : String) : Except Unsuited String :=
  f.label?.map fun label =>
    match label with
    | some l => "argument " ++ l.shown ++ ": " ++ text
    | none => text

def message? : Refusal → Except Unsuited String
  | .ambiguous option candidates =>
    .ok ("ambiguous option: " ++ option ++ " could match " ++ ", ".intercalate candidates)
  | .unmatched f => about f f.arity.expectation
  | .ignoredValue f v => about f ("ignored explicit argument " ++ Text.quoted v)
  | .invalidValue f c v => about f ("invalid " ++ c.name ++ " value: " ++ v.quoted)
  | .invalidChoice f v cs =>
    about f ("invalid choice: " ++ v.quoted ++ " (choose from "
      ++ ", ".intercalate (cs.values.map Value.quoted) ++ ")")
  | .missing labels =>
    .ok ("the following arguments are required: " ++ ", ".intercalate labels)
  | .unrecognized arguments => .ok ("unrecognized arguments: " ++ " ".intercalate arguments)

end Refusal

/-! ## all causes -/

/-- what stops the reading -/
inductive Halt where
  /-- help was asked for -/
  | help
  /-- a version was asked for -/
  | version (v : Value)
  | refused (r : Refusal)
  | unsuited (u : Unsuited)

end ProxyInjector.CommandLine
