import ProxyInjector.CommandLine.Help
import ProxyInjector.CommandLine.Reading
import ProxyInjector.Ending

/-!
# Registries

A registry is a parser in use: flags are registered with it and command lines are read by it, and
it remembers the targets of the flags and the values of the last command line that was read.

* `Parser.reply`        what is printed where the reading stops, and how the run ends: help and
                        versions go to the output stream, usage and a complaint to the error stream.
                        Where the text cannot be made, the run ends with that fault.  Where it
                        cannot be written, a lenient console passes over it and the run ends as if
                        it had been, and any other ends the run with that fault;
* `Registry.register`   a rejected flag leaves the registry as it was;
* `Registry.read`       a rejected command line is not remembered, but objects of flags stay as it
                        has changed them.
-/

namespace ProxyInjector.CommandLine

namespace Parser

/-- the end of a run that has written its last text -/
def endAfter (status : Nat) : Except StreamError Unit → Ending
  | .ok () => .exit status
  | .error e => .fault (.stream e)

/-- usage and what is wrong, on the error stream -/
def complain (p : Parser) (message : String) (c : Console) : Ending × Console :=
  match p.usage? with
  | none => (.fault (.flag .brokenUsage), c)
  | some usage =>
    match c.err.print c.manner.lenient usage with
    | (.error e, err) => (.fault (.stream e), { c with err })
    | (.ok (), err) =>
      let (result, err) := err.print c.manner.lenient (p.complaint message)
      (endAfter 2 result, { c with err })

/-- a text on the output stream, which ends the run -/
def showText (text : Except Unsuited String) (c : Console) : Ending × Console :=
  match text with
  | .error u => (.fault (.flag u), c)
  | .ok text =>
    let (result, out) := c.out.print c.manner.lenient text
    (endAfter 0 result, { c with out })

def reply (p : Parser) (h : Halt) (c : Console) : Ending × Console :=
  match h with
  | .help => showText p.help c
  | .version v => showText (p.versionText v) c
  | .unsuited u => (.fault (.flag u), c)
  | .refused r =>
    match r.message? with
    | .ok message => p.complain message c
    | .error u => (.fault (.flag u), c)

/-- the words of a command line, which may be anything that has items -/
def wordsOf : Value → Except Unsuited (List Value)
  | .null => .ok []
  | v => Flag.parts v

end Parser

/-- values that are remembered -/
inductive Remembered where
  | values (vs : Parser.Values)
  /-- the values are an object of a flag, whatever becomes of it -/
  | object (o : Owner)

structure Registry where
  parser : Parser
  /-- the targets of the registered flags, in order -/
  targets : List Value := []
  /-- the values of the last command line that was read -/
  remembered : Option Remembered := none

namespace Registry

def register (r : Registry) (names : List Value) (settings : Settings) :
    Except RegistrationError Value × Registry :=
  match r.parser.register names settings with
  | .error e => (.error e, r)
  | .ok (parser, target) => (.ok target, { r with parser, targets := r.targets ++ [target] })

/-- the values of the last command line that was read, as they are now -/
def values? (r : Registry) : Option Parser.Values :=
  r.remembered.map fun
    | .values vs => vs
    | .object o => r.parser.objectFields o

def read (r : Registry) (words : Value) (c : Console) :
    Except Ending Parser.Values × Registry × Console :=
  match Parser.wordsOf words with
  | .error u => (.error (.fault (.flag u)), r, c)
  | .ok words =>
    let reading := r.parser.read words
    match reading.result with
    | .error h =>
      let (ending, c) := r.parser.reply h c
      (.error ending, { r with parser := reading.after }, c)
    | .ok vs =>
      let remembered := match reading.owner with
        | some o => Remembered.object o
        | none => .values vs
      (.ok vs, { r with parser := reading.after, remembered := some remembered }, c)

end Registry

end ProxyInjector.CommandLine
