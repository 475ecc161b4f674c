import ProxyInjector.Injection
import ProxyInjector.Program.Options
import ProxyInjector.Shell

/-!
# Runs of the program

A run reads its command line, sets up logging, chooses a store and injects the proxy there.  What
it finds and leaves behind is a `ProcessState`: the properties of the process, its environment and
its console.  Runs of one process follow each other, each on what the one before left.

* `ProcessState.main`     one run, and how it ends: with the injection's outcome, with an exit
                          status, or with a fault;
* `ProcessState.runAll`   runs one after the other.
-/

namespace ProxyInjector.Program

/-- the stores that a run can choose from -/
inductive Target where
  | properties
  | environment
deriving DecidableEq, Repr

/-- the store of that name -/
def Target.resolve (name : Value) : Except Fault Target :=
  if !name.isKey then .error (.misuse (.notKey name.kind))
  else match name with
    | .text s =>
      if s = propertiesName then .ok .properties
      else if s = environmentName then .ok .environment
      else .error (unknown name)
    | _ => .error (unknown name)
where
  unknown (name : Value) : Fault := .rejected name (.text "unknown store")

structure ProcessState where
  properties : Table := []
  frozen : Bool := false
  environment : Environment := []
  console : Console

/-- the words and values that a run is started with -/
structure Invocation where
  /-- normally a list of texts -/
  args : Value
  overrides : List (String × Value) := []
  /-- the words are those of the process, in whose place others may be given by name -/
  ofProcess : Bool := false

namespace Invocation

def words (call : Invocation) : Except Fault Value :=
  if call.ofProcess then
    match call.overrides.find? (·.1 == wordsName) with
    | none | some (_, .null) => .ok call.args
    | some (_, v) => .ok v
  else (checkWords "main" call.overrides).map fun _ => call.args

/-- the values that override options -/
def values (call : Invocation) : List (String × Value) :=
  call.overrides.filter fun o => o.1 != wordsName

end Invocation

/-- why a run cannot do without a proxy -/
def noProxy : String := "the following arguments are required: proxy"

def derivedRecord (descriptor address : String) : Log.Record where
  level := Log.Level.debug
  logger := "agentproxy.cli"
  message := "Derived " ++ descriptor ++ " from listen address " ++ address
  pattern := .text "Derived %s from listen address %s"
  arguments := [Text.quoted descriptor, Text.quoted address]
  unit := "cli"
  function := "main"

/-- the proxy to inject: what the option says, or the descriptor of the listen address it says -/
def proxyOf (o : Options) (c : Console) : Except Fault Value × Console :=
  if !o.fromAddress.truthy then (.ok o.proxy, c)
  else match o.proxy.asText "startswith" with
    | .error m => (.error (.misuse m), c)
    | .ok address =>
      let derived := (Descriptor.ofAddress address).toString
      (.ok (.text derived), c.emit (derivedRecord derived address))

namespace ProcessState

/-- a session on one of the stores -/
def session (p : ProcessState) : Target → Session
  | .properties =>
    { store := .properties p.properties p.frozen, console := p.console
      environment := p.environment }
  | .environment => { store := .environment p.environment, console := p.console }

/-- the state that a session leaves behind -/
def adopt (p : ProcessState) (s : Session) : ProcessState :=
  match s.store with
  | .properties entries frozen => { p with properties := entries, frozen, console := s.console }
  | .environment environment => { p with environment, console := s.console }
  | .mapping _ => { p with console := s.console }

/-- the shell script behind a successful injection, if it is asked for -/
def reportScript (s : Session) (i : Injection) (shell : Value) : Except Fault Unit × Session :=
  match shell.truthy && i.ok, i.descriptor? with
  | true, some d => s.report (Shell.script d)
  | _, _ => (.ok (), s)

/-- the run from the point where its options are known -/
def inject (p : ProcessState) (o : Options) : Except Ending Injection × ProcessState :=
  match o.proxy with
  | .null =>
    let (ending, console) := parser.complain noProxy p.console
    (.error ending, { p with console })
  | _ =>
    match proxyOf o p.console with
    | (.error f, console) => (.error (.fault f), { p with console })
    | (.ok proxy, console) =>
      let p := { p with console }
      match Target.resolve o.store with
      | .error f => (.error (.fault f), p)
      | .ok target =>
        let (i, s) := (p.session target).apply proxy
        match reportScript s i o.shell with
        | (.error f, s) => (.error (.fault f), p.adopt s)
        | (.ok (), s) => (.ok i, p.adopt s)

def main (p : ProcessState) (call : Invocation) : Except Ending Injection × ProcessState :=
  match call.words with
  | .error f => (.error (.fault f), p)
  | .ok words =>
    match prepare words call.values p.console with
    | (.error e, console) => (.error e, { p with console })
    | (.ok o, console) => { p with console }.inject o

def runAll : ProcessState → List Invocation → List (Except Ending Injection × ProcessState)
  | _, [] => []
  | p, call :: calls =>
    let outcome := p.main call
    outcome :: runAll outcome.2 calls

end ProcessState

end ProxyInjector.Program
