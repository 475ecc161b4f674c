import ProxyInjector.Descriptor
import ProxyInjector.Stream
import ProxyInjector.Version
import ProxyInjector.CommandLine.Refusal
import ProxyInjector.Console
import ProxyInjector.Store.Environment
import ProxyInjector.Url.Error

/-!
# Faults

Everything that can go wrong while a program runs, by its cause.  A fault has a kind, `label`,
and a text, `message`; with both it becomes the trouble that a log record carries.

* `describe`, `reject`   faults as a host program makes them, with details that may not name what
                         is given already.
-/

namespace ProxyInjector

/-- kinds of failure that a host's own store may raise -/
inductive FailureKind where
  | general
  | rejected
  | io
  | missingKey
  | runtime
  | unsuitedType
  | unsuitedValue
deriving DecidableEq, Repr

inductive Fault where
  | misuse (m : Misuse)
  | address (e : AddressError)
  | variable (e : VariableError)
  | log (e : Log.LogError)
  | stream (e : StreamError)
  | version (e : Version.LookupError)
  | url (e : UrlError)
  | flag (u : CommandLine.Unsuited)
  /-- a store rejects a key for a reason -/
  | rejected (key reason : Value)
  /-- a failure of this program for which only a message is known -/
  | general (message : Value)
  /-- a failure of the host program -/
  | io (message : Value)
  | missingKey (message : Value)
  | runtime (message : Value)
  | unsuitedType (message : Value)
  | unsuitedValue (message : Value)
  /-- an operation that every kind of store has to supply -/
  | notSupplied

namespace Fault

def label : Fault → String
  | .misuse m => m.label
  | .address e => e.label
  | .variable e => e.label
  | .log e => e.label
  | .stream e => e.label
  | .version e => e.label
  | .url e => e.label
  | .flag u => u.label
  | .rejected .. => "ConfigStoreError"
  | .general _ => "AgentProxyException"
  | .io _ => "OSError"
  | .missingKey _ => "KeyError"
  | .runtime _ => "RuntimeError"
  | .unsuitedType _ => "TypeError"
  | .unsuitedValue _ => "ValueError"
  | .notSupplied => "NotImplementedError"

def message : Fault → String
  | .misuse m => m.message
  | .address e => e.message
  | .variable e => e.message
  | .log e => e.message
  | .stream e => e.message
  | .version e => e.message
  | .url e => e.message
  | .flag u => u.message
  | .rejected key reason => key.shown ++ " " ++ reason.shown
  | .general m => if m.truthy then m.shown else "Reason unknown"
  | .io m => m.shown
  | .missingKey m => m.quoted
  | .runtime m => m.shown
  | .unsuitedType m => m.shown
  | .unsuitedValue m => m.shown
  | .notSupplied => ""

/-- the kinds of fault that this program defines -/
def isOwn : Fault → Bool
  | .rejected .. => true
  | .general _ => true
  | _ => false

def trouble (f : Fault) : Log.Trouble :=
  { label := f.label
    message := f.message
    origin := if f.isOwn then "agentproxy.exception." ++ f.label else f.label }

/-- a failure of that kind while a store writes `key` -/
def ofKind (kind : FailureKind) (key message : Value) : Fault :=
  match kind with
  | .general => .general message
  | .rejected => .rejected key message
  | .io => .io message
  | .missingKey => .missingKey message
  | .runtime => .runtime message
  | .unsuitedType => .unsuitedType message
  | .unsuitedValue => .unsuitedValue message

/-- one of the details is an argument that is there already -/
def checkDetails (operation : String) (arguments : List String) (details : List (String × Value)) :
    Except Misuse Unit :=
  match details.find? fun d => arguments.contains d.1 with
  | some d => .error (.givenTwice operation d.1)
  | none => .ok ()

/-- a failure of this program with details by their names.  Nothing is made of the details, but
where no message is given one of them may be it. -/
def describe (message? : Option Value) (details : List (String × Value)) : Except Misuse Fault :=
  let given := if message?.isSome then ["self", "message"] else ["self"]
  match checkDetails "AgentProxyException.__init__" given details with
  | .error m => .error m
  | .ok () =>
    let named := (details.find? fun d => d.1 == "message").map (·.2)
    .ok (.general ((message?.or named).getD .null))

/-- the rejection of a key with details by their names -/
def reject (key reason : Value) (details : List (String × Value)) : Except Misuse Fault :=
  match checkDetails "ConfigStoreError.__init__" ["self", "key", "reason"] details with
  | .error m => .error m
  | .ok () =>
    let f : Fault := .rejected key reason
    (describe (some (.text f.message)) details).map fun _ => f

/-- the fault is that of a value which is not suited to its use -/
def isUnsuited (f : Fault) : Bool := f.label == "TypeError" || f.label == "ValueError"

end Fault

end ProxyInjector
