import ProxyInjector.Session

/-!
# Injecting a proxy

An injection points the networking of a process at a proxy: it writes the proxy's host and port
under the keys for both schemes and empties the list of hosts that are exempt, so that every
destination goes through the proxy.

* `Session.inject`   reads the argument and makes the five writes, in the order of
                     `Descriptor.entries`, up to the first that fails.  An argument that is no
                     descriptor is skipped: nothing is written;
* `Session.apply`    injects and says so in one line, on the output stream if it went well and on
                     the error stream if not.  Every fault ends up in the result;
* `Session.applyStandard`   does so for a host program that names no store.
-/

namespace ProxyInjector

/-! ## the keys -/

namespace Key

def httpHost : String := "http.proxyHost"
def httpPort : String := "http.proxyPort"
def httpsHost : String := "https.proxyHost"
def httpsPort : String := "https.proxyPort"
def exemptHosts : String := "http.nonProxyHosts"

end Key

/-- what an injection writes, in order -/
def Descriptor.entries (d : Descriptor) : List (String × String) :=
  [(Key.httpHost, d.host), (Key.httpPort, d.port), (Key.httpsHost, d.host),
    (Key.httpsPort, d.port), (Key.exemptHosts, "")]

/-! ## the outcome -/

inductive Injection where
  /-- the argument was no descriptor, and nothing was done -/
  | skipped
  | done (d : Descriptor)
  /-- a write or the report failed; the descriptor is there if all writes were made -/
  | failed (d : Option Descriptor) (reason : String)
deriving DecidableEq, Repr

namespace Injection

def ok : Injection → Bool
  | .failed .. => false
  | _ => true

def descriptor? : Injection → Option Descriptor
  | .skipped => none
  | .done d => some d
  | .failed d _ => d

def reason? : Injection → Option String
  | .failed _ reason => some reason
  | _ => none

/-- the mark that every line of the injector starts with -/
def tag : String := "[AgentProxy]"

def successLine (d : Descriptor) : String :=
  tag ++ " Successfully injected proxy: " ++ d.host ++ ":" ++ d.port

def failureLine (reason : Value) : String := tag ++ " Error injecting proxy: " ++ reason.shown

/-! ## records -/

def record (function : String) (level : Log.Level) (pattern : String) (f : Option Fault) :
    Log.Record where
  level := level
  logger := "agentproxy.agent"
  message := pattern
  unit := "agent"
  function := function
  trouble := f.map Fault.trouble

/-- a record whose pattern ends with the place of a value -/
def recordOf (level : Log.Level) (pattern place shown quoted : String) : Log.Record :=
  { record "inject" level (pattern ++ shown) none with
    pattern := .text (pattern ++ place), arguments := [quoted] }

def skippedRecord (raw : String) : Log.Record :=
  recordOf Log.Level.debug "Ignoring malformed proxy argument " "%r" (Text.quoted raw)
    (Text.quoted raw)

def failedRecord (f : Fault) : Log.Record :=
  record "inject" Log.Level.debug "Proxy injection failed" (some f)

def doneRecord (d : Descriptor) : Log.Record :=
  recordOf Log.Level.info "Proxy properties now point to " "%s" d.toString d.quoted

def unreportedRecord (f : Fault) : Log.Record :=
  record "apply" Log.Level.debug "Unable to report injected proxy" (some f)

def unreportedFailureRecord (f : Fault) : Log.Record :=
  record "report_error" Log.Level.debug "Unable to report injection error" (some f)

end Injection

/-! ## the injection -/

namespace Session

open Injection

def injectDescriptor (s : Session) (d : Descriptor) : Injection × Session :=
  match s.setAll d.entries with
  | (.error f, s) => (.failed none f.message, s.emit (failedRecord f))
  | (.ok (), s) => (.done d, s.emit (doneRecord d))

def inject (s : Session) (raw : Value) : Injection × Session :=
  match raw.asText "split" with
  | .error m => (.failed none m.message, s.emit (failedRecord (.misuse m)))
  | .ok text =>
    match Descriptor.parse? text with
    | none => (.skipped, s.emit (skippedRecord text))
    | some d => s.injectDescriptor d

/-- the failure line on the error stream; if that cannot be written either, a record is all -/
def reportFailure (s : Session) (reason : Value) : Session :=
  match s.reportTrouble (failureLine reason) with
  | (.ok (), s) => s
  | (.error f, s) => s.emit (unreportedFailureRecord f)

def apply (s : Session) (raw : Value) : Injection × Session :=
  match s.inject raw with
  | (.skipped, s) => (.skipped, s)
  | (.failed d reason, s) => (.failed d reason, s.reportFailure (.text reason))
  | (.done d, s) =>
    match s.report (successLine d) with
    | (.ok (), s) => (.done d, s)
    | (.error f, s) =>
      (.failed (some d) f.message, (s.emit (unreportedRecord f)).reportFailure (.text f.message))

/-- an injection for which no store is given -/
def applyStandard (s : Session) (raw : Value) : Injection × Session :=
  match s.standard? with
  | none => s.apply raw
  | some store =>
    let (i, t) := apply { store, console := s.console } raw
    (i, { s with console := t.console, standard? := some t.store })

end Session

end ProxyInjector
