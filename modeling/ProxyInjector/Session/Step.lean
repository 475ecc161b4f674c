import ProxyInjector.Routing.Configured

/-!
# Steps of a session

What a host program can ask of a session, one step at a time.  A step that fails leaves behind
what it did up to then, and the next step goes on from there.

* `Session.perform`   one step: its answer or fault, and the session afterwards;
* `Session.trace`     a list of steps, each with its outcome and the session it left.
-/

namespace ProxyInjector.Session

inductive Step where
  | apply (argument : Value)
  | inject (argument : Value)
  /-- an injection that is made for itself, into the session's store if that is given -/
  | applyOnce (argument : Value) (given : Bool)
  /-- a line on the output stream -/
  | report (line : Value)
  | reportFailure (reason : Value)
  | set (key value : Value)
  | get (key default : Value)
  | clear
  | freeze (frozen : Bool)
  /-- an entry set in a copy of the store's entries -/
  | setCopy (key value : Value)
  | proxies
  | exemptHosts
  | opener
  /-- a URL opened by what the store configures -/
  | route (url : Value)

inductive Answer where
  | nothing
  | injection (i : Injection)
  | value (v : Value)
  | proxies (table : List (String × String))
  | patterns (list : List String)
  | opener (o : Routing.Opener)
  | delivery (d : Except UrlError Routing.Delivery)

/-- the line that a value makes -/
def lineOf : Value → Except Misuse String
  | .text s => .ok s
  | .list _ => .error .listPlusText
  | v => .error (.plusText v.kind)

/-- the answer to a question that leaves the session alone -/
def ask (s : Session) (answer : Except Misuse Answer) : Except Fault Answer × Session :=
  (answer.mapError .misuse, s)

def opener (s : Session) : Except Misuse Routing.Opener :=
  s.store.opener s.surroundings s.console.directory

def perform (s : Session) : Step → Except Fault Answer × Session
  | .apply argument =>
    let (i, s) := s.apply argument
    (.ok (.injection i), s)
  | .inject argument =>
    let (i, s) := s.inject argument
    (.ok (.injection i), s)
  | .applyOnce argument given =>
    let (i, s) := if given then s.apply argument else s.applyStandard argument
    (.ok (.injection i), s)
  | .report line =>
    match lineOf line with
    | .error m => (.error (.misuse m), s)
    | .ok line =>
      let (result, s) := s.report line
      (result.map fun _ => .nothing, s)
  | .reportFailure reason => (.ok .nothing, s.reportFailure reason)
  | .set key value =>
    let (result, s) := s.set key value
    (result.map fun _ => .nothing, s)
  | .get key default => ((s.store.get key default).map .value, s)
  | .clear =>
    match s.store.clear with
    | .error f => (.error f, s)
    | .ok store => (.ok .nothing, { s with store })
  | .freeze frozen => (.ok .nothing, { s with store := s.store.freeze frozen })
  | .setCopy key _ =>
    s.ask (if key.isKey then .ok .nothing else .error (.notKey key.kind))
  | .proxies => s.ask (.ok (.proxies s.store.proxies))
  | .exemptHosts => s.ask (s.store.exemptHosts.map .patterns)
  | .opener => s.ask (s.opener.map .opener)
  | .route url => s.ask (s.opener.map fun o => .delivery (o.openValue url))

def trace : Session → List Step → List (Except Fault Answer × Session)
  | _, [] => []
  | s, step :: steps =>
    let outcome := s.perform step
    outcome :: trace outcome.2 steps

end ProxyInjector.Session
