import ProxyInjector.Store.Basic

/-!
# Sessions

A session is a store in use: the store, the console, and the faults that its host will raise.  A
write fault names the write it hits, counted from zero over the session with the failing writes
included.

* `Session.set`      one write, the only way in which a session changes its store;
* `Session.setAll`   writes in order, up to the first that fails.
-/

namespace ProxyInjector

structure WriteFault where
  write : Nat
  kind : FailureKind
  message : Value

structure Session where
  store : Store
  console : Console
  faults : List WriteFault := []
  writes : Nat := 0
  /-- the environment of the process, for the sessions whose store it is not -/
  environment : Environment := []
  /-- the store that stands in where none is given, if it is not the session's own -/
  standard? : Option Store := none

namespace Session

/-- the environment of the process as the session sees it now -/
def surroundings (s : Session) : Environment :=
  match s.store with
  | .environment e => e
  | _ => s.environment

/-- the fault of the next write; of two for one write the later counts -/
def nextFault? (s : Session) : Option WriteFault := s.faults.reverse.find? (·.write == s.writes)

def emit (s : Session) (r : Log.Record) : Session := { s with console := s.console.emit r }

def set (s : Session) (key value : Value) : Except Fault Unit × Session :=
  match s.nextFault? with
  | some f =>
    (.error (s.store.hostFault key (.ofKind f.kind key f.message)),
      { s with writes := s.writes + 1 })
  | none =>
    match s.store.put key value s.console with
    | (.error e, console) => (.error e, { s with console, writes := s.writes + 1 })
    | (.ok store, console) => (.ok (), { s with store, console, writes := s.writes + 1 })

def setAll : Session → List (String × String) → Except Fault Unit × Session
  | s, [] => (.ok (), s)
  | s, e :: es =>
    match s.set (.text e.1) (.text e.2) with
    | (.error f, s) => (.error f, s)
    | (.ok (), s) => s.setAll es

/-- a line on the output stream -/
def report (s : Session) (line : String) : Except Fault Unit × Session :=
  match s.console.out.report line with
  | (.error e, out) => (.error (.stream e), { s with console := { s.console with out } })
  | (.ok (), out) => (.ok (), { s with console := { s.console with out } })

/-- a line on the error stream -/
def reportTrouble (s : Session) (line : String) : Except Fault Unit × Session :=
  match s.console.err.report line with
  | (.error e, err) => (.error (.stream e), { s with console := { s.console with err } })
  | (.ok (), err) => (.ok (), { s with console := { s.console with err } })

end Session

end ProxyInjector
