import ProxyInjector.Directory
import ProxyInjector.Log.Record
import ProxyInjector.Log.LineTemplate

/-!
# The logger of the program

One logger, `agentproxy`, serves the program; all loggers below it hand their records up to it.
It holds handlers, a level and a flag that hands records on to the loggers of the host program.

* `LoggerState.accepts`   a record is looked at only if its level reaches that of the logger, or
                          the level `warning` as long as the logger has none of its own;
* `LoggerState.heard`     a handler whose file has no room for a line holds on to it, unless the
                          line is too long for that;
* `Handler.close`         such a handler cannot be closed without a fault;
* `configure`             replaces the handlers by one that writes to a file, or to the error
                          stream, and sets level and flag.  The steps are taken one by one and
                          whatever was done before one failed stays done: old handlers go first,
                          each taken off and then closed, then the file is created, the template
                          checked, the handler added, the level read, and last the flag cleared.
-/

namespace ProxyInjector.Log

inductive LogError where
  | file (e : FileError)
  | template (text : String)
  | level (e : LevelError)
  | misuse (m : Misuse)
  /-- the file of an old handler has no room for what the handler holds -/
  | noRoom
deriving DecidableEq, Repr

namespace LogError

def label : LogError → String
  | .file e => e.label
  | .template _ => "ValueError"
  | .level e => e.label
  | .misuse m => m.label
  | .noRoom => "OSError"

def message : LogError → String
  | .file e => e.message
  | .template t => "Invalid format '" ++ t ++ "' for '%' style"
  | .level e => e.message
  | .misuse m => m.message
  | .noRoom => "[Errno 28] No space left on device"

end LogError

/-- where a handler's lines go -/
inductive Sink where
  /-- nowhere -/
  | nothing
  /-- to the error stream -/
  | stream
  | file (location : Location)
deriving DecidableEq, Repr

structure Handler where
  sink : Sink
  template : String
  /-- the file has had no room for a line, which is still to be written -/
  holds : Bool := false
deriving DecidableEq, Repr

/-- the template that writes the bare message -/
def bareTemplate : String := "%(message)s"

structure LoggerState where
  level : Level := Level.unset
  propagate : Bool := true
  handlers : List Handler := [{ sink := .nothing, template := bareTemplate }]
deriving DecidableEq, Repr

/-- the name of the program's logger -/
def root : String := "agentproxy"

/-- the logger of that name is the program's own or one below it -/
def isOwn (logger : String) : Bool :=
  logger == root || (root.toList ++ ['.']).isPrefixOf logger.toList

namespace LoggerState

/-- the level that counts for the logger itself -/
def effective (s : LoggerState) : Level :=
  if s.level = Level.unset then Level.warning else s.level

/-- levels up to zero are never logged -/
def accepts (s : LoggerState) (l : Level) : Bool := 0 < l && s.effective ≤ l

/-- the handlers that a record of some logger reaches.  Where there are none, records from
`warning` on go to the error stream as their bare message. -/
def route (s : LoggerState) (r : Record) : List Handler :=
  if isOwn r.logger then
    if !s.accepts r.level then []
    else if s.handlers = [] then lastResort r else s.handlers
  else lastResort r
where
  lastResort (r : Record) : List Handler :=
    if Level.warning ≤ r.level then [{ sink := .stream, template := bareTemplate }] else []

end LoggerState

/-! ## handlers and what they hold -/

/-- the handler behind a record that its template makes `line?` of -/
def Handler.heard (h : Handler) (d : Directory) (line? : Option String) : Handler :=
  match h.sink with
  | .file l => { h with holds := h.holds || line?.any fun line => d.delays l (line ++ "\n") }
  | .nothing | .stream => h

/-- the logger behind a record -/
def LoggerState.heard (s : LoggerState) (d : Directory) (stamp : Stamp) (r : Record) :
    LoggerState :=
  if isOwn r.logger && s.accepts r.level then
    { s with handlers := s.handlers.map fun h => h.heard d (r.render? stamp h.template) }
  else s

/-- what a handler holds has to be written when it is closed, for which there is no room -/
def Handler.close (h : Handler) : Except LogError Unit :=
  if h.holds then .error .noRoom else .ok ()

/-- handlers closed one after the other up to the first that cannot be, and those behind it -/
def closeAll : List Handler → Except LogError Unit × List Handler
  | [] => (.ok (), [])
  | h :: hs =>
    match h.close with
    | .error e => (.error e, hs)
    | .ok () => closeAll hs

/-! ## configuration -/

/-- the template of a line unless another is chosen -/
def standardTemplate : String :=
  "%(asctime)s - pid:%(process)d [%(levelname)-.1s] "
    ++ "%(module)s.%(funcName)s:%(lineno)d - %(message)s"

/-- how logging is set up; every setting may be any value -/
structure Settings where
  file : Value := .null
  level : Value := .text "WARNING"
  template : Value := .text standardTemplate

/-- the sink that a file setting asks for; an empty or absent one means the error stream -/
def sinkOf (d : Directory) (file : Value) : Except LogError Sink :=
  if !file.truthy then .ok .stream
  else match file with
    | .text path =>
      match d.locate path with
      | .ok l => .ok (.file l)
      | .error e => .error (.file e)
    | v => .error (.misuse (.notPath v.kind))

/-- the template that a setting asks for; an empty or absent one means the bare message -/
def templateOf (v : Value) : Except LogError String :=
  if !v.truthy then .ok bareTemplate
  else match v with
    | .text t => if LineTemplate.valid t.toList then .ok t else .error (.template t)
    | v => .error (.misuse (.notMatchable v.kind))

/-- the files once a sink is open -/
def openSink (d : Directory) : Sink → Directory
  | .file l => d.append l ""
  | _ => d

/-- the set-up of a logger whose old handlers are closed -/
def install (cfg : Settings) (s : LoggerState) (d : Directory) :
    Except LogError Unit × LoggerState × Directory :=
  let bare := { s with handlers := [] }
  match sinkOf d cfg.file with
  | .error e => (.error e, bare, d)
  | .ok sink =>
    let d := openSink d sink
    match templateOf cfg.template with
    | .error e => (.error e, bare, d)
    | .ok template =>
      let handled := { s with handlers := [{ sink, template }] }
      match Level.ofValue cfg.level with
      | .error e => (.error (.level e), handled, d)
      | .ok level => (.ok (), { handled with level, propagate := false }, d)

def configure (cfg : Settings) (s : LoggerState) (d : Directory) :
    Except LogError Unit × LoggerState × Directory :=
  match closeAll s.handlers with
  | (.error e, handlers) => (.error e, { s with handlers }, d)
  | (.ok (), _) => install cfg s d

end ProxyInjector.Log
