import ProxyInjector.Stream
import ProxyInjector.Log.Logger

/-!
# The console

What a run can be seen to do beside its result: text on the two output streams, lines in log
files, and the records it emits.

* `Manner`             what a console does in one way on one machine and in another on the next;
* `Console.emit`       keeps every record in the journal and hands it to the handlers of the
                       logger;
* `Console.noteLoss`   a line that cannot be rendered or written is noted on the error stream;
                       where that fails too, nobody hears of it.
-/

namespace ProxyInjector

/-- why a line is lost -/
inductive Log.Loss where
  | unrendered
  | unwritten
deriving DecidableEq, Repr

/-- the head of what is written about a line that is lost -/
def Log.lossBanner : String := "--- Logging error ---\n"

structure Manner where
  /-- A text by which a command line is answered is passed over where it cannot be written.
  Otherwise that fault ends the run. -/
  lenient : Bool := true
  /-- what is written about the line of a record that is lost -/
  notice : Log.Loss → Log.Record → List String := fun _ _ => [Log.lossBanner]
  stamp : Log.Site → Log.Record → Log.Stamp := fun _ _ => {}

structure Console where
  out : Stream := {}
  err : Stream := {}
  logger : Log.LoggerState := {}
  directory : Directory
  journal : List Log.Record := []
  manner : Manner := {}

namespace Console

open Log

/-- the texts on the error stream, up to the first that cannot be written -/
def writeAll : Stream → List String → Stream
  | s, [] => s
  | s, t :: ts =>
    match s.write t with
    | (.error _, s) => s
    | (.ok (), s) => writeAll s ts

def noteLoss (c : Console) (loss : Loss) (r : Record) : Console :=
  { c with err := writeAll c.err (c.manner.notice loss r) }

/-- one line of a handler -/
def deliver (c : Console) (r : Record) (line : String) : Sink → Console
  | .nothing => c
  | .stream =>
    match c.err.report line with
    | (.ok (), err) => { c with err }
    | (.error _, err) => { c with err }.noteLoss .unwritten r
  | .file l =>
    if c.directory.refuses l then c.noteLoss .unwritten r
    else { c with directory := c.directory.append l (line ++ "\n") }

def handle (r : Record) (stamp : Stamp) (c : Console) (h : Handler) : Console :=
  match h.sink, r.render? stamp h.template with
  | .nothing, _ => c
  | _, none => c.noteLoss .unrendered r
  | sink, some line => c.deliver r line sink

/-- a record that is made at `site` -/
def emit (c : Console) (r : Record) (site : Site := .told) : Console :=
  let stamp := c.manner.stamp site r
  { (c.logger.route r).foldl (handle r stamp) { c with journal := c.journal ++ [r] } with
    logger := c.logger.heard c.directory stamp r }

/-- the logger that a host program names: an empty or absent name means the top of all loggers -/
def loggerName (v : Value) : Except Misuse String :=
  if !v.truthy then .ok "root"
  else match v with
    | .text s => .ok s
    | _ => .error .notLoggerName

def recordLevel : Value → Except Misuse Level
  | .int n => .ok n
  | .bool b => .ok (if b then 1 else 0)
  | _ => .error .notLevel

/-- a record that the host program emits on a logger of its choice -/
def log (c : Console) (logger level message : Value) : Except Misuse Unit × Console :=
  match loggerName logger, recordLevel level with
  | .error e, _ => (.error e, c)
  | .ok _, .error e => (.error e, c)
  | .ok name, .ok l =>
    (.ok (), c.emit { level := l, logger := name, message := message.shown, pattern := message
                      unit := "caller", function := "emit" })

def configureLog (c : Console) (cfg : Settings) : Except LogError Unit × Console :=
  let (result, logger, directory) := configure cfg c.logger c.directory
  (result, { c with logger, directory })

end Console

end ProxyInjector
