import ProxyInjector.CommandLine.Registry
import ProxyInjector.Program.Flags

/-!
# Options of a run

The options of a run come from the command line, and a host program may override most of them by
values of its own, which nobody checks.

* `Options.ofValues`      the options that a command line sets;
* `Options.override`      the options with the values of the host program in their places;
* `checkWords`            the words of the command line are no option and not given by name;
* `prepare`               reads the command line, overrides, and sets up logging.  Help, version and
                          wrong command lines end the run before anything is set up.
-/

namespace ProxyInjector.Program

open CommandLine

structure Options where
  proxy : Value
  version : Value
  logLevel : Value
  logFile : Value
  logFormat : Value
  store : Value
  fromAddress : Value
  shell : Value

namespace Options

def ofValues (vs : Parser.Values) : Options :=
  let get (target : String) : Value := ((vs.find? fun v => v.1 == target).map (·.2)).getD .null
  { proxy := get "proxy"
    version := get "version"
    logLevel := get "log_level"
    logFile := get "log_file"
    logFormat := get "log_format"
    store := get "store"
    fromAddress := get "from_address"
    shell := get "shell" }

/-- one option replaced; a name that is no option's, or that of the version, changes nothing -/
def set (o : Options) (name : String) (v : Value) : Options :=
  match name with
  | "proxy" => { o with proxy := v }
  | "log_level" => { o with logLevel := v }
  | "log_file" => { o with logFile := v }
  | "log_format" => { o with logFormat := v }
  | "store" => { o with store := v }
  | "from_address" => { o with fromAddress := v }
  | "shell" => { o with shell := v }
  | _ => o

def override (o : Options) (values : List (String × Value)) : Options :=
  values.foldl (fun o v => o.set v.1 v.2) o

def logSettings (o : Options) : Log.Settings := ⟨o.logFile, o.logLevel, o.logFormat⟩

end Options

/-- two writes, the version and the end of its line -/
def showVersion (c : Console) : Except StreamError Unit × Console :=
  match c.out.write Version.current with
  | (.error e, out) => (.error e, { c with out })
  | (.ok (), out) =>
    let (result, out) := out.write "\n"
    (result, { c with out })

/-- the values of the words, or how the run ends -/
def readValues (words : Value) (c : Console) : Except Ending Parser.Values × Console :=
  match Parser.wordsOf words with
  | .error u => (.error (.fault (.flag u)), c)
  | .ok words =>
    match (parser.read words).result with
    | .ok values => (.ok values, c)
    | .error h =>
      let (ending, c) := parser.reply h c
      (.error ending, c)

/-- the options of a command line that neither asks for anything else nor is wrong -/
def readOptions (words : Value) (c : Console) : Except Ending Options × Console :=
  match readValues words c with
  | (.error e, c) => (.error e, c)
  | (.ok values, c) =>
    let o := Options.ofValues values
    if o.version.truthy then
      match showVersion c with
      | (.error e, c) => (.error (.fault (.stream e)), c)
      | (.ok (), c) => (.error (.exit 0), c)
    else (.ok o, c)

/-- the name of the words of a command line, where they are given by name -/
def wordsName : String := "input_args"

/-- the words are not given once more among the options -/
def checkWords (operation : String) (overrides : List (String × Value)) : Except Fault Unit :=
  if overrides.any fun o => o.1 == wordsName then
    .error (.misuse (.givenTwice operation wordsName))
  else .ok ()

def prepare (words : Value) (overrides : List (String × Value)) (c : Console) :
    Except Ending Options × Console :=
  match checkWords "FlagParser.initialize" overrides with
  | .error f => (.error (.fault f), c)
  | .ok () =>
    match readOptions words c with
    | (.error e, c) => (.error e, c)
    | (.ok o, c) =>
      let o := o.override overrides
      match c.configureLog o.logSettings with
      | (.error e, c) => (.error (.fault (.log e)), c)
      | (.ok (), c) => (.ok o, c)

end ProxyInjector.Program
