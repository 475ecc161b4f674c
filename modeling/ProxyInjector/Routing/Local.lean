import ProxyInjector.Directory
import ProxyInjector.Request
import ProxyInjector.Text.Base64
import ProxyInjector.Url.IpNumber

/-!
# Requests answered on this machine

Files and data need no network.

* `Local.isHere`      the host of a request is this machine, by its name or its address;
* `Local.checkFile`   a file has to be there, its host has to be this machine, and it may not be a
                      directory; the first of these that does not hold is what is reported;
* `Local.checkData`   data stands in the URL behind a comma, and what is encoded has to decode;
* `Local.answer`      what answers a request of some scheme here, if anything does.
-/

namespace ProxyInjector.Routing.Local

/-! ## this machine -/

def isMachine (host : List Char) : Bool :=
  Text.lowerFrom [] host == "localhost".toList || Url.addressOf? host == some Url.loopback

/-- the name of a host and its port, a number that may be missing behind the colon -/
def nameAndPort (host : List Char) : List Char × List Char :=
  match Text.cutLast? ':' host with
  | some (name, port) => if port.all Char.isDigit then (name, port) else (host, [])
  | none => (host, [])

/-- a host that is not named is this machine, and one with a port never is -/
def isHere (host : Option String) : Except UrlError Bool :=
  let (name, port) := nameAndPort (host.getD "").toList
  if name = [] then .ok true
  else if port ≠ [] then .ok false
  else match Url.HostName.encoded name with
    | .error e => .error (.hostName e)
    | .ok name => if name.contains '\x00' then .error .nullInHost else .ok (isMachine name)

/-! ## files -/

def checkFile (d : Directory) (r : Request) : Except UrlError Unit :=
  let path := String.ofList (Url.unescape r.selector.toList)
  match d.find path with
  | .error e => .error (.file e)
  | .ok node =>
    match isHere r.host with
    | .error e => .error e
    | .ok false => .error .otherMachine
    | .ok true => if node = .directory then .error (.file (.blocked .isDirectory path)) else .ok ()

/-- the selector looks like another authority -/
def hasSecondAuthority (r : Request) : Bool :=
  Path.isDoubled r.selector.toList && r.host.any fun h => h != "" && h != "localhost"

/-! ## data -/

/-- the end of a type that says that the data is encoded -/
def encodedMark : List Char := ";base64".toList

def checkData (r : Request) : Except UrlError Unit :=
  match Text.cut? ',' (Text.afterFirst ':' r.url.toList) with
  | none => .error .noData
  | some (type, data) =>
    if encodedMark.isSuffixOf type then
      match Text.Base64.decode ((Url.bytes data).map Char.ofNat) with
      | .error e => .error (.data e)
      | .ok _ => .ok ()
    else .ok ()

/-! ## both -/

/-- what a request is answered from -/
inductive Source where
  | file
  | data
deriving DecidableEq, Repr

/-- the name of what holds an answer -/
def Source.holder : Source → String
  | .file => "_io.BufferedReader"
  | .data => "_io.BytesIO"

def answer (d : Directory) (scheme : String) (r : Request) : Except UrlError (Option Source) :=
  if scheme = "file" then
    if hasSecondAuthority r then
      if r.host = some "127.0.0.1" then .ok none else .error .foreignFile
    else (checkFile d r).map fun _ => some .file
  else if scheme = "data" then (checkData r).map fun _ => some .data
  else .ok none

end ProxyInjector.Routing.Local
