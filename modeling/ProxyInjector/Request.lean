import ProxyInjector.Text.Blank
import ProxyInjector.Url.Authority

/-!
# Requests

A request asks a host for what a URL names.  It keeps the URL as it was given, and beside it what
is sent: the scheme that is spoken, the host that is contacted and the selector in the first line.

* `Request.ofUrl`      the request for a URL, sent to its own host;
* `Request.via`        the same request handed to a proxy.  Most schemes send the whole URL as the
                       selector; https keeps its selector and asks the proxy for a tunnel to the
                       host, unless it is inside of a tunnel already.
-/

namespace ProxyInjector

structure Request where
  scheme : String
  /-- the host with its port; `none` if the URL has no authority -/
  host : Option String
  selector : String
  url : String
  /-- the host that a tunnel through the proxy leads to -/
  tunnel : Option String := none
  /-- what the proxy is told about who asks -/
  credentials : Option String := none
deriving DecidableEq, Repr

namespace Url

/-- a URL without the blanks, the angle brackets and the mark that text may put around it -/
def unwrap (cs : List Char) : List Char :=
  let cs := Text.trim cs
  let cs :=
    if cs.head? = some '<' ∧ cs.getLast? = some '>' then Text.trim (cs.drop 1).dropLast else cs
  if "URL:".toList.isPrefixOf cs then Text.trim (cs.drop 4) else cs

/-- the URL and its fragment apart -/
def withoutFragment (cs : List Char) : List Char × List Char :=
  (Text.cutLast? '#' cs).getD (cs, [])

/-- the scheme in lower case and what follows its colon -/
def scheme? (cs : List Char) : Option (List Char × List Char) :=
  let name := cs.takeWhile fun c => c != '/' && c != ':'
  match cs.drop name.length with
  | ':' :: rest => if name = [] then none else some (Text.lowerFrom [] name, rest)
  | _ => none

/-- the authority behind two slashes, and the selector, which starts with a slash if it is not
empty; without the slashes everything is selector -/
def hostAndSelector : List Char → Option (List Char) × List Char
  | '/' :: '/' :: rest =>
    let host := rest.takeWhile fun c => !isDelimiter c
    let path := rest.drop host.length
    (some host, if path.head?.any (· != '/') then '/' :: path else path)
  | cs => (none, cs)

end Url

namespace Request

/-- the request is sent to a host, so it has to name one -/
def isHttp (scheme : String) : Bool := scheme == "http" || scheme == "https"

def namesHost (r : Request) : Bool := r.host.any (· != "")

def ofUrl (text : String) : Except UrlError Request :=
  let (cs, fragment) := Url.withoutFragment (Url.unwrap text.toList)
  let full := if fragment = [] then cs else cs ++ '#' :: fragment
  let url := String.ofList full
  match Url.scheme? cs with
  | none => .error (.noScheme url)
  | some (scheme, rest) =>
    let (host, selector) := Url.hostAndSelector rest
    match Url.check (Url.authority full) with
    | .error e => .error e
    | .ok () =>
      .ok { scheme := String.ofList scheme
            host := host.map fun h => String.ofList (Url.unescape h)
            selector := String.ofList selector
            url }

/-- the request in the hands of a proxy at `host` that speaks `scheme` -/
def via (r : Request) (host scheme : String) : Request :=
  if r.scheme = "https" ∧ r.tunnel.getD "" = "" then { r with tunnel := r.host, host := some host }
  else { r with scheme, selector := r.url, host := some host }

/-- the first line of the request names the whole URL, as a proxy needs it -/
def sendsUrl (r : Request) : Bool := r.selector == r.url

end Request

end ProxyInjector
