import ProxyInjector.Injection
import ProxyInjector.Routing.Opener

/-!
# What a store configures

The reading side of an injection: the proxies and the exempt hosts that the keys of a store name,
and the opener that goes by both.

* `Store.proxies`        a scheme has a proxy if its host and its port are both there and not
                         empty;
* `Store.exemptHosts`    the patterns between bars, trimmed, without empty ones;
* `Store.opener`         the opener that goes by both.
-/

namespace ProxyInjector

/-- the schemes that a store can name a proxy for, each with the keys of host and port -/
def Key.schemes : List (String × String × String) :=
  [("http", Key.httpHost, Key.httpPort), ("https", Key.httpsHost, Key.httpsPort)]

namespace Store

/-- the proxy of a scheme, from the keys of its host and port -/
def proxyOf? (s : Store) (hostKey portKey : String) : Option String :=
  let host := s.lookup hostKey
  let port := s.lookup portKey
  if host.truthy && port.truthy then
    some (Descriptor.urlPrefix ++ host.shown ++ ":" ++ port.shown) else none

def proxies (s : Store) : List (String × String) :=
  Key.schemes.filterMap fun (scheme, host, port) => (s.proxyOf? host port).map (scheme, ·)

/-- the patterns in a list separated by bars -/
def patternsIn (list : List Char) : List (List Char) :=
  ((Text.segments '|' list).map Text.trim).filter (· != [])

def exemptHosts (s : Store) : Except Misuse (List String) :=
  let v := s.lookup Key.exemptHosts
  if !v.truthy then .ok []
  else (v.asText "split").map fun list => (patternsIn list.toList).map String.ofList

def opener (s : Store) (e : Environment) (d : Directory) : Except Misuse Routing.Opener :=
  s.exemptHosts.map fun patterns =>
    .exempting (s.proxies.map fun p => (p.1, .text p.2)) patterns e d

end Store

end ProxyInjector
