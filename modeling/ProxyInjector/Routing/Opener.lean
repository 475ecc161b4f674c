import ProxyInjector.Routing.Exemption
import ProxyInjector.Routing.Local
import ProxyInjector.Routing.Proxy

/-!
# Openers

An opener sends requests over the network, some of them through proxies.  Its table names a proxy
for each scheme, in any case; of two entries for one scheme the later counts.  Two names stand for
more than a scheme: the entry `default` is asked before that of the scheme, whatever it is, and
the entry `unknown` where nobody knows the scheme.

A proxy is passed by if the opener's patterns or the environment exempt the host of the request.
A proxy that speaks another scheme than the request makes the request start over as one of that
scheme, except that https stays what it is (`Opener.through`).  Two proxies may hand a request to
each other for ever; the number of entries bounds the restarts of a request that arrives
(`Opener.openFrom`).
-/

namespace ProxyInjector.Routing

structure Opener where
  proxies : List (String × Value)
  /-- the patterns of exempt hosts in lower case; an opener may do without -/
  patterns : Option (List String)
  environment : Environment
  /-- where files are looked for -/
  directory : Directory

/-- what becomes of a request -/
inductive Delivery where
  | sent (r : Request)
  /-- answered without the network -/
  | answered (source : Local.Source)
deriving DecidableEq, Repr

/-- what a proxy makes of a request -/
inductive Handed where
  /-- the request goes on -/
  | on (r : Request)
  /-- the request starts over in the proxy's scheme -/
  | over (r : Request)
deriving DecidableEq, Repr

namespace Opener

def exempting (proxies : List (String × Value)) (patterns : List String) (e : Environment)
    (d : Directory) : Opener :=
  ⟨proxies, some (patterns.map Text.lower), e, d⟩

/-- an opener with no patterns of its own -/
def plain (proxies : List (String × Value)) (e : Environment) (d : Directory) : Opener :=
  ⟨proxies, none, e, d⟩

/-! ## the table -/

/-- a name under which an entry is found: underscores end the name, and two are taken -/
def isName (scheme : String) : Bool :=
  !scheme.toList.contains '_' && scheme != "do" && scheme != "proxy"

/-- an entry of that name is no scheme's, but it takes part in the handling of errors -/
def handlesErrors (scheme : String) : Bool :=
  match Text.cut? '_' scheme.toList with
  | some (_, rest) => "error".toList.isPrefixOf rest
  | none => false

def schemes (o : Opener) : List String := o.proxies.map fun p => Text.lower p.1

/-- the table takes part in the work of the opener at all -/
def isActive (o : Opener) : Bool := o.schemes.any fun s => isName s || handlesErrors s

/-- the names of the entries, sorted -/
def hooks (o : Opener) : List String :=
  (o.schemes.map (· ++ "_open")).eraseDups.mergeSort fun a b => decide (a ≤ b)

def proxyFor? (o : Opener) (scheme : String) : Option Value :=
  if isName scheme then
    (o.proxies.reverse.find? fun p => Text.lower p.1 == scheme).map (·.2)
  else none

/-! ## exempt hosts -/

/-- the opener's own patterns exempt the host of the request -/
def spares (o : Opener) (r : Request) : Except UrlError Bool :=
  match o.patterns, r.host with
  | some patterns, some host => if host = "" then .ok false else exempts patterns host
  | _, _ => .ok false

def environmentSpares (o : Opener) (r : Request) : Bool :=
  r.host.any fun host => host != "" && environmentExempts o.environment host

/-! ## opening -/

def hand (o : Opener) (proxy : Value) (r : Request) : Except UrlError Handed :=
  match o.spares r with
  | .error e => .error e
  | .ok true => .ok (.on r)
  | .ok false =>
    match Proxy.ofValue proxy with
    | .error e => .error e
    | .ok p =>
      if o.environmentSpares r then .ok (.on r)
      else
        let scheme := p.scheme.getD r.scheme
        let credentials := match p.credentials? with | some c => some c | none => r.credentials
        let handed := { r.via p.host scheme with credentials }
        if r.scheme = scheme ∨ r.scheme = "https" then .ok (.on handed) else .ok (.over handed)

/-- the request past the entry of that name, if there is one -/
def through (o : Opener) (name : String) (r : Request) : Except UrlError Handed :=
  match o.proxyFor? name with
  | some proxy => o.hand proxy r
  | none => .ok (.on r)

/-- the schemes that go over the network -/
def isNetwork (scheme : String) : Bool := Request.isHttp scheme || scheme == "ftp"

/-- the answer to a request that was made in `scheme`: over http an answer has a status, and what
is answered without the network has none -/
def receive (scheme : String) : Delivery → Except UrlError Delivery
  | .answered source =>
    if Request.isHttp scheme then .error (.noStatus source.holder) else .ok (.answered source)
  | .sent r => .ok (.sent r)

def openFrom (o : Opener) : (fuel : Nat) → Request → Except UrlError Delivery
  | 0, _ => .error .endless
  | fuel + 1, r =>
    if Request.isHttp r.scheme && !r.namesHost then .error .noHost
    else
      let delivery : Except UrlError Delivery := match o.through "default" r with
        | .error e => .error e
        | .ok (.over r) => o.openFrom fuel r
        | .ok (.on r) =>
          let scheme := r.scheme
          match o.through scheme r with
          | .error e => .error e
          | .ok (.over r) => o.openFrom fuel r
          | .ok (.on r) =>
            if isNetwork scheme then .ok (.sent r)
            else match Local.answer o.directory scheme r with
            | .error e => .error e
            | .ok (some source) => .ok (.answered source)
            | .ok none =>
              if scheme = "unknown" then .error (.unknownScheme r.scheme)
              else match o.through "unknown" r with
              | .error e => .error e
              | .ok (.over r) => o.openFrom fuel r
              | .ok (.on r) => .error (.unknownScheme r.scheme)
      match delivery with
      | .error e => .error e
      | .ok delivery => receive r.scheme delivery

def openRequest (o : Opener) (r : Request) : Except UrlError Delivery :=
  o.openFrom (o.proxies.length + 1) r

def openUrl (o : Opener) (url : String) : Except UrlError Delivery :=
  match Request.ofUrl url with
  | .error e => .error e
  | .ok r => o.openRequest r

def openValue (o : Opener) (v : Value) : Except UrlError Delivery :=
  match v.asText "timeout" with
  | .error m => .error (.misuse m)
  | .ok url => o.openUrl url

end Opener

end ProxyInjector.Routing
