import ProxyInjector.Text.Base64
import ProxyInjector.Text.Utf8
import ProxyInjector.Request

/-!
# Proxies as URLs name them

A proxy is written as a URL, of which only the authority counts, or as a bare authority.  User and
password, if both are given, become the credentials that the proxy is told.
-/

namespace ProxyInjector.Routing

structure Proxy where
  /-- the scheme that the proxy speaks; `none` if it is that of each request -/
  scheme : Option String
  user : Option (List Char) := none
  password : Option (List Char) := none
  /-- host and port, still with their escapes -/
  address : List Char
deriving DecidableEq, Repr

namespace Proxy

/-- user, password and address of an authority -/
def ofAuthority (scheme : Option String) (cs : List Char) : Proxy :=
  match Text.cutLast? '@' cs with
  | none => { scheme, address := cs }
  | some (info, address) =>
    match Text.cut? ':' info with
    | none => { scheme, user := some info, address }
    | some (user, password) => { scheme, user := some user, password := some password, address }

/-- the authority behind two slashes.  It ends at the first slash, or at the first behind an at
sign if there is one. -/
def authorityOf (cs : List Char) : List Char :=
  match Text.cut? '@' cs with
  | none => cs.takeWhile (· != '/')
  | some (info, rest) => info ++ '@' :: rest.takeWhile (· != '/')

def ofText (proxy : String) : Except UrlError Proxy :=
  let cs := proxy.toList
  let (scheme, rest) :=
    match Url.scheme? cs with
    | some (scheme, rest) => (some (String.ofList scheme), rest)
    | none => (none, cs)
  match rest with
  | '/' :: '/' :: rest => .ok (ofAuthority scheme (authorityOf rest))
  | '/' :: _ => .error (.proxyWithoutAuthority proxy)
  | _ => .ok (ofAuthority none cs)

def ofValue (v : Value) : Except UrlError Proxy :=
  match v with
  | .text s => ofText s
  | v => .error (.misuse (.notMatchable v.kind))

/-- host and port -/
def host (p : Proxy) : String := String.ofList (Url.unescape p.address)

/-- user and password in the basic scheme of authentication -/
def credentials? (p : Proxy) : Option String :=
  match p.user, p.password with
  | some (u :: user), some (w :: word) =>
    let pair := Url.unescape (u :: user) ++ ':' :: Url.unescape (w :: word)
    some ("Basic " ++ String.ofList (Text.Base64.encode (Text.Utf8.encode pair)))
  | _, _ => none

end Proxy

end ProxyInjector.Routing
