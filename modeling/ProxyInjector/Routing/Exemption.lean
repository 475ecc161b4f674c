import ProxyInjector.Glob
import ProxyInjector.Store.Environment
import ProxyInjector.Url.Authority
import ProxyInjector.Text.Blank

/-!
# Hosts exempt from proxies

* `exempts`               a list of glob patterns exempts a host if one of them matches it, port
                          and case aside;
* `environmentExempts`    the environment may list exempt domains, separated by commas, in a
                          variable `no_proxy`.  A domain exempts itself and every host under it,
                          with or without a port, and a lone star exempts all.
-/

namespace ProxyInjector.Routing

/-! ## patterns -/

/-- the name by which patterns know a host: no port, no brackets, lower case -/
def nameOf (host : String) : Except UrlError (List Char) :=
  let authority := Url.authority ('/' :: '/' :: host.toList)
  match Url.check authority with
  | .error e => .error e
  | .ok () => .ok (Text.lowerFrom [] (Url.hostname authority))

def matchesAny (patterns : List String) (name : List Char) : Bool :=
  patterns.any fun p => Glob.accepts (Glob.parse p.toList) name

def exempts (patterns : List String) (host : String) : Except UrlError Bool :=
  (nameOf host).map (matchesAny patterns)

/-- the same for a host that may be any value -/
def exemptsValue (patterns : List String) (host : Value) : Except UrlError Bool :=
  match host with
  | .text host => exempts patterns host
  | v => .error (.misuse (.textPlus v.kind))

/-! ## the environment -/

def exemptVariable : String := "no_proxy"

/-- the end of the variable's name; spelled in lower case it overrides other spellings, and then
an empty value removes what they said -/
def exemptVariableEnd : List Char := "_proxy".toList

/-- the list of exempt domains, if there is one.  The variable may be spelled in any case: first
all spellings count, the later over the earlier and none that is empty, and then once more those
with the end in lower case. -/
def exemptDomains? (e : Environment) : Option String :=
  let spellings := e.filter fun v => Text.lower v.1 == exemptVariable
  let any := spellings.foldl (fun found v => if v.2 = "" then found else some v.2) none
  let strict := spellings.filter fun v => exemptVariableEnd.isSuffixOf v.1.toList
  strict.foldl (fun _ v => if v.2 = "" then none else some v.2) any

/-- a host without its port, a number that may be missing behind the colon -/
def withoutPort (host : List Char) : List Char :=
  match Text.cutLast? ':' host with
  | some (name, port) => if port.all Char.isDigit then name else host
  | none => host

def isUnder (domain host : List Char) : Bool :=
  host == domain || ('.' :: domain).isSuffixOf host

def domainExempts (domain host : List Char) : Bool :=
  let domain := Text.trim domain
  domain != [] &&
    let domain := Text.lowerFrom [] (domain.dropWhile (· == '.'))
    isUnder domain (withoutPort host) || isUnder domain host

def environmentExempts (e : Environment) (host : String) : Bool :=
  match exemptDomains? e with
  | none => false
  | some list =>
    list = "*" ||
      (Text.segments ',' list.toList).any fun d => domainExempts d (Text.lowerFrom [] host.toList)

end ProxyInjector.Routing
