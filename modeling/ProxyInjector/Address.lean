import ProxyInjector.Text.Segments
import ProxyInjector.Text.Quoted

/-!
# Network addresses

An address names a host and a port: `host:port`, `:port`, or `[host]:port` where the host itself
holds colons.  `Address.split?` takes it apart and `Address.join` writes it, with brackets exactly
if the host needs them.  `AddressError` says why a text is no address; of several faults the first
in the order of its constructors counts.
-/

namespace ProxyInjector

inductive AddressError where
  | missingBracket (address : String)
  | missingPort (address : String)
  | tooManyColons (address : String)
  | unexpectedBracket (address : String)
deriving DecidableEq, Repr

namespace AddressError

def label (_ : AddressError) : String := "ValueError"

def message : AddressError → String
  | .missingBracket a => "missing \"]\" in address " ++ Text.quoted a
  | .missingPort a => "missing port in address " ++ Text.quoted a
  | .tooManyColons a => "too many colons in address " ++ Text.quoted a
  | .unexpectedBracket a => "unexpected bracket in address " ++ Text.quoted a

end AddressError

namespace Address

def isBracket (c : Char) : Bool := c == '[' || c == ']'

/-- the two parts of an address before the port is looked at; the error still lacks the address -/
def parts : List Char → Except (String → AddressError) (List Char × List Char)
  | '[' :: cs =>
    match Text.cut? ']' cs with
    | none => .error .missingBracket
    | some (host, ':' :: port) => .ok (host, port)
    | some _ => .error .missingPort
  | cs =>
    match Text.cutLast? ':' cs with
    | none => .error .missingPort
    | some (host, port) => if ':' ∈ host then .error .tooManyColons else .ok (host, port)

def split? (address : String) : Except AddressError (String × String) :=
  match parts address.toList with
  | .error e => .error (e address)
  | .ok (host, port) =>
    if port.any isBracket then .error (.unexpectedBracket address)
    else .ok (String.ofList host, String.ofList port)

def join (host port : String) : String :=
  if host.toList.head? = some '[' ∨ ':' ∈ host.toList ∨ ':' ∈ port.toList
  then "[" ++ host ++ "]:" ++ port else host ++ ":" ++ port

/-- hosts that stand for every interface of the machine -/
def wildcards : List String := ["", "0.0.0.0", "::"]

def isWildcard (host : String) : Bool := wildcards.contains host

/-- the host that reaches the machine itself -/
def loopback : String := "127.0.0.1"

/-- names of the machine itself -/
def localHosts : List String := ["localhost", loopback, "::1"]

end Address

end ProxyInjector
