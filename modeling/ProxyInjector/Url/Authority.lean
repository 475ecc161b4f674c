import ProxyInjector.Text.Case
import ProxyInjector.Url.Error
import ProxyInjector.Url.IpLiteral

/-!
# The authority of a URL

The authority stands behind two slashes, up to the next slash, question mark or number sign: user
information up to an at sign, the host, and a port behind a colon.  A host that holds colons is
put in brackets.

* `authority`     the authority of a URL, or nothing if it has none;
* `check`         brackets enclose a whole host that is an address, and no character of the
                  authority is another form of a delimiter;
* `hostname`      the host of an authority in lower case, without brackets and port.  The zone of
                  an address keeps its case.
-/

namespace ProxyInjector.Url

/-! ## finding it -/

/-- line breaks and tabs do not count anywhere in a URL -/
def isIgnored (c : Char) : Bool := c == '\t' || c == '\r' || c == '\n'

def isDelimiter (c : Char) : Bool := c == '/' || c == '?' || c == '#'

def isSchemeChar (c : Char) : Bool := c.isAlphanum || c == '+' || c == '-' || c == '.'

/-- a URL without its scheme, if it has one -/
def withoutScheme (cs : List Char) : List Char :=
  match Text.cut? ':' cs with
  | some (scheme, rest) =>
    if scheme.head?.any Char.isAlpha && scheme.all isSchemeChar then rest else cs
  | none => cs

def authority (url : List Char) : List Char :=
  let cs := (url.dropWhile fun c => c.toNat ≤ 0x20).filter fun c => !isIgnored c
  match withoutScheme cs with
  | '/' :: '/' :: rest => rest.takeWhile fun c => !isDelimiter c
  | _ => []

/-! ## checking it -/

/-- an authority without its user information -/
def hostAndPort (authority : List Char) : List Char := Text.afterLast '@' authority

def checkHost (host : List Char) : Except UrlError Unit :=
  if host.head? = some 'v' then if isFuture host then .ok () else .error .badFuture
  else if isV4 host then .error .bracketedV4
  else if isV6 host then .ok ()
  else .error (.notAddress (String.ofList host))

def checkBrackets (authority : List Char) : Except UrlError Unit :=
  match authority.contains '[', authority.contains ']' with
  | false, false => .ok ()
  | true, true =>
    let cs := hostAndPort authority
    match Text.cut? '[' cs with
    | none => checkHost (Text.beforeFirst ':' cs)
    | some (before, rest) =>
      if before ≠ [] then .error .strayBracket
      else
        let after := Text.afterFirst ']' rest
        if after ≠ [] ∧ after.head? ≠ some ':' then .error .strayBracket
        else checkHost (Text.beforeFirst ']' rest)
  | _, _ => .error .strayBracket

/-- characters whose compatible form holds a slash, a question mark, a number sign, an at sign or
a colon -/
def lookalikes : List Nat := [
  0x2047, 0x2048, 0x2049, 0x2100, 0x2101, 0x2105, 0x2106, 0x2A74, 0xFE13, 0xFE16, 0xFE55, 0xFE56,
  0xFE5F, 0xFE6B, 0xFF03, 0xFF0F, 0xFF1A, 0xFF1F, 0xFF20]

def check (authority : List Char) : Except UrlError Unit :=
  match checkBrackets authority with
  | .error e => .error e
  | .ok () =>
    if authority.any fun c => lookalikes.contains c.toNat
    then .error (.lookalike (String.ofList authority)) else .ok ()

/-! ## the host -/

def host (authority : List Char) : List Char :=
  let cs := hostAndPort authority
  match Text.cut? '[' cs with
  | some (_, rest) => Text.beforeFirst ']' rest
  | none => Text.beforeFirst ':' cs

def hostname (authority : List Char) : List Char :=
  let cs := host authority
  match Text.cut? '%' cs with
  | some (name, zone) => Text.lowerFrom [] name ++ '%' :: zone
  | none => Text.lowerFrom [] cs

end ProxyInjector.Url
