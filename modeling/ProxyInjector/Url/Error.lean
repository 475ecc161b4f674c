import ProxyInjector.File.Error
import ProxyInjector.Text.Base64
import ProxyInjector.Url.HostName
import ProxyInjector.Value

/-!
# Faults of URLs

Why a URL cannot be read, or a request for it not be sent.
-/

namespace ProxyInjector

inductive UrlError where
  /-- brackets that do not enclose exactly the host -/
  | strayBracket
  /-- a bracketed host of a future version of the protocol that is not well formed -/
  | badFuture
  | bracketedV4
  /-- a bracketed host that is no address -/
  | notAddress (host : String)
  /-- an authority with a character that is equivalent to a delimiter -/
  | lookalike (authority : String)
  | noScheme (url : String)
  | proxyWithoutAuthority (proxy : String)
  | misuse (m : Misuse)
  | noHost
  | unknownScheme (scheme : String)
  | file (e : FileError)
  /-- a file of another machine -/
  | otherMachine
  /-- a file whose path starts with the name of a machine -/
  | foreignFile
  | hostName (e : Url.HostNameError)
  | nullInHost
  /-- data without the comma in front of it -/
  | noData
  /-- data that cannot be decoded -/
  | data (e : Text.Base64.DecodeError)
  /-- an answer without a status, and the name of what holds it -/
  | noStatus (holder : String)
  /-- proxies that hand a request to each other without end -/
  | endless
deriving DecidableEq, Repr

namespace UrlError

def label : UrlError → String
  | .misuse m => m.label
  | .noHost | .unknownScheme _ | .file (.blocked ..) | .otherMachine | .foreignFile => "URLError"
  | .file .embeddedNull => FileError.label .embeddedNull
  | .hostName _ => "UnicodeError"
  | .nullInHost => "TypeError"
  | .noStatus _ => "AttributeError"
  | .data e => e.label
  | .endless => "RecursionError"
  | _ => "ValueError"

/-- a request that could not be sent -/
def unsent (reason : String) : String := "<urlopen error " ++ reason ++ ">"

/-- a host name that cannot be looked up -/
def badHost (reason : String) : String :=
  "encoding with 'idna' codec failed (UnicodeError: " ++ reason ++ ")"

def message : UrlError → String
  | .strayBracket => "Invalid IPv6 URL"
  | .badFuture => "IPvFuture address is invalid"
  | .bracketedV4 => "An IPv4 address cannot be in brackets"
  | .notAddress h => Text.quoted h ++ " does not appear to be an IPv4 or IPv6 address"
  | .lookalike a =>
    "netloc '" ++ a ++ "' contains invalid characters under NFKC normalization"
  | .noScheme u => "unknown url type: " ++ Text.quoted u
  | .proxyWithoutAuthority p => "proxy URL with no authority: " ++ Text.quoted p
  | .misuse m => m.message
  | .noHost => unsent "no host given"
  | .unknownScheme s => unsent ("unknown url type: " ++ s)
  | .file .embeddedNull => FileError.message .embeddedNull
  | .file e => unsent e.message
  | .otherMachine => unsent "file not on local host"
  | .foreignFile => unsent "file:// scheme is supported only on localhost"
  | .hostName e => badHost e.message
  | .nullInHost =>
    "gethostbyname() argument 1 must be encoded string without null bytes, not str"
  | .noData => "not enough values to unpack (expected 2, got 1)"
  | .data e => e.message
  | .noStatus holder => "'" ++ holder ++ "' object has no attribute 'msg'"
  | .endless => "maximum recursion depth exceeded"

end UrlError

end ProxyInjector
