import ProxyInjector.Address
import ProxyInjector.Value

/-!
# Proxy descriptors

A descriptor is a proxy's host and port exactly as they were given; neither is checked, and both
may be empty.

* `Descriptor.parse?`        reads `host:port`: exactly one colon, anything around it;
* `Descriptor.toString`      writes it again; the two are inverse on texts with one colon;
* `Descriptor.ofAddress`     the descriptor under which a proxy that listens on an address can be
                             reached.  A wildcard host becomes the loopback host, and a text that
                             is no address counts as a bare port on it.
-/

namespace ProxyInjector

structure Descriptor where
  host : String
  port : String
deriving DecidableEq, Repr

namespace Descriptor

protected def toString (d : Descriptor) : String := d.host ++ ":" ++ d.port

instance : ToString Descriptor := ⟨Descriptor.toString⟩

/-- the descriptor with its parts by name -/
def quoted (d : Descriptor) : String :=
  "ProxyDescriptor(host=" ++ Text.quoted d.host ++ ", port=" ++ Text.quoted d.port ++ ")"

/-- a descriptor of plain values, which have to be texts; the host is looked at first -/
def ofValues (host port : Value) : Except Misuse Descriptor :=
  match host, port with
  | .text host, .text port => .ok ⟨host, port⟩
  | .text _, port => .error (.textPlus port.kind)
  | .list _, _ => .error .listPlusText
  | host, _ => .error (.plusText host.kind)

def urlPrefix : String := "http://"

def url (d : Descriptor) : String := urlPrefix ++ d.toString

def parse? (raw : String) : Option Descriptor :=
  match Text.segments ':' raw.toList with
  | [host, port] => some ⟨String.ofList host, String.ofList port⟩
  | _ => none

/-- a text without the colon it may start with -/
def withoutColon (s : String) : String :=
  match s.toList with
  | ':' :: cs => String.ofList cs
  | _ => s

def ofAddress (address : String) : Descriptor :=
  match Address.split? address with
  | .error _ => ⟨Address.loopback, withoutColon address⟩
  | .ok (host, port) => ⟨if Address.isWildcard host then Address.loopback else host, port⟩

end Descriptor

end ProxyInjector
