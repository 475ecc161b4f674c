import ProxyInjector.Table
import ProxyInjector.Fault

/-!
# Configuration stores

The networking code of a process reads its configuration from a store of keys and values.  There
are three kinds: properties in memory, which can be frozen against writing; a plain mapping of the
host program; and the environment of the process.

`Store.put` writes one entry and logs it.  Properties log before they write and the other two
after; no kind logs a write that it refuses by its own rules.  What a mapping or the environment
finds unsuited about a key or a value is a rejection of that key, and any other fault passes
through.
-/

namespace ProxyInjector

inductive Store where
  | properties (entries : Table) (frozen : Bool)
  | mapping (entries : Table)
  | environment (contents : Environment)

namespace Store

def entries : Store → Table
  | .properties t _ => t
  | .mapping t => t
  | .environment e => e.map fun v => (.text v.1, .text v.2)

/-- the value of a key, or `default` if it is not there -/
def get (s : Store) (key default : Value) : Except Fault Value :=
  match s with
  | .properties t _ | .mapping t =>
    if key.isKey then .ok ((t.get? key).getD default)
    else .error (.misuse (.notKey key.kind))
  | .environment e =>
    match key with
    | .text name => .ok (((e.get? name).map .text).getD default)
    | k => .error (.misuse (.notText k.kind))

/-- the value of a key given as text, null if it is not there; this reading never fails -/
def lookup (s : Store) (key : String) : Value :=
  match s with
  | .properties t _ | .mapping t => (t.get? (.text key)).getD .null
  | .environment e => ((e.get? key).map .text).getD .null

/-- the record of a write -/
def writeRecord (key value : Value) : Log.Record where
  level := Log.Level.debug
  logger := "agentproxy.store"
  message := key.shown ++ "=" ++ value.shown
  pattern := .text "%s=%s"
  arguments := [key.quoted, value.quoted]
  unit := "store"
  function := "set"

/-- where the record of a write is made -/
def site : Store → Log.Site
  | .properties .. => .properties
  | .mapping _ | .environment _ => .variables

def frozenReason : String := "write rejected, store is frozen"

/-- an unsuited key or value is a rejection of the key -/
def rejection (key : Value) (f : Fault) : Fault :=
  if f.isUnsuited then .rejected key (.text f.message) else f

def put (s : Store) (key value : Value) (c : Console) : Except Fault Store × Console :=
  match s with
  | .properties t frozen =>
    if frozen then (.error (.rejected key (.text frozenReason)), c)
    else
      let c := c.emit (writeRecord key value) s.site
      if key.isKey then (.ok (.properties (t.put key value) frozen), c)
      else (.error (.misuse (.notKey key.kind)), c)
  | .mapping t =>
    if key.isKey then (.ok (.mapping (t.put key value)), c.emit (writeRecord key value) s.site)
    else (.error (rejection key (.misuse (.notKey key.kind))), c)
  | .environment e =>
    match Environment.check key value with
    | .ok (name, v) => (.ok (.environment (e.put name v)), c.emit (writeRecord key value) s.site)
    | .error f => (.error (rejection key (.variable f)), c)

/-- a fault of the host program while it writes for the store -/
def hostFault (s : Store) (key : Value) (f : Fault) : Fault :=
  match s with
  | .properties .. => f
  | _ => rejection key f

/-- only properties can be emptied -/
def clear : Store → Except Fault Store
  | .properties _ frozen => .ok (.properties [] frozen)
  | _ => .error (.misuse (.noMember "EnvironStore" "clear"))

/-- freezing means something to properties only -/
def freeze (s : Store) (frozen : Bool) : Store :=
  match s with
  | .properties t _ => .properties t frozen
  | s => s

end Store

end ProxyInjector
