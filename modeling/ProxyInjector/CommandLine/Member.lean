import ProxyInjector.CommandLine.Unsuited

/-!
# Names that the values keep to themselves

The collection of the values that a command line sets answers to some names by itself.  A flag
with such a target has no default there, and while it is not given, what it adds to is what the
collection answers.  Most of these names can be set all the same (`checkTarget`).
-/

namespace ProxyInjector.CommandLine

/-- what stands under a target -/
inductive Held where
  | value (v : Value)
  /-- an answer of the collection, of that kind -/
  | own (kind : String)

def methodNames : List String :=
  ["_get_args", "_get_kwargs", "__contains__", "__eq__", "__init__", "__repr__"]

/-- methods that every object has, in two kinds -/
def wrapperNames : List String :=
  ["__delattr__", "__ge__", "__getattribute__", "__gt__", "__le__", "__lt__", "__ne__",
    "__setattr__", "__str__"]

def builtinNames : List String :=
  ["__dir__", "__format__", "__getstate__", "__init_subclass__", "__new__", "__reduce__",
    "__reduce_ex__", "__sizeof__", "__subclasshook__"]

/-- what the collection answers to a name by itself -/
def Held.own? (target : String) : Option Held :=
  if methodNames.contains target then some (.own "method")
  else if wrapperNames.contains target then some (.own "method-wrapper")
  else if builtinNames.contains target then some (.own "builtin_function_or_method")
  else match target with
  | "__class__" => some (.own "type")
  | "__dict__" => some (.own "dict")
  | "__doc__" | "__module__" => some (.own "str")
  | "__hash__" | "__weakref__" => some (.value .null)
  | _ => none

/-- what the collection answers itself even if something else is set under the name -/
def ownFirst : List String := ["__class__", "__dict__", "__weakref__"]

/-- the target that stands for all the values -/
def tableTarget : String := "__dict__"

/-- a target may be set to a value -/
def checkTarget (target : String) (v : Value) : Except Unsuited Unit :=
  match target with
  | "__class__" => .error (.notClass v.kind)
  | "__dict__" => .error (.notTable v.kind)
  | "__weakref__" => .error (.notWritable target)
  | _ => .ok ()

end ProxyInjector.CommandLine
