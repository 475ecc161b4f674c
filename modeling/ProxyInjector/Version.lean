import ProxyInjector.Text.Segments
import ProxyInjector.Text.Integer
import ProxyInjector.Value

/-!
# Versions

A version is a public part, numbers and words separated by dots, and behind a plus sign a local
part.  `Version.parts` lists the pieces, the local part last and always present; `Part.ofText`
reads a piece as a number where it is one.
-/

namespace ProxyInjector.Version

inductive Part where
  | number (n : Int)
  | word (s : String)
deriving DecidableEq, Repr

def parts (version : String) : List String :=
  ((Text.segments '.' (Text.beforeFirst '+' version.toList))
    ++ [Text.afterFirst '+' version.toList]).map String.ofList

def Part.ofText (s : String) : Part := ((Text.integer? s.toList).map .number).getD (.word s)

/-- the version of this program -/
def current : String := "0.1.0"

/-- the version of a package that is not installed -/
def unknown : String := "0.0.0"

/-- the name under which this program is installed -/
def package : String := "agentproxy"

inductive LookupError where
  | noName
  | misuse (m : Misuse)
deriving DecidableEq, Repr

def LookupError.label : LookupError → String
  | .noName => "ValueError"
  | .misuse m => m.label

def LookupError.message : LookupError → String
  | .noName => "A distribution name is required."
  | .misuse m => m.message

/-- two spellings of a package name are the same if they differ in case only, or in which runs of
dashes, underscores and dots separate their words -/
def canonical : List Char → List Char
  | [] => []
  | c :: cs =>
    if c = '-' ∨ c = '_' ∨ c = '.' then
      match canonical cs with
      | '_' :: rest => '_' :: rest
      | rest => '_' :: rest
    else c.toLower :: canonical cs

/-- the version of an installed package; only this program is known to be installed -/
def lookup (name : Value) : Except LookupError String :=
  if !name.truthy then .error .noName
  else match name with
    | .text s =>
      .ok (if canonical s.toList = canonical package.toList then current else unknown)
    | v => .error (.misuse (.notMatchable v.kind))

end ProxyInjector.Version
