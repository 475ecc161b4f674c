import ProxyInjector.Template.Error
import ProxyInjector.Value

/-!
# Flags and arguments that do not fit

A flag may be registered with settings that do not fit together, which shows only when it is
given, when it is missing, or when it is shown to somebody.  An argument of a command line may be
no text.  `Unsuited` says what does not fit.
-/

namespace ProxyInjector.CommandLine

inductive Unsuited where
  | misuse (m : Misuse)
  | notIterable (kind : String)
  | listPlusNumber
  | plusNumber (kind : String)
  | notWithinText (kind : String)
  /-- a collection was needed to look for something in it -/
  | notContainer (kind : String)
  | notSubscriptable (kind : String)
  /-- an object was asked for its first item -/
  | noFirstItem
  /-- a length was needed -/
  | noLength (kind : String)
  /-- the integer of a number that has none -/
  | endless
  /-- an item that was to be joined with others to a text -/
  | joinedItem (place : Nat) (kind : String)
  /-- the collection of values keeps its class, its table and its links to itself -/
  | notClass (kind : String)
  | notTable (kind : String)
  | notWritable (member : String)
  | noClassMember (member : String)
  /-- a flag's target is no text -/
  | notTarget (kind : String)
  | template (e : TemplateError)
  /-- a list was filled in where a template should have been -/
  | notTemplate (kind : String)
  /-- a help text that comes to nothing -/
  | blankHelp
  /-- an option whose name is a dash and no more got a value that it does not take -/
  | bareDash
  /-- a usage is too long for a line and does not fall into the pieces it is made of -/
  | brokenUsage
deriving DecidableEq, Repr

namespace Unsuited

def label : Unsuited → String
  | .misuse m => m.label
  | .template e => e.label
  | .notWritable _ | .noClassMember _ => "AttributeError"
  | .bareDash | .blankHelp => "IndexError"
  | .noFirstItem => "KeyError"
  | .endless => "OverflowError"
  | .brokenUsage => "AssertionError"
  | _ => "TypeError"

def message : Unsuited → String
  | .misuse m => m.message
  | .notIterable kind => "'" ++ kind ++ "' object is not iterable"
  | .listPlusNumber => "can only concatenate list (not \"int\") to list"
  | .plusNumber kind => "unsupported operand type(s) for +: '" ++ kind ++ "' and 'int'"
  | .notWithinText kind => "'in <string>' requires string as left operand, not " ++ kind
  | .notContainer kind => "argument of type '" ++ kind ++ "' is not iterable"
  | .notSubscriptable kind => "'" ++ kind ++ "' object is not subscriptable"
  | .noFirstItem => "0"
  | .noLength kind => "object of type '" ++ kind ++ "' has no len()"
  | .endless => "cannot convert float infinity to integer"
  | .joinedItem place kind =>
    "sequence item " ++ toString place ++ ": expected str instance, " ++ kind ++ " found"
  | .notClass kind => "__class__ must be set to a class, not '" ++ kind ++ "' object"
  | .notTable kind => "__dict__ must be set to a dictionary, not a '" ++ kind ++ "'"
  | .notWritable member =>
    "attribute '" ++ member ++ "' of '_AttributeHolder' objects is not writable"
  | .noClassMember member => "type object 'Namespace' has no attribute '" ++ member ++ "'"
  | .notTarget kind => "attribute name must be string, not '" ++ kind ++ "'"
  | .template e => e.message
  | .notTemplate kind => "unsupported operand type(s) for %: '" ++ kind ++ "' and 'dict'"
  | .blankHelp => "list index out of range"
  | .bareDash => "string index out of range"
  | .brokenUsage => ""

end Unsuited

/-- the texts among `vs`, up to the first value that is none -/
def textsFrom (place : Nat) : List Value → Except Unsuited (List String)
  | [] => .ok []
  | .text s :: vs => (textsFrom (place + 1) vs).map (s :: ·)
  | v :: _ => .error (.joinedItem place v.kind)

/-- values joined to one text, which all of them have to be -/
def joinValues (separator : String) (vs : List Value) : Except Unsuited String :=
  (textsFrom 0 vs).map separator.intercalate

end ProxyInjector.CommandLine
