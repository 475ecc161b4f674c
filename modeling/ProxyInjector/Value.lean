import ProxyInjector.Number.Digits
import ProxyInjector.Text.Quoted

/-!
# Values

Settings, arguments and store entries normally are texts, but a host program may hand over any
plain value, and every part of the library has to say what it does with one.

* `Value.truthy`   empty, zero and absent values count as false;
* `Value.shown`    a value as part of a message: a text as it is, anything else as `quoted`;
* `Value.same`     equality as keys compare: numbers by their value, whatever their form;
* `Misuse`         an operation was asked of a value of the wrong kind.
-/

namespace ProxyInjector

inductive Value where
  | null
  | bool (b : Bool)
  | int (n : Int)
  | double (d : Double)
  | text (s : String)
  | list (items : List Value)
  | object (fields : List (String × Value))
deriving Inhabited

namespace Value

/-- the name of a kind of value in messages -/
def kind : Value → String
  | .null => "NoneType"
  | .bool _ => "bool"
  | .int _ => "int"
  | .double _ => "float"
  | .text _ => "str"
  | .list _ => "list"
  | .object _ => "dict"

def truthy : Value → Bool
  | .null => false
  | .bool b => b
  | .int n => n != 0
  | .double d => !d.isZero
  | .text s => s != ""
  | .list items => !items.isEmpty
  | .object fields => !fields.isEmpty

mutual

def quoted : Value → String
  | .null => "None"
  | .bool true => "True"
  | .bool false => "False"
  | .int n => toString n
  | .double d => String.ofList d.chars
  | .text s => Text.quoted s
  | .list items => "[" ++ ", ".intercalate (quotedItems items) ++ "]"
  | .object fields => "\x7b" ++ ", ".intercalate (quotedFields fields) ++ "\x7d"

def quotedItems : List Value → List String
  | [] => []
  | v :: vs => v.quoted :: quotedItems vs

def quotedFields : List (String × Value) → List String
  | [] => []
  | (k, v) :: fs => (Text.quoted k ++ ": " ++ v.quoted) :: quotedFields fs

end

def shown : Value → String
  | .text s => s
  | v => v.quoted

@[simp] theorem shown_text (s : String) : (Value.text s).shown = s := rfl

/-- the integer that a value counts as -/
def integer? : Value → Option Int
  | .bool b => some (if b then 1 else 0)
  | .int n => some n
  | .double d => d.whole?
  | _ => none

def sameNumber (a b : Value) : Bool :=
  match a.integer?, b.integer? with
  | some m, some n => m == n
  | none, none =>
    match a, b with
    | .double x, .double y => x == y
    | _, _ => false
  | _, _ => false

mutual

def same : Value → Value → Bool
  | .null, .null => true
  | .text s, .text t => s == t
  | .list xs, .list ys => sameItems xs ys
  | .object xs, .object ys => xs.length == ys.length && sameFields xs ys
  | a, b => sameNumber a b

def sameItems : List Value → List Value → Bool
  | [], [] => true
  | x :: xs, y :: ys => x.same y && sameItems xs ys
  | _, _ => false

/-- each field of the first list stands in the second, in whatever place -/
def sameFields : List (String × Value) → List (String × Value) → Bool
  | [], _ => true
  | (k, v) :: fs, gs => (gs.any fun g => k == g.1 && v.same g.2) && sameFields fs gs

end

@[simp] theorem same_text (s t : String) : (Value.text s).same (.text t) = (s == t) := by
  simp [same]

def isText : Value → Bool
  | .text _ => true
  | _ => false

/-- lists and objects cannot be keys -/
def isKey : Value → Bool
  | .list _ => false
  | .object _ => false
  | _ => true

end Value

inductive Misuse where
  /-- the value has no operation of that name -/
  | noMember (owner member : String)
  /-- the value cannot be a key -/
  | notKey (kind : String)
  /-- a text was needed -/
  | notText (kind : String)
  /-- a pattern was matched against something that is no text -/
  | notMatchable (kind : String)
  /-- a file name was needed -/
  | notPath (kind : String)
  /-- a text was appended to a list -/
  | listPlusText
  /-- a text was appended to something else -/
  | plusText (kind : String)
  /-- something that is no text was appended to a text -/
  | textPlus (kind : String)
  /-- a text was needed as the name of a logger -/
  | notLoggerName
  /-- a number was needed as the level of a record -/
  | notLevel
  /-- an operation got two values for one of its arguments -/
  | givenTwice (operation argument : String)
deriving DecidableEq, Repr

namespace Misuse

def label : Misuse → String
  | .noMember .. => "AttributeError"
  | _ => "TypeError"

def message : Misuse → String
  | .noMember owner member => "'" ++ owner ++ "' object has no attribute '" ++ member ++ "'"
  | .notKey kind => "unhashable type: '" ++ kind ++ "'"
  | .notText kind => "str expected, not " ++ kind
  | .notMatchable kind => "expected string or bytes-like object, got '" ++ kind ++ "'"
  | .notPath kind => "expected str, bytes or os.PathLike object, not " ++ kind
  | .listPlusText => "can only concatenate list (not \"str\") to list"
  | .plusText kind => "unsupported operand type(s) for +: '" ++ kind ++ "' and 'str'"
  | .textPlus kind => "can only concatenate str (not \"" ++ kind ++ "\") to str"
  | .notLoggerName => "A logger name must be a string"
  | .notLevel => "level must be an integer"
  | .givenTwice operation argument =>
    operation ++ "() got multiple values for argument '" ++ argument ++ "'"

end Misuse

/-- the text that an operation named `member` is asked of -/
def Value.asText (member : String) : Value → Except Misuse String
  | .text s => .ok s
  | v => .error (.noMember v.kind member)

end ProxyInjector
