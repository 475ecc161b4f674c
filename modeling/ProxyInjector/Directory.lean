import ProxyInjector.File.Error
import ProxyInjector.File.Outside

/-!
# The working directory

A directory holds regular files under plain names, and no directories of its own.  It knows what
stands outside of it, where files can be of other kinds as well.

* `Directory.walk`     a row of names, each looked up where the names before it led to;
* `Directory.find`     what there is at the end of a path;
* `Directory.locate`   the file that text appended to a path goes to.  It is created if it is not
                       there.  Such a path is resolved before it is looked at, so that what is in
                       front of a double dot need not be there.
-/

namespace ProxyInjector

structure Directory where
  /-- the directory as messages name it -/
  path : String
  /-- where it is -/
  place : Place := (Path.names path.toList).filter (· != [])
  files : List (String × String) := []
  outside : Outside := {}
deriving DecidableEq, Repr

/-- where the text appended to a path goes -/
inductive Location where
  | here (name : String)
  | elsewhere (place : Place)
deriving DecidableEq, Repr

namespace Directory

/-! ## the files -/

def read? (d : Directory) (name : String) : Option String :=
  (d.files.find? fun f => f.1 == name).map (·.2)

def appendTo : List (String × String) → String → String → List (String × String)
  | [], name, text => [(name, text)]
  | f :: fs, name, text =>
    if f.1 == name then (f.1, f.2 ++ text) :: fs else f :: appendTo fs name text

/-- the directory after `text` was appended to a file that is created if need be -/
def append (d : Directory) (at? : Location) (text : String) : Directory :=
  match at? with
  | .here name => { d with files := appendTo d.files name text }
  | .elsewhere p => { d with outside := d.outside.append p text }

def waiting? (d : Directory) : Location → Option Nat
  | .here _ => none
  | .elsewhere p => d.outside.waiting? p

/-- the file is open to texts, but there is no room for them -/
def refuses (d : Directory) (l : Location) : Bool := (d.waiting? l).isSome

/-- there is no room for the text, which waits to be written -/
def delays (d : Directory) (l : Location) (text : String) : Bool :=
  (d.waiting? l).any (text.utf8ByteSize ≤ ·)

/-! ## finding them -/

/-- the name that leads from the directory to a place right below it -/
def nameHere? (d : Directory) (p : Place) : Option String :=
  if d.place = p.dropLast then p.getLast?.map String.ofList else none

def node? (d : Directory) (p : Place) : Option Node :=
  if p.isPrefixOf d.place then some .directory
  else if ((d.nameHere? p).bind d.read?).isSome then some .file
  else d.outside.node? p

/-- the place that a name leads to from a directory, be there something or not -/
def step (d : Directory) (p : Place) (name : List Char) : Except Obstacle Place :=
  match d.node? p with
  | none => .error .missing
  | some .file => .error .notDirectory
  | some .directory => if Path.isLongName name then .error .nameTooLong else .ok (Path.enter p name)

def walk (d : Directory) : Place → List (List Char) → Except Obstacle Place
  | p, [] => .ok p
  | p, name :: names =>
    match d.step p name with
    | .error o => .error o
    | .ok p => d.walk p names

def lookUp (d : Directory) (path : List Char) : Except Obstacle Node :=
  if path = [] then .error .missing
  else if Path.isLong path then .error .nameTooLong
  else match d.walk (Path.start d.place path) (Path.names path) with
    | .error o => .error o
    | .ok p =>
      match d.node? p with
      | some n => .ok n
      | none => .error .missing

def find (d : Directory) (path : String) : Except FileError Node :=
  if path.toList.contains '\x00' then .error .embeddedNull
  else (d.lookUp path.toList).mapError fun o => .blocked o path

/-! ## appending to them -/

/-- where the text appended to a place goes -/
def locationOf (d : Directory) (p : Place) : Location :=
  match d.nameHere? p with
  | some name => .here name
  | none => .elsewhere p

/-- what keeps text from being appended there -/
def bar? (d : Directory) : Location → Option Obstacle
  | .here _ => none
  | .elsewhere p => d.outside.bar? p

def locateAt (d : Directory) (p : Place) : Except Obstacle Location :=
  if Path.isLong (Path.written p) then .error .nameTooLong
  else match d.walk [] p with
    | .error o => .error o
    | .ok q =>
      if d.node? q = some .directory then .error .isDirectory
      else match d.bar? (d.locationOf q) with
        | some o => .error o
        | none => .ok (d.locationOf q)

/-- a place as messages name it -/
def shownPlace (d : Directory) (p : Place) : List Char :=
  if d.place ≠ [] ∧ d.place.isPrefixOf p then
    d.path.toList ++ (p.drop d.place.length).flatMap ('/' :: ·)
  else Path.written p

def locate (d : Directory) (path : String) : Except FileError Location :=
  let cs := path.toList
  if cs.contains '\x00' then .error .embeddedNull
  else
    let p := Path.resolve d.place cs
    let front := if Path.isDoubled cs then ['/'] else []
    (d.locateAt p).mapError fun o => .blocked o (String.ofList (front ++ d.shownPlace p))

end Directory

end ProxyInjector
