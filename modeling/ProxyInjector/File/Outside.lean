import ProxyInjector.File.Error
import ProxyInjector.File.Path

/-!
# What stands elsewhere

Outside of the directory that a program works in there are other directories and files.  What is
not listed is not there.

* `Intake`            what a file does with the text that is appended to it;
* `Outside.bar?`      what keeps text from being appended to the file at a place;
* `Outside.waiting?`  how much text can wait in front of a file that has no room for it;
* `Outside.append`    what is appended to a file is kept there, if the file keeps anything.
-/

namespace ProxyInjector

/-- what there can be at a place -/
inductive Node where
  | directory
  | file
deriving DecidableEq, Repr

/-- what a file does with the text that is appended to it -/
inductive Intake where
  | keeps
  /-- it takes every text and keeps none -/
  | drops
  /-- It can be opened, but there is no room in it for any text.  One of at most so many bytes
  waits in front of it, and a longer one is lost. -/
  | refuses (waiting : Nat)
  /-- it cannot be opened for that -/
  | shut (o : Obstacle)
deriving DecidableEq, Repr

structure OutsideFile where
  place : Place
  content : String := ""
  intake : Intake := .keeps
deriving DecidableEq, Repr

structure Outside where
  directories : List Place := []
  files : List OutsideFile := []
  /-- places at and below which nothing is created, and what is met there instead -/
  sealed : List (Place × Obstacle) := []
deriving DecidableEq, Repr

namespace OutsideFile

def append (f : OutsideFile) (text : String) : OutsideFile :=
  match f.intake with
  | .keeps => { f with content := f.content ++ text }
  | .drops | .refuses _ | .shut _ => f

def lock? (f : OutsideFile) : Option Obstacle :=
  match f.intake with
  | .shut o => some o
  | .keeps | .drops | .refuses _ => none

/-- how many bytes can wait in front of the file, if it has no room for them -/
def waiting? (f : OutsideFile) : Option Nat :=
  match f.intake with
  | .refuses n => some n
  | .keeps | .drops | .shut _ => none

end OutsideFile

namespace Outside

def file? (o : Outside) (p : Place) : Option OutsideFile := o.files.find? fun f => f.place == p

def node? (o : Outside) (p : Place) : Option Node :=
  if o.directories.contains p then some .directory
  else if (o.file? p).isSome then some .file
  else none

def bar? (o : Outside) (p : Place) : Option Obstacle :=
  match o.file? p with
  | some f => f.lock?
  | none => (o.sealed.find? fun s => s.1.isPrefixOf p).map (·.2)

def waiting? (o : Outside) (p : Place) : Option Nat := (o.file? p).bind (·.waiting?)

def appendTo : List OutsideFile → Place → String → List OutsideFile
  | [], p, text => [{ place := p, content := text }]
  | f :: fs, p, text =>
    if f.place == p then f.append text :: fs else f :: appendTo fs p text

/-- what is there after `text` was appended to a file that is created if need be -/
def append (o : Outside) (p : Place) (text : String) : Outside :=
  { o with files := appendTo o.files p text }

end Outside

end ProxyInjector
