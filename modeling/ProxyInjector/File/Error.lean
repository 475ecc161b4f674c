import ProxyInjector.Text.Quoted

/-!
# Faults of files

Why a path leads to no file: an obstacle on the way, or a NUL in it, with which no way can be
asked for.
-/

namespace ProxyInjector

inductive Obstacle where
  | missing
  /-- the way leads on from something that is no directory -/
  | notDirectory
  /-- a file was asked for -/
  | isDirectory
  | denied
  | nameTooLong
deriving DecidableEq, Repr

namespace Obstacle

def number : Obstacle → Nat
  | .missing => 2
  | .notDirectory => 20
  | .isDirectory => 21
  | .denied => 13
  | .nameTooLong => 36

def label : Obstacle → String
  | .missing => "FileNotFoundError"
  | .notDirectory => "NotADirectoryError"
  | .isDirectory => "IsADirectoryError"
  | .denied => "PermissionError"
  | .nameTooLong => "OSError"

def description : Obstacle → String
  | .missing => "No such file or directory"
  | .notDirectory => "Not a directory"
  | .isDirectory => "Is a directory"
  | .denied => "Permission denied"
  | .nameTooLong => "File name too long"

end Obstacle

inductive FileError where
  | blocked (o : Obstacle) (path : String)
  | embeddedNull
deriving DecidableEq, Repr

namespace FileError

def label : FileError → String
  | .blocked o _ => o.label
  | .embeddedNull => "ValueError"

def message : FileError → String
  | .blocked o path =>
    "[Errno " ++ toString o.number ++ "] " ++ o.description ++ ": " ++ Text.quoted path
  | .embeddedNull => "embedded null byte"

end FileError

end ProxyInjector
