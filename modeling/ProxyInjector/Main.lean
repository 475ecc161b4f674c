import ProxyInjector.Program.Run

/-!
# The program

One run over the arguments of the process: what it printed goes to the two output streams, what it
logged to the end of the log files, and how it ended becomes the exit status.
-/

open ProxyInjector Program

/-- the exit status of a run, and what is said about a fault that nobody handled -/
def exitStatus : Except Ending Injection → UInt32 × String
  | .ok _ => (0, "")
  | .error (.exit status) => (status.toUInt32, "")
  | .error (.fault f) => (1, f.label ++ ": " ++ f.message ++ "\n")

/-- a place and all above it -/
def wayTo (place : Place) : List Place := (List.range (place.length + 1)).map fun n => place.take n

/-- the places that words may name, by themselves or behind an equals sign, with the ways there -/
def placesOf (place : Place) (words : List String) : List Place :=
  words.flatMap fun word =>
    wayTo (Path.resolve place word.toList)
      ++ wayTo (Path.resolve place (Text.afterFirst '=' word.toList))

/-- what there is at these places -/
def lookAround (places : List Place) : IO Outside := do
  let root ← IO.currentDir
  let mut outside : Outside := {}
  for place in places do
    let path := root / String.ofList (Path.written place)
    if ← path.isDir then
      outside := { outside with directories := place :: outside.directories }
    else if ← path.pathExists then
      outside := { outside with files := { place } :: outside.files }
  return outside

def appendText (path text : String) : IO Unit :=
  IO.FS.withFile path .append fun file => file.putStr text

def main (args : List String) : IO UInt32 := do
  let bare : Directory := { path := (← IO.currentDir).toString }
  let outside ← lookAround (placesOf bare.place args)
  let start : ProcessState := { console := { directory := { bare with outside } } }
  let (ending, after) := start.main { args := .list (args.map .text) }
  let (status, complaint) := exitStatus ending
  for (name, text) in after.console.directory.files do
    appendText (bare.path ++ "/" ++ name) text
  for file in after.console.directory.outside.files do
    if file.content != "" || !(outside.file? file.place).isSome then
      appendText (String.ofList (Path.written file.place)) file.content
  IO.print after.console.out.text
  IO.eprint (after.console.err.text ++ complaint)
  return status
