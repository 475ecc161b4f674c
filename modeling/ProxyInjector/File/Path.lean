import ProxyInjector.Text.Segments
import ProxyInjector.Text.Utf8

/-!
# Paths

A path is a row of names with slashes between them.  It starts at the root if a slash comes first,
and otherwise at the place where it is read.  A place is known by the names that lead to it from
the root.

* `Path.enter`     one name further: nothing and a single dot stay, a double dot goes back, and
                   the root is behind itself;
* `Path.resolve`   the place that a path means, whatever there is on the way;
* `Path.written`   a place as a path.
-/

namespace ProxyInjector

/-- the names that lead to a place from the root -/
abbrev Place := List (List Char)

namespace Path

def names (path : List Char) : List (List Char) := Text.segments '/' path

def isRooted (path : List Char) : Bool := path.head? == some '/'

/-- where a path starts that is read at `place` -/
def start (place : Place) (path : List Char) : Place := if isRooted path then [] else place

/-- two slashes in front, and no more, are not taken for one -/
def isDoubled (path : List Char) : Bool :=
  "//".toList.isPrefixOf path && (path.drop 2).head? != some '/'

def isProper (name : List Char) : Bool := name != [] && name != ['.'] && name != ['.', '.']

def enter (place : Place) (name : List Char) : Place :=
  if isProper name then place ++ [name]
  else if name = ['.', '.'] then place.dropLast
  else place

def resolve (place : Place) (path : List Char) : Place :=
  (names path).foldl enter (start place path)

def written : Place → List Char
  | [] => ['/']
  | place => place.flatMap ('/' :: ·)

/-! ## limits -/

def byteLength (cs : List Char) : Nat := (Text.Utf8.encode cs).length

/-- the longest name that a file may have, in bytes -/
def maxName : Nat := 255

/-- the longest path that can be asked for, in bytes -/
def maxPath : Nat := 4095

def isLongName (name : List Char) : Bool := maxName < byteLength name

def isLong (path : List Char) : Bool := maxPath < byteLength path

end Path

end ProxyInjector
