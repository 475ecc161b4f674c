/-!
# Words in lines

`fill` sets words in lines, as many to a line as there is room for.
-/

namespace ProxyInjector.Text

def spaces (n : Nat) : List Char := List.replicate n ' '

def joinSpaced (parts : List (List Char)) : List Char := [' '].intercalate parts

/-- `line` is the line being filled, nearest word first, and `room` what is left of it -/
def fillFrom (width : Nat) (line : List (List Char)) (room : Nat) :
    List (List Char) → List (List Char)
  | [] => if line = [] then [] else [joinSpaced line.reverse]
  | w :: ws =>
    if line = [] then fillFrom width [w] (room - w.length) ws
    else if w.length + 1 ≤ room then fillFrom width (w :: line) (room - (w.length + 1)) ws
    else joinSpaced line.reverse :: fillFrom width [w] (width - w.length) ws

/-- words set in lines of `width` columns, of which the first has `first`; every line holds at
least one word -/
def fill (first width : Nat) (words : List (List Char)) : List (List Char) :=
  fillFrom width [] first words

end ProxyInjector.Text
