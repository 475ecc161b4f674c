import ProxyInjector.CommandLine.Usage
import ProxyInjector.Template.Rendering
import ProxyInjector.Text.Running

/-!
# Help and versions

The help text shows the usage, a description, and a section for each of the two sorts of flags,
with the help texts of the flags in a column of their own.  The help text of a flag is a template
that is filled in with what is known of the flag, and so is the text of a version with the name of
the program.

* `Parser.help`          the help text, or what cannot be shown;
* `Parser.versionText`   the text of a version.
-/

namespace ProxyInjector.CommandLine

open Template (Filling View)
open Text (spaces setText)

/-- the column where help texts start at the latest -/
def helpColumn : Nat := 24

/-- the narrowest column of help texts -/
def leastWidth : Nat := 11

/-- a template filled in with these fields -/
def fillIn (template : String) (fields : List (String × Filling)) (whole : Filling) :
    Except Unsuited (List Char) :=
  let view : View := ⟨fun name => (fields.find? fun f => f.1.toList == name).map (·.2), whole⟩
  (Template.render template.toList view).mapError .template

namespace Flag

/-- how the flag is given, in all its spellings -/
def spelling (f : Flag) : List Char :=
  (if f.isPositional then f.placeholder
    else if f.arity.isZero then ", ".intercalate f.names
    else ", ".intercalate (f.names.map fun n => n ++ " " ++ f.arguments)).toList

/-- the room that the spelling takes; a positional flag is measured by its stand-in, which may be
no text -/
def measure (f : Flag) : Except Unsuited Nat :=
  match f.isPositional, f.standIn with
  | false, _ | _, .null | _, .text _ => .ok f.spelling.length
  | _, .list vs => .ok vs.length
  | _, .object fs => .ok fs.length
  | _, v => .error (.noLength v.kind)

/-! ## help texts -/

def choicesField (f : Flag) : Except Unsuited Filling :=
  match f.choices with
  | none => .ok (.value .null)
  | some (.closed kind) => .error (.notIterable kind)
  | some c => .ok (.text (", ".intercalate (c.values.map Value.shown)))

/-- what the help text of a flag can ask for -/
def fields (program : String) (f : Flag) : Except Unsuited (List (String × Filling)) :=
  f.choicesField.map fun choices => [
    ("option_strings", .value (.list (f.names.map .text))),
    ("dest", .text f.target),
    ("nargs", .value f.arity.setting),
    ("const", .value f.constant),
    ("type", .value ((f.conversion.map fun c => .text c.name).getD .null)),
    ("choices", choices),
    ("required", .value (.bool f.required)),
    ("help", .value f.help),
    ("metavar", .value f.standIn),
    ("container", .shown "_ArgumentGroup" "<argparse._ArgumentGroup object>"),
    ("prog", .text program)]
    ++ (f.default.map fun v => ("default", Filling.value v)).toList
    ++ if f.action = .version then [("version", .value f.version)] else []

/-- the help text filled in -/
def expanded (program : String) (f : Flag) (help : String) : Except Unsuited (List Char) :=
  (f.fields program).bind fun fields => fillIn help fields (.shown "dict" "\x7b\x7d")

/-- the flag, and its help text at the column `position` -/
def helpEntry (program : String) (position : Nat) (f : Flag) : Except Unsuited (List Char) :=
  f.measure.bind fun size =>
  let head := spaces 2 ++ f.spelling
  let isShort := size + 4 ≤ position
  let start := if isShort then head ++ spaces (max 2 (position - head.length)) else head ++ ['\n']
  if !f.help.truthy then .ok (head ++ ['\n'])
  else match f.help with
  | .text help =>
    if Text.trim help.toList = [] then .ok (if isShort then start ++ ['\n'] else start)
    else (f.expanded program help).bind fun text =>
      match text, setText (max (textWidth - position) leastWidth) text with
      | [], _ => .ok start
      | _, [] => .error .blankHelp
      | _, l :: ls =>
        let first := if isShort then l else spaces position ++ l
        .ok (start ++ (first :: ls.map (spaces position ++ ·)).flatMap (· ++ ['\n']))
  | v => .error (.misuse (.noMember v.kind "strip"))

end Flag

namespace Parser

def helpSection (p : Parser) (position : Nat) (title : String) (flags : List Flag) :
    Except Unsuited (List Char) :=
  if flags.isEmpty then .ok []
  else (flags.mapM (Flag.helpEntry p.program position)).map fun entries =>
    ('\n' :: title.toList ++ [':', '\n']) ++ entries.flatten ++ ['\n']

/-- the help text, ending with a newline -/
def help (p : Parser) : Except Unsuited String := do
  let positional := p.flags.filter Flag.isPositional
  let optional := p.flags.filter fun f => !f.isPositional
  let sizes ← (positional ++ optional).mapM Flag.measure
  let position := min ((sizes.map (· + 2)).foldl max 0 + 2) helpColumn
  match p.usageChars? with
  | none => .error .brokenUsage
  | some usage =>
    let description := ['\n'].intercalate (setText textWidth p.description.toList)
    let first ← p.helpSection position "positional arguments" positional
    let second ← p.helpSection position "options" optional
    .ok (block (usage ++ ['\n', '\n'] ++ description ++ ['\n', '\n'] ++ first ++ second))

/-! ## versions -/

/-- the conversion that makes a version a template -/
def programMark : String := "%(prog)"

/-- the version with the name of the program filled in, if it asks for that -/
def filledVersion (p : Parser) (version : String) : Except Unsuited (List Char) :=
  if Text.occursIn programMark.toList version.toList then
    fillIn version [("prog", .text p.program)] (.value (.object [("prog", .text p.program)]))
  else .ok version.toList

/-- a collection that names the mark would be a template, and no collection is a text -/
def notVersion (kind : String) (items : List Value) : Unsuited :=
  if items.any (·.same (.text programMark)) then .notTemplate kind
  else .misuse (.notMatchable kind)

/-- the text of a version, ending with a newline; a parser has no version of its own -/
def versionText (p : Parser) (version : Value) : Except Unsuited String :=
  match version with
  | .text s => (p.filledVersion s).map fun text =>
    block (['\n'].intercalate (setText textWidth text))
  | .null => .error (.misuse (.noMember "ArgumentParser" "version"))
  | .list vs => .error (notVersion version.kind vs)
  | .object fs => .error (notVersion version.kind (fs.map fun f => .text f.1))
  | v => .error (.notContainer v.kind)

end Parser

end ProxyInjector.CommandLine
