import ProxyInjector.Text.Segments
import ProxyInjector.Url.Percent

/-!
# IP addresses as hosts

* `isV4`       four decimal numbers below 256 without superfluous zeros, joined by dots;
* `isV6`       eight groups of up to four hex digits joined by colons, where a double colon stands
               for one run of zero groups, the last two groups may be written as a version 4
               address, and a zone may follow behind a percent sign;
* `isFuture`   the letter v, a version in hex digits, a dot and at least one character more.
-/

namespace ProxyInjector.Url

def isOctet (cs : List Char) : Bool :=
  cs != [] && cs.all Char.isDigit && cs.length ≤ 3 && !(cs.length > 1 && cs.head? == some '0')
    && cs.foldl (fun n c => 10 * n + (c.toNat - 48)) 0 ≤ 255

def isV4 (cs : List Char) : Bool :=
  let octets := Text.segments '.' cs
  octets.length == 4 && octets.all isOctet && !cs.contains '/'

def isGroup (cs : List Char) : Bool :=
  cs != [] && cs.length ≤ 4 && cs.all fun c => (Text.hexValue? c).isSome

/-- the parts between the colons, with a version 4 ending counted as two groups -/
def groups? (parts : List (List Char)) : Option (List (List Char)) :=
  match parts.getLast? with
  | none => none
  | some last =>
    if last.contains '.' then
      if isV4 last then some (parts.dropLast ++ [['0'], ['0']]) else none
    else some parts

/-- groups on one side of a double colon; the outer end is empty only if the side is -/
def isSide (groups : List (List Char)) : Bool := groups == [[]] || groups.all isGroup

/-- `before` are the groups in front of the first empty one that is not the first -/
def isGroups (groups : List (List Char)) : Bool :=
  let inner := groups.drop 1 |>.dropLast
  match inner.takeWhile (· != []), inner.dropWhile (· != []) with
  | _, [] => groups.length == 8 && groups.all isGroup
  | before, _ :: after =>
    let front := groups.take 1 ++ before
    let back := after ++ groups.drop (groups.length - 1)
    let size (side : List (List Char)) := (side.filter (· != [])).length
    isSide front && isSide back && size front + size back ≤ 7

def isV6Groups (cs : List Char) : Bool :=
  let parts := Text.segments ':' cs
  3 ≤ parts.length &&
    match groups? parts with
    | some groups => groups.length ≤ 9 && isGroups groups
    | none => false

def isV6 (cs : List Char) : Bool :=
  !cs.contains '/' &&
    match Text.cut? '%' cs with
    | none => isV6Groups cs
    | some (address, zone) => zone != [] && !zone.contains '%' && isV6Groups address

def isFuture (cs : List Char) : Bool :=
  match cs with
  | 'v' :: rest =>
    let version := rest.takeWhile fun c => (Text.hexValue? c).isSome
    version != [] &&
      match rest.dropWhile fun c => (Text.hexValue? c).isSome with
      | '.' :: tail => tail != [] && !tail.contains '\n'
      | _ => false
  | _ => false

end ProxyInjector.Url
