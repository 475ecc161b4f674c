import ProxyInjector.Text.CaseTable

/-!
# Lower and upper case

`lower` maps every character to its lower case.  Two characters need more than the table: a
dotted capital I becomes two characters, and a capital sigma that ends a word becomes the final
sigma.  On ASCII only the 26 capitals change (`lowerFrom_ascii`).

`upper` maps every character to its upper case, which for some is more than one character;
`capital` is the first of them.
-/

namespace ProxyInjector.Text

def isCased (c : Char) : Bool := inRanges casedRanges c.toNat

def isCaseIgnorable (c : Char) : Bool := inRanges caseIgnorableRanges c.toNat

/-- a sigma ends a word if a cased character stands before it and none behind it, case-ignorable
characters aside -/
def endsWord (before after : List Char) : Bool :=
  ((before.dropWhile isCaseIgnorable).head?.any isCased)
    && !((after.dropWhile isCaseIgnorable).head?.any isCased)

/-- the lower case of `c`; `before` is what precedes it, nearest first -/
def lowerChar (before : List Char) (c : Char) (after : List Char) : List Char :=
  if c.toNat < 0x80 then [c.toLower]
  else if c = 'Σ' then [if endsWord before after then 'ς' else 'σ']
  else if c = 'İ' then ['i', '\u0307']
  else [Char.ofNat (applyRuns lowerRuns c.toNat)]

def lowerFrom (before : List Char) : List Char → List Char
  | [] => []
  | c :: cs => lowerChar before c cs ++ lowerFrom (c :: before) cs

def lower (s : String) : String := String.ofList (lowerFrom [] s.toList)

/-- the first character of the upper case of `c` -/
def capital (c : Char) : Char :=
  if c.toNat < 0x80 then c.toUpper else Char.ofNat (applyRuns upperRuns c.toNat)

def upperChar (c : Char) : List Char :=
  capital c :: ((upperTails.lookup c.toNat).getD []).map Char.ofNat

def upper (s : String) : String := String.ofList (s.toList.flatMap upperChar)

theorem lowerFrom_ascii (cs : List Char) (h : ∀ c ∈ cs, c.toNat < 0x80) (before : List Char) :
    lowerFrom before cs = cs.map Char.toLower := by
  induction cs generalizing before with
  | nil => rfl
  | cons c cs ih =>
    rw [lowerFrom, ih (fun d hd => h d (List.mem_cons_of_mem _ hd)), lowerChar,
      if_pos (h c List.mem_cons_self)]
    rfl

end ProxyInjector.Text
