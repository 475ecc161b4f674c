import ProxyInjector.Text.Segments

/-!
# Glob patterns

A pattern matches a whole text.  A star stands for any run of characters, a question mark for any
one, and brackets for one character of a set; everything else stands for itself, an opening
bracket that is never closed included.

In a set two characters joined by a dash stand for the range between them, and an exclamation mark
in front turns the set around.  A closing bracket counts as a member at the start, a dash at
either end.  A range that runs backwards holds nothing and is left out with both its ends.

* `Glob.parse`     the pieces of a pattern;
* `Glob.accepts`   decides a match by filling, piece by piece, the row of answers for all ends of
                   the text, so that the time is the product of the two lengths;
* `Glob.Matches`   says when a text matches, by the ways it can be taken apart.

`Glob.accepts_iff` ties the last two together.
-/

namespace ProxyInjector

namespace Glob

/-! ## pieces -/

/-- what stands for one character -/
inductive One where
  | exactly (c : Char)
  | any
  | within (ranges : List (Char × Char))
  | without (ranges : List (Char × Char))
deriving DecidableEq, Repr

inductive Piece where
  | one (o : One)
  /-- any run of characters -/
  | run
deriving DecidableEq, Repr

def inside (ranges : List (Char × Char)) (c : Char) : Bool :=
  ranges.any fun r => r.1 ≤ c && c ≤ r.2

def One.accepts : One → Char → Bool
  | .exactly d, c => c == d
  | .any, _ => true
  | .within rs, c => inside rs c
  | .without rs, c => !inside rs c

/-! ## sets -/

/-- the body of a set whose opening bracket has been read, and what follows its closing one -/
def body? (cs : List Char) : Option (List Char × List Char) :=
  let bang := cs.takeWhile (· == '!') |>.take 1
  let cs := cs.drop bang.length
  let first := cs.takeWhile (· == ']') |>.take 1
  (Text.cut? ']' (cs.drop first.length)).map fun p => (bang ++ first ++ p.1, p.2)

/-- the body cut at the dashes that join two characters; the first `skip` characters of a piece
are members, whatever they are -/
def chunks (skip : Nat) (cs : List Char) : List (List Char) :=
  match _h : Text.cut? '-' (cs.drop skip) with
  | none => [cs]
  | some (a, b) =>
    match chunks 2 b with
    | [[]] => [cs.take skip ++ a ++ ['-']]
    | rest => (cs.take skip ++ a) :: rest
termination_by cs.length
decreasing_by
  have e := congrArg List.length (Text.eq_of_cut? _h)
  simp only [List.length_drop, List.length_append, List.length_cons] at e
  omega

/-- one more chunk in front of others; if the range where they meet runs backwards, its ends go -/
def meet (c : List Char) : List (List Char) → List (List Char)
  | [] => [c]
  | d :: ds =>
    match c.getLast?, d with
    | some lo, hi :: d' => if hi < lo then (c.dropLast ++ d') :: ds else c :: d :: ds
    | _, _ => c :: d :: ds

/-- a member of a set, or the dash of a range -/
inductive Mark where
  | member (c : Char)
  | dash
deriving DecidableEq, Repr

def Mark.char : Mark → Char
  | .member c => c
  | .dash => '-'

def marks : List (List Char) → List Mark
  | [] => []
  | [c] => c.map .member
  | c :: cs => c.map .member ++ .dash :: marks cs

def ranges : List Mark → List (Char × Char)
  | [] => []
  | m :: .dash :: n :: rest => (m.char, n.char) :: ranges rest
  | m :: rest => (m.char, m.char) :: ranges rest

def members (body : List Char) : List Mark :=
  if body.contains '-' then
    marks ((chunks (if body.head? = some '!' then 2 else 1) body).foldr meet [])
  else body.map .member

def setOf (body : List Char) : One :=
  match members body with
  | [] => .within []
  | [.member '!'] => .any
  | .member '!' :: ms => .without (ranges ms)
  | ms => .within (ranges ms)

/-! ## patterns -/

theorem body?_length {cs a b : List Char} (h : body? cs = some (a, b)) : b.length < cs.length := by
  unfold body? at h
  obtain ⟨p, hp, he⟩ := Option.map_eq_some_iff.1 h
  simp only [Prod.mk.injEq] at he
  obtain ⟨-, rfl⟩ := he
  have e := congrArg List.length (Text.eq_of_cut? (a := p.1) (b := p.2) hp)
  simp only [List.length_drop, List.length_append, List.length_cons] at e
  omega

def parse (cs : List Char) : List Piece :=
  match cs with
  | [] => []
  | c :: cs =>
    if c = '*' then .run :: parse cs
    else if c = '?' then .one .any :: parse cs
    else if c = '[' then
      match _h : body? cs with
      | some (body, rest) => .one (setOf body) :: parse rest
      | none => .one (.exactly '[') :: parse cs
    else .one (.exactly c) :: parse cs
termination_by cs.length
decreasing_by
  all_goals simp only [List.length_cons]
  all_goals first | omega | exact Nat.lt_succ_of_lt (body?_length _h)

/-! ## matching -/

/-- for each end of a text, the longest first, whether a text matches one character `o` and then
what `row` answers for the ends of it -/
def oneRow (o : One) : List Char → List Bool → List Bool
  | c :: cs, _ :: r :: row => (o.accepts c && r) :: oneRow o cs (r :: row)
  | _, _ => [false]

/-- the same for a run in front: an end matches if a shorter one does or it does itself -/
def runRow : List Bool → List Bool
  | [] => []
  | b :: row =>
    match runRow row with
    | [] => [b]
    | r :: rs => (b || r) :: r :: rs

/-- the answers for the pattern `ps` and all ends of `cs` -/
def row (cs : List Char) : List Piece → List Bool
  | [] => List.replicate cs.length false ++ [true]
  | .one o :: ps => oneRow o cs (row cs ps)
  | .run :: ps => runRow (row cs ps)

def accepts (ps : List Piece) (cs : List Char) : Bool := (row cs ps).headD false

/-- the ways in which a text can be taken apart by a pattern -/
inductive Matches : List Piece → List Char → Prop
  | nil : Matches [] []
  | one {o : One} {c : Char} {ps : List Piece} {cs : List Char} :
      o.accepts c = true → Matches ps cs → Matches (.one o :: ps) (c :: cs)
  | run (xs : List Char) {ps : List Piece} {cs : List Char} :
      Matches ps cs → Matches (.run :: ps) (xs ++ cs)

/-! ## the rows are right -/

theorem length_oneRow (o : One) (cs : List Char) (r : List Bool) (h : r.length = cs.length + 1) :
    (oneRow o cs r).length = cs.length + 1 := by
  induction cs generalizing r with
  | nil =>
    match r, h with
    | [_], _ => rfl
  | cons c cs ih =>
    match r, h with
    | _ :: x :: r, h => simpa [oneRow] using ih (x :: r) (by simpa using h)

theorem runRow_cons (b r : Bool) (row : List Bool) :
    runRow (b :: r :: row) = (b || (runRow (r :: row)).headD false) :: runRow (r :: row) := by
  have hne : runRow (r :: row) ≠ [] := by
    unfold runRow
    split <;> simp
  rw [runRow]
  cases h : runRow (r :: row) with
  | nil => exact absurd h hne
  | cons x xs => rfl

theorem length_runRow (r : List Bool) : (runRow r).length = r.length := by
  induction r with
  | nil => rfl
  | cons b row ih =>
    cases row with
    | nil => rfl
    | cons r row => rw [runRow_cons, List.length_cons, ih]; rfl

theorem length_row (ps : List Piece) (cs : List Char) : (row cs ps).length = cs.length + 1 := by
  induction ps with
  | nil => simp [row]
  | cons p ps ih =>
    cases p with
    | one o => exact length_oneRow o cs _ ih
    | run => exact (length_runRow _).trans ih

theorem row_cons (ps : List Piece) (c : Char) (cs : List Char) :
    row (c :: cs) ps = accepts ps (c :: cs) :: row cs ps := by
  induction ps with
  | nil => simp [row, accepts, List.replicate_succ]
  | cons p ps ih =>
    obtain ⟨b, bs, hb⟩ : ∃ b bs, row cs ps = b :: bs := by
      have := length_row ps cs
      match row cs ps, this with
      | b :: bs, _ => exact ⟨b, bs, rfl⟩
    cases p with
    | one o =>
      show oneRow o (c :: cs) (row (c :: cs) ps)
        = (oneRow o (c :: cs) (row (c :: cs) ps)).headD false :: oneRow o cs (row cs ps)
      rw [ih, hb]
      rfl
    | run =>
      show runRow (row (c :: cs) ps)
        = (runRow (row (c :: cs) ps)).headD false :: runRow (row cs ps)
      rw [ih, hb, runRow_cons]
      rfl

theorem row_eq_cons (ps : List Piece) (cs : List Char) :
    ∃ bs, row cs ps = accepts ps cs :: bs := by
  have := length_row ps cs
  match h : row cs ps, this with
  | b :: bs, _ => exact ⟨bs, by simp [accepts, h]⟩

theorem accepts_nil (cs : List Char) : accepts [] cs = cs.isEmpty := by
  cases cs <;> rfl

theorem accepts_one_nil (o : One) (ps : List Piece) : accepts (.one o :: ps) [] = false := by
  simp [accepts, row, oneRow]

theorem accepts_one_cons (o : One) (ps : List Piece) (c : Char) (cs : List Char) :
    accepts (.one o :: ps) (c :: cs) = (o.accepts c && accepts ps cs) := by
  obtain ⟨bs, h⟩ := row_eq_cons ps cs
  show (oneRow o (c :: cs) (row (c :: cs) ps)).headD false = _
  rw [row_cons, h]
  rfl

theorem accepts_run_nil (ps : List Piece) : accepts (.run :: ps) [] = accepts ps [] := by
  obtain ⟨bs, h⟩ := row_eq_cons ps []
  have hl := length_row ps []
  rw [h] at hl
  have : bs = [] := by simpa using hl
  show (runRow (row [] ps)).headD false = _
  rw [h, this]
  rfl

theorem accepts_run_cons (ps : List Piece) (c : Char) (cs : List Char) :
    accepts (.run :: ps) (c :: cs) = (accepts ps (c :: cs) || accepts (.run :: ps) cs) := by
  obtain ⟨bs, h⟩ := row_eq_cons ps cs
  have e : accepts (.run :: ps) cs = (runRow (accepts ps cs :: bs)).headD false := by
    show (row cs (.run :: ps)).headD false = _
    rw [row, h]
  rw [e]
  show (row (c :: cs) (.run :: ps)).headD false = _
  rw [row, row_cons, h, runRow_cons]
  rfl

theorem accepts_iff (ps : List Piece) (cs : List Char) : accepts ps cs = true ↔ Matches ps cs := by
  induction ps generalizing cs with
  | nil =>
    rw [accepts_nil]
    constructor
    · intro h
      rw [List.isEmpty_iff.1 h]
      exact .nil
    · rintro ⟨⟩
      rfl
  | cons p ps ih =>
    cases p with
    | one o =>
      cases cs with
      | nil =>
        rw [accepts_one_nil]
        constructor
        · intro h; exact absurd h (by simp)
        · rintro ⟨⟩
      | cons c cs =>
        rw [accepts_one_cons, Bool.and_eq_true, ih]
        constructor
        · rintro ⟨h1, h2⟩; exact .one h1 h2
        · intro h
          cases h with
          | one h1 h2 => exact ⟨h1, h2⟩
    | run =>
      induction cs with
      | nil =>
        rw [accepts_run_nil, ih]
        constructor
        · intro h; exact Matches.run [] h
        · intro h
          generalize he : ([] : List Char) = e at h
          cases h with
          | run xs h =>
            obtain ⟨rfl, rfl⟩ := List.append_eq_nil_iff.1 he.symm
            exact h
      | cons c cs ihc =>
        rw [accepts_run_cons, Bool.or_eq_true, ih, ihc]
        constructor
        · rintro (h | h)
          · exact Matches.run [] h
          · generalize he : Piece.run :: ps = q at h
            cases h with
            | nil => exact absurd he (by simp)
            | one _ _ => exact absurd he (by simp)
            | run xs h =>
              simp only [List.cons.injEq, true_and] at he
              subst he
              exact Matches.run (c :: xs) h
        · intro h
          generalize he : c :: cs = e at h
          cases h with
          | run xs h =>
            cases xs with
            | nil =>
              rw [List.nil_append] at he
              subst he
              exact .inl h
            | cons x xs =>
              simp only [List.cons_append, List.cons.injEq] at he
              exact .inr (by rw [he.2]; exact Matches.run xs h)

end Glob

end ProxyInjector
