import ProxyInjector.Proofs.Text.Segments
import ProxyInjector.Template.Rendering

/-!
# Templates piece by piece

A template in pieces is literal text, percent signs written twice, and conversions of named fields
with their flags and sizes.

* `Field.Valid`       the flags are flags, and the sizes are numbers that can be written;
* `conversion_chars`  what is written behind the name of such a field is read back;
* `Piece.Offered`     the view has the field, and the letter of the conversion suits it;
* `render_pieces`     a template of such pieces is filled in piece by piece, and never fails.
-/

namespace ProxyInjector.Template

/-! ## pieces -/

/-- a conversion of a named field -/
structure Field where
  name : String
  flags : List Char := []
  /-- the digits of the width, and those of the precision behind the point -/
  width : List Char := []
  precision : Option (List Char) := none
  letter : Char := 's'

/-- the number that a row of digits writes -/
def number (digits : List Char) : Nat := digits.foldl (fun n c => 10 * n + (c.toNat - 48)) 0

/-- a size that a conversion can have, none at all included -/
def IsSize (digits : List Char) : Prop :=
  (∀ c ∈ digits, c.isDigit = true) ∧ number digits ≤ Conversion.maxSize

namespace Field

/-- the precision behind its point -/
def point (f : Field) : List Char := f.precision.elim [] ('.' :: ·)

/-- what follows the flags -/
def sizes (f : Field) : List Char := f.width ++ f.point

/-- what follows the parenthesis behind the name -/
def ending (f : Field) : List Char := f.flags ++ (f.sizes ++ [f.letter])

def chars (f : Field) : List Char := '%' :: '(' :: (f.name.toList ++ ')' :: f.ending)

def conversion (f : Field) : Conversion :=
  { f.flags.foldl Conversion.flag { letter := '%' } with
    width := number f.width
    precision := f.precision.map number
    letter := f.letter }

structure Valid (f : Field) : Prop where
  name : ∀ c ∈ f.name.toList, c ≠ '(' ∧ c ≠ ')'
  flags : ∀ c ∈ f.flags, Conversion.isFlag c = true
  width : IsSize f.width
  /-- a zero in front of the width would be a flag -/
  start : f.width.head? ≠ some '0'
  precision : ∀ digits ∈ f.precision, IsSize digits
  letter : f.letter = 's' ∨ f.letter = 'd'

end Field

inductive Piece where
  /-- text without percent signs -/
  | literal (cs : List Char)
  /-- a percent sign, written twice -/
  | percent
  | field (f : Field)

namespace Piece

def chars : Piece → List Char
  | .literal cs => cs
  | .percent => ['%', '%']
  | .field f => f.chars

def Valid : Piece → Prop
  | .literal cs => '%' ∉ cs
  | .percent => True
  | .field f => f.Valid

/-- the view has the field, and an integer is asked of a field that is one -/
def Offered (v : View) : Piece → Prop
  | .field f => ∃ x, v.field? f.name.toList = some x ∧ (f.letter = 'd' → ∃ n, x.integer? = some n)
  | _ => True

/-- what stands for the piece in the text -/
def shown (v : View) : Piece → List Char
  | .literal cs => cs
  | .percent => ['%']
  | .field f => (((v.field? f.name.toList).bind fun x => (f.conversion.write 0 x).toOption)).getD []

end Piece

/-! ## reading a conversion back -/

theorem all_of_all {o : Option Char} {p q : Char → Bool} (h : ∀ c, p c = true → q c = true)
    (ho : o.all p = true) : o.all q = true := by
  cases o with
  | none => rfl
  | some c => exact h c ho

theorem size?_append {digits rest : List Char} (h : ∀ c ∈ digits, c.isDigit = true)
    (hrest : rest.head?.all (!Char.isDigit ·) = true) {limit : Nat}
    (hlimit : number digits ≤ limit) :
    size? limit (digits ++ rest) = some (number digits, rest) := by
  have hn : ¬ limit < number digits := Nat.not_lt.mpr hlimit
  rw [size?, Text.takeWhile_append_of_head h hrest, Text.dropWhile_append_of_head h hrest]
  exact if_neg hn

theorem width_of_head {cs : List Char} (h : cs.head? ≠ some '*') (c : Conversion)
    (pending : Pending) :
    width c pending cs = match size? maxWidth cs with
      | some (n, cs) => .ok ({ c with width := n }, pending, cs)
      | none => .error .wideWidth := by
  unfold width
  split
  · exact absurd rfl h
  · rfl

theorem precision_of_head {cs : List Char} (h : cs.head? ≠ some '.') (c : Conversion)
    (pending : Pending) : precision c pending cs = .ok (c, pending, cs) := by
  unfold precision
  split
  · exact absurd rfl h
  · exact absurd rfl h
  · rfl

theorem precision_point {cs : List Char} (h : cs.head? ≠ some '*') (c : Conversion)
    (pending : Pending) :
    precision c pending ('.' :: cs) = match size? maxPrecision cs with
      | some (n, cs) => .ok ({ c with precision := some n }, pending, cs)
      | none => .error .widePrecision := by
  unfold precision
  split
  · next hcs =>
    obtain ⟨-, rfl⟩ := List.cons.inj hcs
    exact absurd rfl h
  · next hcs =>
    obtain ⟨-, rfl⟩ := List.cons.inj hcs
    rfl
  · next hne => exact absurd rfl (hne cs)

theorem withoutLength_cons {letter : Char} (h : letter = 's' ∨ letter = 'd') (cs : List Char) :
    withoutLength (letter :: cs) = letter :: cs := by
  rcases h with rfl | rfl <;> rfl

theorem precision_foldl_flag (flags : List Char) {c : Conversion} (hc : c.precision = none) :
    (flags.foldl Conversion.flag c).precision = none := by
  induction flags generalizing c with
  | nil => exact hc
  | cons a flags ih =>
    apply ih
    unfold Conversion.flag
    split <;> exact hc

namespace Field

variable {f : Field} (h : f.Valid) (rest : List Char)
include h

/-- behind the width a point or a letter follows -/
theorem Valid.head?_precision :
    (f.point ++ f.letter :: rest).head?.all
      (fun c => !c.isDigit && !Conversion.isFlag c && c != '*') = true := by
  rw [point]
  cases f.precision with
  | none => rcases h.letter with hl | hl <;> rw [hl] <;> rfl
  | some digits => rfl

/-- behind the flags a size or a letter follows -/
theorem Valid.head?_sizes :
    (f.sizes ++ f.letter :: rest).head?.all (fun c => !Conversion.isFlag c && c != '*') = true := by
  have hprecision := h.head?_precision rest
  have hdigits := h.width.1
  have hstart := h.start
  rw [sizes, List.append_assoc]
  generalize f.point ++ f.letter :: rest = behind at hprecision ⊢
  generalize f.width = width at hdigits hstart ⊢
  cases width with
  | nil =>
    refine all_of_all (fun c hc => ?_) hprecision
    rw [Bool.and_assoc, Bool.and_eq_true] at hc
    exact hc.2
  | cons c cs =>
    have hdigit : c.isDigit = true := hdigits c List.mem_cons_self
    have hzero : c ≠ '0' := fun hc => hstart (by rw [hc]; rfl)
    have hne : ∀ d : Char, d.isDigit = false → c ≠ d := by
      rintro d hd rfl
      rw [hd] at hdigit
      cases hdigit
    show (!Conversion.isFlag c && c != '*') = true
    simp [Conversion.isFlag, hzero, hne]

theorem Valid.width_chars (c : Conversion) (pending : Pending) :
    Template.width c pending (f.sizes ++ f.letter :: rest)
      = .ok ({ c with width := number f.width }, pending, f.point ++ f.letter :: rest) := by
  have hhead := h.head?_sizes rest
  have hstar : (f.sizes ++ f.letter :: rest).head? ≠ some '*' := by
    intro hs
    rw [hs] at hhead
    cases hhead
  have hdigit : (f.point ++ f.letter :: rest).head?.all (!Char.isDigit ·) = true :=
    all_of_all (fun c hc => (Bool.and_eq_true_iff.mp (Bool.and_eq_true_iff.mp hc).1).1)
      (h.head?_precision rest)
  have hlimit : number f.width ≤ maxWidth := Nat.le_trans h.width.2 (by decide)
  rw [width_of_head hstar, sizes, List.append_assoc, size?_append h.width.1 hdigit hlimit]

theorem Valid.precision_chars {c : Conversion} (hc : c.precision = none) (pending : Pending) :
    Template.precision c pending (f.point ++ f.letter :: rest)
      = .ok ({ c with precision := f.precision.map number }, pending, f.letter :: rest) := by
  have hletter : ∀ d : Char, d ≠ 's' ∧ d ≠ 'd' → f.letter ≠ d := by
    rintro d ⟨hs, hd⟩ rfl
    exact h.letter.elim hs hd
  cases hp : f.precision with
  | none =>
    have hpoint : (f.letter :: rest).head? ≠ some '.' := by
      simpa using hletter '.' (by decide)
    rw [point, hp]
    show Template.precision c pending (f.letter :: rest) = _
    rw [precision_of_head hpoint, Option.map_none, ← hc]
  | some digits =>
    obtain ⟨hdigits, hsize⟩ := h.precision digits hp
    have hstar : (digits ++ f.letter :: rest).head? ≠ some '*' := by
      cases digits with
      | nil => simpa using hletter '*' (by decide)
      | cons d ds =>
        intro hd
        have hdigit := hdigits d List.mem_cons_self
        rw [Option.some.inj hd] at hdigit
        cases hdigit
    have hbehind : (f.letter :: rest).head?.all (!Char.isDigit ·) = true := by
      rcases h.letter with hl | hl <;> rw [hl] <;> rfl
    have hlimit : number digits ≤ maxPrecision := Nat.le_trans hsize (by decide)
    rw [point, hp]
    show Template.precision c pending ('.' :: (digits ++ f.letter :: rest)) = _
    rw [precision_point hstar, size?_append hdigits hbehind hlimit]
    rfl

/-- what is written behind the name is read back -/
theorem Valid.conversion_chars (pending : Pending) :
    Template.conversion pending (f.ending ++ rest) = .ok (f.conversion, pending, rest) := by
  have hflag : (f.sizes ++ f.letter :: rest).head?.all (!Conversion.isFlag ·) = true :=
    all_of_all (fun c hc => (Bool.and_eq_true_iff.mp hc).1) (h.head?_sizes rest)
  have hending : f.ending ++ rest = f.flags ++ (f.sizes ++ f.letter :: rest) := by simp [ending]
  have hnone : ({ f.flags.foldl Conversion.flag { letter := '%' } with
      width := number f.width } : Conversion).precision = none := precision_foldl_flag f.flags rfl
  unfold Template.conversion
  rw [hending, Text.takeWhile_append_of_head h.flags hflag,
    Text.dropWhile_append_of_head h.flags hflag]
  simp only [h.width_chars, bind, Except.bind, h.precision_chars rest hnone,
    withoutLength_cons h.letter]
  rfl

/-- the field that suits the letter is written, wherever it stands -/
theorem Valid.exists_write {x : Filling} (hx : f.letter = 'd' → ∃ n, x.integer? = some n) :
    ∃ out, ∀ place, f.conversion.write place x = .ok out := by
  have hwidth : ¬ Conversion.maxSize < number f.width := Nat.not_lt.mpr h.width.2
  have hprecision : ¬ Conversion.maxSize < (f.precision.map number).getD 0 := by
    cases hp : f.precision with
    | none => exact Nat.not_lt_zero _
    | some digits => exact Nat.not_lt.mpr (h.precision digits hp).2
  have hlarge : f.conversion.isLarge = false := by
    simp [Conversion.isLarge, conversion, hwidth, hprecision]
  rcases h.letter with hl | hl
  · refine ⟨f.conversion.characters x.plain, fun place => ?_⟩
    have hletter : f.conversion.letter = 's' := hl
    simp [Conversion.write, hlarge, hletter]
  · obtain ⟨n, hn⟩ := hx hl
    have hletter : f.conversion.letter = 'd' := hl
    have htruncated : x.truncated 'd' = .ok n := by
      unfold Filling.truncated
      split
      · cases hn
      · next hm => exact congrArg Except.ok (Option.some.inj (hm.symm.trans hn))
      · next hm =>
        rw [hn] at hm
        cases hm
    refine ⟨f.conversion.integer [] 10 false n, fun place => ?_⟩
    simp [Conversion.write, hlarge, hletter, htruncated, Except.map]

end Field

/-! ## filling in -/

theorem name?_append {name : List Char} (h : ∀ c ∈ name, c ≠ '(' ∧ c ≠ ')') (rest : List Char) :
    name? 0 (name ++ ')' :: rest) = some (name, rest) := by
  induction name with
  | nil => rfl
  | cons c name ih =>
    obtain ⟨⟨hopen, hclose⟩, hname⟩ := List.forall_mem_cons.mp h
    rw [List.cons_append, name?, if_neg hclose, if_neg hopen, ih hname]
    rfl

variable {v : View} {size : Nat}

theorem renderFrom_literal {cs : List Char} (h : '%' ∉ cs) (rest : List Char) (fuel : Nat)
    (pending : Pending) :
    renderFrom v size (fuel + cs.length) pending (cs ++ rest)
      = (renderFrom v size fuel pending rest).map (cs ++ ·) := by
  induction cs with
  | nil => cases hr : renderFrom v size fuel pending rest <;> simp [hr, Except.map]
  | cons c cs ih =>
    obtain ⟨hc, hcs⟩ := List.ne_and_not_mem_of_not_mem_cons h
    show renderFrom v size (fuel + cs.length + 1) pending (c :: (cs ++ rest)) = _
    rw [renderFrom, ih hcs]
    · cases renderFrom v size fuel pending rest <;> rfl
    · intro _ heq _
      exact hc heq.symm
    · intro heq
      exact hc heq.symm

theorem Field.Valid.convert_chars {f : Field} (h : f.Valid) (hoffered : Piece.Offered v (.field f))
    (size : Nat) (pending : Pending) (rest : List Char) :
    convert v size pending ('(' :: (f.name.toList ++ ')' :: (f.ending ++ rest)))
      = .ok (Piece.shown v (.field f), none, rest) := by
  obtain ⟨x, hfield, hx⟩ := hoffered
  obtain ⟨out, hout⟩ := h.exists_write hx
  have hshown : Piece.shown v (.field f) = out := by
    simp [Piece.shown, hfield, hout, Except.toOption]
  rw [convert, name?_append h.name]
  dsimp only
  rw [hfield]
  dsimp only
  unfold carryOut
  rw [h.conversion_chars]
  show (f.conversion.write _ x).map _ = _
  rw [hout, hshown]
  rfl

/-- a template of pieces that the view offers is filled in piece by piece -/
theorem renderFrom_pieces {ps : List Piece} (hvalid : ∀ p ∈ ps, p.Valid)
    (hoffered : ∀ p ∈ ps, p.Offered v) {fuel : Nat}
    (hfuel : (ps.flatMap Piece.chars).length ≤ fuel) (pending : Pending) :
    renderFrom v size fuel pending (ps.flatMap Piece.chars) = .ok (ps.flatMap (Piece.shown v)) := by
  induction ps generalizing fuel pending with
  | nil => cases fuel <;> rfl
  | cons p ps ih =>
    obtain ⟨hp, hps⟩ := List.forall_mem_cons.mp hvalid
    obtain ⟨ho, hos⟩ := List.forall_mem_cons.mp hoffered
    rw [List.flatMap_cons, List.length_append] at hfuel
    rw [List.flatMap_cons, List.flatMap_cons]
    cases p with
    | literal cs =>
      obtain ⟨more, rfl⟩ : ∃ more, fuel = more + cs.length :=
        Nat.exists_eq_add_of_le' (Nat.le_trans (Nat.le_add_right _ _) hfuel)
      have hmore : (ps.flatMap Piece.chars).length ≤ more := by
        have hsum : cs.length + (ps.flatMap Piece.chars).length ≤ more + cs.length := hfuel
        omega
      show renderFrom v size _ pending (cs ++ _) = _
      rw [renderFrom_literal hp, ih hps hos hmore]
      rfl
    | percent =>
      obtain ⟨more, rfl⟩ : ∃ more, fuel = more + 2 :=
        Nat.exists_eq_add_of_le' (Nat.le_trans (Nat.le_add_right _ _) hfuel)
      have hmore : (ps.flatMap Piece.chars).length ≤ more + 1 := by
        have hsum : 2 + (ps.flatMap Piece.chars).length ≤ more + 2 := hfuel
        omega
      show (renderFrom v size (more + 1) pending (ps.flatMap Piece.chars)).map ('%' :: ·) = _
      rw [ih hps hos hmore]
      rfl
    | field f =>
      obtain ⟨more, rfl⟩ : ∃ more, fuel = more + 1 :=
        Nat.exists_eq_add_of_le'
          (Nat.le_trans (Nat.le_add_left 1 _) (Nat.le_trans (Nat.le_add_right _ _) hfuel))
      have hmore : (ps.flatMap Piece.chars).length ≤ more := by
        have hchars : 1 ≤ (Piece.field f).chars.length := Nat.le_add_left 1 _
        omega
      have hconvert := hp.convert_chars ho size pending (ps.flatMap Piece.chars)
      have happend : (Piece.field f).chars ++ ps.flatMap Piece.chars
          = '%' :: '(' :: (f.name.toList ++ ')' :: (f.ending ++ ps.flatMap Piece.chars)) := by
        simp [Piece.chars, Field.chars]
      rw [happend, renderFrom, hconvert]
      · show (renderFrom v size more none (ps.flatMap Piece.chars)).map _ = _
        rw [ih hps hos hmore]
        rfl
      · intro cs heq
        cases heq

theorem render_pieces {ps : List Piece} (hvalid : ∀ p ∈ ps, p.Valid)
    (hoffered : ∀ p ∈ ps, p.Offered v) :
    render (ps.flatMap Piece.chars) v = .ok (ps.flatMap (Piece.shown v)) :=
  renderFrom_pieces hvalid hoffered (Nat.le_refl _) _

theorem render_plain (v : View) {cs : List Char} (h : '%' ∉ cs) : render cs v = .ok cs := by
  have hvalid : Piece.Valid (.literal cs) := h
  have hrender := render_pieces (v := v) (List.forall_mem_singleton.mpr hvalid)
    (List.forall_mem_singleton.mpr trivial)
  simpa [Piece.chars, Piece.shown] using hrender

end ProxyInjector.Template
