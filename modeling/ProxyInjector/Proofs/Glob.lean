import ProxyInjector.Glob
import ProxyInjector.Proofs.Text.Segments

/-!
# Patterns of stars

A pattern without question marks and opening brackets has stars as its only wild characters.
`Glob.Starred` says when a text matches one, without its pieces, and `Glob.accepts_parse_iff` that
such patterns accept exactly those texts.
-/

namespace ProxyInjector.Glob

/-- a star matches any run of characters, and every other character itself -/
inductive Starred : List Char → List Char → Prop
  | nil : Starred [] []
  | one {c : Char} {p cs : List Char} : c ≠ '*' → Starred p cs → Starred (c :: p) (c :: cs)
  | run (xs : List Char) {p cs : List Char} : Starred p cs → Starred ('*' :: p) (xs ++ cs)

theorem parse_nil : parse [] = [] := by rw [parse]

theorem parse_star (p : List Char) : parse ('*' :: p) = .run :: parse p := by
  rw [parse, if_pos rfl]

theorem parse_cons {c : Char} (hs : c ≠ '*') (hq : c ≠ '?') (hb : c ≠ '[') (p : List Char) :
    parse (c :: p) = .one (.exactly c) :: parse p := by
  rw [parse, if_neg hs, if_neg hq, if_neg hb]

theorem matches_run_iff {ps : List Piece} {cs : List Char} :
    Matches (.run :: ps) cs ↔ ∃ xs ys, cs = xs ++ ys ∧ Matches ps ys := by
  constructor
  · rintro (_ | _ | ⟨xs, h⟩)
    exact ⟨xs, _, rfl, h⟩
  · rintro ⟨xs, ys, rfl, h⟩
    exact .run xs h

theorem matches_exactly_iff {c : Char} {ps : List Piece} {cs : List Char} :
    Matches (.one (.exactly c) :: ps) cs ↔ ∃ ys, cs = c :: ys ∧ Matches ps ys := by
  constructor
  · rintro (_ | ⟨hc, h⟩ | _)
    exact ⟨_, by rw [beq_iff_eq.mp hc], h⟩
  · rintro ⟨ys, rfl, h⟩
    exact .one (beq_self_eq_true c) h

theorem starred_star_iff {p cs : List Char} :
    Starred ('*' :: p) cs ↔ ∃ xs ys, cs = xs ++ ys ∧ Starred p ys := by
  constructor
  · rintro (_ | ⟨hc, -⟩ | ⟨xs, h⟩)
    · exact absurd rfl hc
    · exact ⟨xs, _, rfl, h⟩
  · rintro ⟨xs, ys, rfl, h⟩
    exact .run xs h

theorem starred_cons_iff {c : Char} (hc : c ≠ '*') {p cs : List Char} :
    Starred (c :: p) cs ↔ ∃ ys, cs = c :: ys ∧ Starred p ys := by
  constructor
  · rintro (_ | ⟨-, h⟩ | _)
    · exact ⟨_, rfl, h⟩
    · exact absurd rfl hc
  · rintro ⟨ys, rfl, h⟩
    exact .one hc h

theorem matches_parse_iff {p : List Char} (hq : '?' ∉ p) (hb : '[' ∉ p) (cs : List Char) :
    Matches (parse p) cs ↔ Starred p cs := by
  induction p generalizing cs with
  | nil =>
    rw [parse_nil]
    constructor
    · rintro ⟨⟩
      exact .nil
    · rintro ⟨⟩
      exact .nil
  | cons c p ih =>
    have hp := ih (List.not_mem_of_not_mem_cons hq) (List.not_mem_of_not_mem_cons hb)
    by_cases hc : c = '*'
    · subst hc
      rw [parse_star, matches_run_iff, starred_star_iff]
      simp only [hp]
    · rw [parse_cons hc (Ne.symm (List.ne_of_not_mem_cons hq))
        (Ne.symm (List.ne_of_not_mem_cons hb)), matches_exactly_iff, starred_cons_iff hc]
      simp only [hp]

theorem accepts_parse_iff {p : List Char} (hq : '?' ∉ p) (hb : '[' ∉ p) (cs : List Char) :
    accepts (parse p) cs = true ↔ Starred p cs :=
  (accepts_iff _ _).trans (matches_parse_iff hq hb cs)

theorem Starred.refl {p : List Char} (h : '*' ∉ p) : Starred p p := by
  induction p with
  | nil => exact .nil
  | cons c p ih =>
    exact .one (Ne.symm (List.ne_of_not_mem_cons h)) (ih (List.not_mem_of_not_mem_cons h))

/-- a pattern without wild characters accepts itself -/
theorem accepts_parse_self {p : List Char} (hs : '*' ∉ p) (hq : '?' ∉ p) (hb : '[' ∉ p) :
    accepts (parse p) p = true := (accepts_parse_iff hq hb p).mpr (.refl hs)

/-! ## sets -/

theorem body?_append {cs : List Char} (hne : cs ≠ []) (hbang : '!' ∉ cs) (hclose : ']' ∉ cs) :
    body? (cs ++ [']']) = some (cs, []) := by
  obtain ⟨c, cs, rfl⟩ := List.exists_cons_of_ne_nil hne
  have hb : (c == '!') = false := beq_eq_false_iff_ne.mpr (Ne.symm (List.ne_of_not_mem_cons hbang))
  have hc : (c == ']') = false := beq_eq_false_iff_ne.mpr (Ne.symm (List.ne_of_not_mem_cons hclose))
  have hcut : Text.cut? ']' (c :: (cs ++ [']'])) = some (c :: cs, []) :=
    Text.cut?_append_cons (a := c :: cs) hclose []
  simp [body?, hb, hc, hcut]

/-- a pattern that is one set accepts nothing but single characters -/
theorem length_of_accepts_set {p cs : List Char} (hne : p ≠ []) (hbang : '!' ∉ p)
    (hclose : ']' ∉ p) (h : accepts (parse ('[' :: (p ++ [']']))) cs = true) : cs.length = 1 := by
  have hparse : parse ('[' :: (p ++ [']'])) = [.one (setOf p)] := by
    rw [parse, if_neg (by decide), if_neg (by decide), if_pos rfl]
    split
    · next hbody =>
      rw [body?_append hne hbang hclose] at hbody
      obtain ⟨rfl, rfl⟩ := Prod.mk.inj (Option.some.inj hbody)
      rw [parse_nil]
    · next hbody =>
      rw [body?_append hne hbang hclose] at hbody
      cases hbody
  rw [hparse, accepts_iff] at h
  rcases h with _ | ⟨-, ⟨⟩⟩ | _
  rfl

end ProxyInjector.Glob
