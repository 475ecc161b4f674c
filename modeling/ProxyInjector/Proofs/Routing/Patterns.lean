import ProxyInjector.Proofs.Glob.Pieces
import ProxyInjector.Proofs.Routing.Listed

/-!
# What a list of patterns exempts

An opener keeps its patterns in lower case, and asks them about a host by its name alone.

* `matchesAny_lower_iff`   patterns of stars match a name in which the pieces of one of them stand in
                           order;
* `lower_eq_of_spells`, `accepts_lower_of_doubles`
                           letters in either case, and stars written twice, make no difference to a
                           pattern;
* `exempts_inOrder`        the verdict on a place, and what makes no difference to it.
-/

namespace ProxyInjector.Routing

open Glob (InOrder Doubles)

/-! ## one pattern -/

/-- a pattern without wild characters but stars -/
def IsStarry (p : String) : Prop := '?' ∉ p.toList ∧ '[' ∉ p.toList

theorem toList_lower (p : String) : (Text.lower p).toList = Text.lowerFrom [] p.toList := by
  rw [Text.lower, String.toList_ofList]

theorem IsStarry.lower {p : String} (h : IsStarry p) : IsStarry (Text.lower p) := by
  rw [IsStarry, toList_lower]
  exact ⟨fun hm => h.1 (Text.mem_of_mem_lowerFrom (by decide) (by decide) hm),
    fun hm => h.2 (Text.mem_of_mem_lowerFrom (by decide) (by decide) hm)⟩

theorem accepts_lower_iff {p : String} (h : IsStarry p) (name : List Char) :
    Glob.accepts (Glob.parse (Text.lower p).toList) name = true
      ↔ Glob.Starred (Text.lower p).toList name :=
  Glob.accepts_parse_iff h.lower.1 h.lower.2 name

theorem lower_eq_of_spells {p q : String} (h : Text.Spells q.toList p.toList) :
    Text.lower q = Text.lower p := by
  rw [Text.lower, Text.lower, Text.lowerFrom_congr rfl h]

theorem accepts_lower_of_doubles {p q : String} (hp : IsStarry p)
    (h : Doubles p.toList q.toList) (name : List Char) :
    Glob.accepts (Glob.parse (Text.lower q).toList) name
      = Glob.accepts (Glob.parse (Text.lower p).toList) name := by
  have hq : IsStarry q := ⟨fun hm => hp.1 (h.mem_iff.mpr hm), fun hm => hp.2 (h.mem_iff.mpr hm)⟩
  have hlower : Doubles (Text.lower p).toList (Text.lower q).toList := by
    rw [toList_lower, toList_lower]
    exact h.lowerFrom rfl
  rw [Bool.eq_iff_iff, accepts_lower_iff hq, accepts_lower_iff hp, hlower.starred_iff]

/-! ## lists of patterns -/

section
variable {patterns others : List String} {name : List Char}

theorem matchesAny_iff : matchesAny patterns name = true ↔
    ∃ p ∈ patterns, Glob.accepts (Glob.parse p.toList) name = true := List.any_eq_true

theorem matchesAny_lower_iff (h : ∀ p ∈ patterns, IsStarry p) :
    matchesAny (patterns.map Text.lower) name = true
      ↔ ∃ p ∈ patterns, InOrder (Text.segments '*' (Text.lower p).toList) name := by
  rw [matchesAny, List.any_map, List.any_eq_true]
  refine exists_congr fun p => and_congr_right fun hp => ?_
  rw [Function.comp_apply, accepts_lower_iff (h p hp), Glob.starred_iff_inOrder]

/-- one pattern more can only match more -/
theorem matchesAny_of_subset (h : patterns ⊆ others) (hm : matchesAny patterns name = true) :
    matchesAny others name = true := by
  obtain ⟨p, hp, haccepts⟩ := matchesAny_iff.mp hm
  exact matchesAny_iff.mpr ⟨p, h hp, haccepts⟩

theorem matchesAny_of_forall₂ {R : String → String → Prop}
    (hR : ∀ p ∈ patterns, ∀ q, R p q → Glob.accepts (Glob.parse (Text.lower q).toList) name
      = Glob.accepts (Glob.parse (Text.lower p).toList) name)
    (h : List.Forall₂ R patterns others) :
    matchesAny (others.map Text.lower) name = matchesAny (patterns.map Text.lower) name := by
  induction h with
  | nil => rfl
  | cons hpq h ih =>
    rw [matchesAny, matchesAny, List.map_cons, List.map_cons, List.any_cons, List.any_cons,
      hR _ List.mem_cons_self _ hpq]
    exact congrArg _ (ih fun p hp => hR p (List.mem_cons_of_mem _ hp))

end

/-! ## places -/

theorem exempts_place (patterns : List String) (a : Url.Place) :
    exempts patterns a.text = .ok (matchesAny patterns (Text.lowerFrom [] a.name)) := by
  rw [exempts, nameOf_place]
  rfl

/-- **The verdict of patterns.**  Patterns with no wild characters but stars exempt a place if the
pieces of one of them stand in order in its name, all in lower case.  The port of the place and the
case of its letters make no difference, and neither do the case of letters in a pattern, a star
written twice, or order and repetitions in the list; and more patterns exempt no fewer places. -/
theorem exempts_inOrder (patterns : List String) (a : Url.Place)
    (hplain : ∀ p ∈ patterns, '?' ∉ p.toList ∧ '[' ∉ p.toList) :
    let verdict (patterns : List String) (a : Url.Place) :=
      exempts (patterns.map Text.lower) a.text
    (∃ exempt, verdict patterns a = .ok exempt ∧ (exempt = true ↔
      ∃ p ∈ patterns,
        InOrder (Text.segments '*' (Text.lower p).toList) (Text.lowerFrom [] a.name))) ∧
    (∀ b : Url.Place, Text.Spells b.name a.name → verdict patterns b = verdict patterns a) ∧
    (∀ others, List.Forall₂ (fun p q => Text.Spells q.toList p.toList) patterns others →
      verdict others a = verdict patterns a) ∧
    (∀ others, List.Forall₂ (fun p q => Doubles p.toList q.toList) patterns others →
      verdict others a = verdict patterns a) ∧
    (∀ others, (∀ p, p ∈ others ↔ p ∈ patterns) → verdict others a = verdict patterns a) ∧
    (∀ others, patterns ⊆ others → verdict patterns a = .ok true → verdict others a = .ok true) := by
  intro verdict
  have hverdict : ∀ ps b, verdict ps b
      = .ok (matchesAny (ps.map Text.lower) (Text.lowerFrom [] b.name)) :=
    fun ps b => exempts_place (ps.map Text.lower) b
  refine ⟨⟨_, hverdict patterns a, matchesAny_lower_iff hplain⟩, fun b hb => ?_,
    fun others h => ?_, fun others h => ?_, fun others h => ?_, fun others h => ?_⟩
  · rw [hverdict, hverdict, Text.lowerFrom_congr rfl hb]
  · rw [hverdict, hverdict,
      matchesAny_of_forall₂ (fun p _ q hpq => by rw [lower_eq_of_spells hpq]) h]
  · rw [hverdict, hverdict,
      matchesAny_of_forall₂ (fun p hp q hpq => accepts_lower_of_doubles (hplain p hp) hpq _) h]
  · have hsame : matchesAny (others.map Text.lower) (Text.lowerFrom [] a.name)
        = matchesAny (patterns.map Text.lower) (Text.lowerFrom [] a.name) := by
      rw [Bool.eq_iff_iff]
      exact ⟨matchesAny_of_subset (List.map_subset _ fun p => (h p).mp),
        matchesAny_of_subset (List.map_subset _ fun p => (h p).mpr)⟩
    rw [hverdict, hverdict, hsame]
  · rw [hverdict, hverdict]
    exact fun hm => congrArg _ (matchesAny_of_subset (List.map_subset _ h) (Except.ok.inj hm))

/-- the ends of the name share a letter, which the two pieces may not -/
def overlapping : Url.Place where
  name := "aBA".toList
  port := some "80".toList
  name_plain := List.all_eq_true.mp (by decide)
  port_digits := by
    rintro digits ⟨⟩
    exact List.all_eq_true.mp (by decide)

/-- the same name with a letter more, and at another port -/
def apart : Url.Place where
  name := "abBa".toList
  port := some "443".toList
  name_plain := List.all_eq_true.mp (by decide)
  port_digits := by
    rintro digits ⟨⟩
    exact List.all_eq_true.mp (by decide)

theorem exempts_inOrder_overlapping :
    (∀ p ∈ ["Ab*bA"], '?' ∉ p.toList ∧ '[' ∉ p.toList) ∧
    exempts (["Ab*bA"].map Text.lower) overlapping.text = .ok false ∧
    exempts (["Ab*bA"].map Text.lower) apart.text = .ok true ∧
    List.Forall₂ (fun p q => Doubles p.toList q.toList) ["Ab*bA"] ["Ab**bA"] ∧
    exempts (["Ab**bA"].map Text.lower) apart.text = .ok true := by
  have hplain : ∀ p ∈ ["Ab*bA"], '?' ∉ p.toList ∧ '[' ∉ p.toList := by decide
  have hpieces : Text.segments '*' (Text.lower "Ab*bA").toList = ["ab".toList, "ba".toList] := by
    decide +kernel
  have hdoubles : List.Forall₂ (fun p q => Doubles p.toList q.toList) ["Ab*bA"] ["Ab**bA"] :=
    .cons (.keep 'A' (.keep 'b' (.star (.refl _)))) .nil
  obtain ⟨⟨missed, hmissed, hmissed_iff⟩, -⟩ := exempts_inOrder ["Ab*bA"] overlapping hplain
  obtain ⟨⟨hit, hhit, hhit_iff⟩, -, -, hstars, -⟩ := exempts_inOrder ["Ab*bA"] apart hplain
  obtain rfl : missed = false := by
    rw [← Bool.not_eq_true, hmissed_iff]
    rintro ⟨p, hp, h⟩
    rw [List.mem_singleton.mp hp, hpieces] at h
    exact absurd h.flatten_sublist.length_le (by decide +kernel)
  obtain rfl : hit = true := by
    refine hhit_iff.mpr ⟨_, List.mem_singleton_self _, ?_⟩
    rw [hpieces]
    exact .next "ab".toList [] (.last "ba".toList)
  exact ⟨hplain, hmissed, hhit, hdoubles, (hstars _ hdoubles).trans hhit⟩

end ProxyInjector.Routing
