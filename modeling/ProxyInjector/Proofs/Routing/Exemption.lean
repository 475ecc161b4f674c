import ProxyInjector.Proofs.Glob
import ProxyInjector.Proofs.Text.Case
import ProxyInjector.Proofs.Url.Plain
import ProxyInjector.Routing.Configured

/-!
# Which sites are exempt

* `nameOf_place`             patterns know a place by its name in lower case;
* `Exempts`                  an entry of a list between bars exempts a name, and without question
                             marks and brackets in the list that is what an opener finds
                             (`listed_iff`);
* `environmentExempts_eq`    an environment without proxy variables exempts nothing.
-/

namespace ProxyInjector

namespace Routing

/-! ## names -/

theorem nameOf_legible {cs : List Char} (h : Url.Legible cs) :
    nameOf (String.ofList cs) = .ok (Text.lowerFrom [] (Url.hostname cs)) := by
  rw [nameOf, String.toList_ofList, h.authority_eq]
  simp only [h.check]

theorem nameOf_place (a : Url.Place) : nameOf a.text = .ok (Text.lowerFrom [] a.name) := by
  have hname : ∀ c ∈ a.name, c.toNat < 0x80 := fun c hc => (a.toNat_of_mem (a.name_subset hc)).2
  rw [Url.Place.text, nameOf_legible a.legible, a.hostname_eq, Text.lowerFrom_lowerFrom hname]

theorem nameOf_site (a : Url.Site) : nameOf a.text = .ok (Text.lowerFrom [] a.name) :=
  nameOf_place a.place

/-! ## patterns -/

/-- an entry of a list separated by bars, blanks around it and case aside, matches the name -/
def Exempts (list name : List Char) : Prop :=
  ∃ entry ∈ Text.segments '|' list, Text.trim entry ≠ [] ∧
    Glob.Starred (Text.lowerFrom [] (Text.trim entry)) (Text.lowerFrom [] name)

/-- trimming and lowering an entry make no wild character -/
theorem not_mem_lowerFrom_trim {x : Char} (h0 : x ≠ '\x00') (hx : x.toNat ≤ 0x60)
    {entry : List Char} (h : x ∉ entry) : x ∉ Text.lowerFrom [] (Text.trim entry) :=
  fun hm => h (Text.mem_of_mem_trim (Text.mem_of_mem_lowerFrom h0 hx hm))

theorem mem_patternsIn_iff {p list : List Char} :
    p ∈ Store.patternsIn list ↔ ∃ entry ∈ Text.segments '|' list, Text.trim entry ≠ [] ∧
      p = Text.trim entry := by
  rw [Store.patternsIn, List.mem_filter, List.mem_map]
  constructor
  · rintro ⟨⟨entry, he, rfl⟩, hne⟩
    exact ⟨entry, he, bne_iff_ne.mp hne, rfl⟩
  · rintro ⟨entry, he, hne, rfl⟩
    exact ⟨⟨entry, he, rfl⟩, bne_iff_ne.mpr hne⟩

/-- the verdict of an opener whose patterns are those in the list -/
def listed (list name : List Char) : Bool :=
  matchesAny (((Store.patternsIn list).map String.ofList).map Text.lower) (Text.lowerFrom [] name)

theorem listed_nil (name : List Char) : listed [] name = false := rfl

theorem listed_iff {list : List Char}
    (h : ∀ entry ∈ Text.segments '|' list, '?' ∉ entry ∧ '[' ∉ entry) (name : List Char) :
    listed list name = true ↔ Exempts list name := by
  have hlower : ∀ p : List Char, (Text.lower (String.ofList p)).toList = Text.lowerFrom [] p := by
    intro p
    rw [Text.lower, String.toList_ofList, String.toList_ofList]
  have haccepts : ∀ entry ∈ Text.segments '|' list,
      Glob.accepts (Glob.parse (Text.lowerFrom [] (Text.trim entry))) (Text.lowerFrom [] name) = true
        ↔ Glob.Starred (Text.lowerFrom [] (Text.trim entry)) (Text.lowerFrom [] name) := by
    intro entry he
    exact Glob.accepts_parse_iff (not_mem_lowerFrom_trim (by decide) (by decide) (h entry he).1)
      (not_mem_lowerFrom_trim (by decide) (by decide) (h entry he).2) _
  rw [listed, matchesAny, List.any_map, List.any_map, List.any_eq_true]
  simp only [Function.comp_apply, hlower]
  constructor
  · rintro ⟨p, hp, hm⟩
    obtain ⟨entry, he, hne, rfl⟩ := mem_patternsIn_iff.mp hp
    exact ⟨entry, he, hne, (haccepts entry he).mp hm⟩
  · rintro ⟨entry, he, hne, hm⟩
    exact ⟨_, mem_patternsIn_iff.mpr ⟨entry, he, hne, rfl⟩, (haccepts entry he).mpr hm⟩

/-! ## the environment -/

/-- no variable of the environment names a proxy or exempts anything from one -/
def NoProxyVariables (e : Environment) : Prop :=
  ∀ v ∈ e, "_proxy".toList.isSuffixOf (Text.lower v.1).toList = false

theorem environmentExempts_eq {e : Environment} (h : NoProxyVariables e) (host : String) :
    environmentExempts e host = false := by
  have hnone : (e.filter fun v => Text.lower v.1 == exemptVariable) = [] := by
    rw [List.filter_eq_nil_iff]
    intro v hv he
    have hsuffix := h v hv
    rw [beq_iff_eq.mp he] at hsuffix
    exact absurd hsuffix (by decide)
  have hdomains : exemptDomains? e = none := by
    rw [exemptDomains?, hnone]
    rfl
  rw [environmentExempts, hdomains]

end Routing

end ProxyInjector
