import ProxyInjector.Proofs.Routing.Exemption
import ProxyInjector.Proofs.Routing.Configured
import ProxyInjector.Proofs.Store.Overlay
import ProxyInjector.Proofs.Text.Padding

/-!
# The entries of a list between bars

The list of exempt hosts is a text, with bars between its entries.  Blanks around an entry and
pieces that are blank say nothing, so that many texts stand for the same entries.

* `IsEntry`       what can be an entry;
* `Spread`        the pieces of a text, with the entries among them;
* `patternsIn_intercalate`   the entries are what is read, wherever they are spread;
* `Store.exemptHosts_spread`   a store reads entries from any text, and these from any text over
                  whose pieces they are spread.
-/

namespace ProxyInjector

namespace Routing

open Text (IsPadding IsTrimmed)

/-! ## entries among pieces -/

/-- what may stand between bars for a host: some text with no bar in it and no blank at its ends -/
structure IsEntry (entry : String) : Prop where
  nonempty : entry ≠ ""
  noBar : '|' ∉ entry.toList
  trimmed : IsTrimmed entry.toList

/-- the pieces are the entries in their order, each with blanks around it, and blank pieces in any
places -/
inductive Spread : (entries pieces : List String) → Prop where
  | nil : Spread [] []
  | blank {piece : String} {entries pieces : List String} (hblank : IsPadding piece.toList)
      (h : Spread entries pieces) : Spread entries (piece :: pieces)
  | entry {before entry behind : String} {entries pieces : List String}
      (hbefore : IsPadding before.toList) (hbehind : IsPadding behind.toList)
      (h : Spread entries pieces) :
      Spread (entry :: entries) ((before ++ entry ++ behind) :: pieces)

theorem IsEntry.ofList {cs : List Char} (hne : cs ≠ []) (hbar : '|' ∉ cs)
    (htrimmed : IsTrimmed cs) :
    IsEntry (String.ofList cs) where
  nonempty := fun h => hne (String.ofList_eq_empty_iff.mp h)
  noBar := by rwa [String.toList_ofList]
  trimmed := by rwa [String.toList_ofList]

theorem not_bar_of_isPadding {cs : List Char} (h : IsPadding cs) : '|' ∉ cs :=
  fun hm => absurd (h _ hm) (by decide)

section
variable {entries pieces : List String}

theorem Spread.refl (entries : List String) : Spread entries entries := by
  induction entries with
  | nil => exact .nil
  | cons entry entries ih =>
    have h : Spread (entry :: entries) (("" ++ entry ++ "") :: entries) := .entry nofun nofun ih
    rwa [String.empty_append, String.append_empty] at h

theorem Spread.not_bar (h : Spread entries pieces) (hentries : ∀ e ∈ entries, IsEntry e) :
    ∀ p ∈ pieces, '|' ∉ p.toList := by
  induction h with
  | nil => exact fun p hp => absurd hp List.not_mem_nil
  | blank hblank _ ih =>
    exact List.forall_mem_cons.mpr ⟨not_bar_of_isPadding hblank, ih hentries⟩
  | entry hbefore hbehind _ ih =>
    obtain ⟨hentry, hentries⟩ := List.forall_mem_cons.mp hentries
    refine List.forall_mem_cons.mpr ⟨?_, ih hentries⟩
    simp only [String.toList_append, List.mem_append, not_or]
    exact ⟨⟨not_bar_of_isPadding hbefore, hentry.noBar⟩, not_bar_of_isPadding hbehind⟩

/-- trimming finds the entries, and nothing but blanks beside them -/
theorem Spread.trim_eq (h : Spread entries pieces) (hentries : ∀ e ∈ entries, IsEntry e) :
    ((pieces.map String.toList).map Text.trim).filter (· != []) = entries.map String.toList := by
  induction h with
  | nil => rfl
  | blank hblank _ ih =>
    rw [List.map_cons, List.map_cons, Text.trim_of_padding hblank,
      List.filter_cons_of_neg (by simp)]
    exact ih hentries
  | @entry before entry behind _ _ hbefore hbehind _ ih =>
    obtain ⟨hentry, hentries⟩ := List.forall_mem_cons.mp hentries
    have htrim : Text.trim (before ++ entry ++ behind).toList = entry.toList := by
      rw [String.toList_append, String.toList_append]
      exact Text.trim_padded hbefore hentry.trimmed hbehind
    have hne : entry.toList ≠ [] := fun h => hentry.nonempty (String.toList_eq_nil_iff.mp h)
    rw [List.map_cons, List.map_cons, htrim, List.filter_cons, if_pos (bne_iff_ne.mpr hne),
      ih hentries, List.map_cons]

/-- what trimming finds is spread over the pieces -/
theorem spread_trim (pieces : List (List Char)) :
    Spread (((pieces.map Text.trim).filter (· != [])).map String.ofList)
      (pieces.map String.ofList) := by
  induction pieces with
  | nil => exact .nil
  | cons p pieces ih =>
    obtain ⟨before, behind, hp, hbefore, hbehind⟩ := Text.exists_padding p
    by_cases hne : Text.trim p = []
    · rw [List.map_cons, List.map_cons, hne, List.filter_cons_of_neg (by simp)]
      refine .blank ?_ ih
      rw [String.toList_ofList, hp, hne, List.append_nil]
      exact List.forall_mem_append.mpr ⟨hbefore, hbehind⟩
    · have hpiece : String.ofList p
          = String.ofList before ++ String.ofList (Text.trim p) ++ String.ofList behind := by
        rw [← String.ofList_append, ← String.ofList_append, ← hp]
      rw [List.map_cons, List.map_cons, List.filter_cons, if_pos (bne_iff_ne.mpr hne),
        List.map_cons, hpiece]
      refine .entry ?_ ?_ ih
      · rwa [String.toList_ofList]
      · rwa [String.toList_ofList]

theorem patternsIn_intercalate (h : Spread entries pieces) (hentries : ∀ e ∈ entries, IsEntry e) :
    (Store.patternsIn ("|".intercalate pieces).toList).map String.ofList = entries := by
  have htrim := h.trim_eq hentries
  have hlist : ("|".intercalate pieces).toList = ['|'].intercalate (pieces.map String.toList) :=
    String.toList_intercalate
  have hpatterns :
      Store.patternsIn ("|".intercalate pieces).toList = entries.map String.toList := by
    by_cases hne : pieces = []
    · subst hne
      cases h
      rfl
    · have hbar : ∀ p ∈ pieces.map String.toList, '|' ∉ p := by
        intro p hp
        obtain ⟨piece, hpiece, rfl⟩ := List.mem_map.mp hp
        exact h.not_bar hentries piece hpiece
      rw [Store.patternsIn, hlist,
        Text.segments_intercalate (fun hnil => hne (List.map_eq_nil_iff.mp hnil)) hbar, htrim]
  rw [hpatterns, List.map_map]
  simp [Function.comp_def]

theorem isEntry_of_mem_patternsIn {list p : List Char} (h : p ∈ Store.patternsIn list) :
    IsEntry (String.ofList p) := by
  obtain ⟨piece, hpiece, hne, rfl⟩ := mem_patternsIn_iff.mp h
  have hbar : '|' ∉ piece := Text.not_mem_of_mem_segments hpiece
  exact .ofList hne (fun hm => hbar (Text.mem_of_mem_trim hm)) (Text.isTrimmed_trim piece)

end

end Routing

/-! ## the entries of a store -/

open Routing (IsEntry Spread)

/-- the text under the key of the exempt hosts -/
def Store.Lists (s : Store) (list : String) : Prop :=
  s.entries.get? (.text "http.nonProxyHosts") = some (.text list)

theorem Store.Lists.exemptHosts_eq {s : Store} {list : String} (h : s.Lists list) :
    s.exemptHosts = .ok ((patternsIn list.toList).map String.ofList) := by
  refine Store.exemptHosts_eq (.inl ?_)
  rw [Store.lookup_eq, show s.entries.get? (.text Key.exemptHosts) = _ from h]
  rfl

/-- **The entries of a list.**  From the text of the exempt hosts a store reads what is left of the
pieces between its bars once blanks are trimmed off and empty pieces are left out.  These are
entries, they are read again where they are joined by bars, and wherever any entries are spread over
the pieces of a text, they are the ones that are read from it. -/
theorem Store.exemptHosts_spread {s : Store} {list : String} (h : s.Lists list) :
    ∃ entries, s.exemptHosts = .ok entries ∧
      entries.map String.toList
        = ((Text.segments '|' list.toList).map Text.trim).filter (· != []) ∧
      Spread entries ((Text.segments '|' list.toList).map String.ofList) ∧
      (∀ e ∈ entries, IsEntry e) ∧
      (∀ t : Store, t.Lists ("|".intercalate entries) → t.exemptHosts = .ok entries) ∧
      ∀ others pieces, (∀ e ∈ others, IsEntry e) → Spread others pieces →
        list = "|".intercalate pieces → s.exemptHosts = .ok others := by
  have hentries : ∀ e ∈ (patternsIn list.toList).map String.ofList, IsEntry e := by
    intro e he
    obtain ⟨p, hp, rfl⟩ := List.mem_map.mp he
    exact Routing.isEntry_of_mem_patternsIn hp
  refine ⟨_, h.exemptHosts_eq, ?_, Routing.spread_trim _, hentries, ?_, ?_⟩
  · rw [List.map_map]
    simp [Function.comp_def, patternsIn]
  · intro t ht
    rw [ht.exemptHosts_eq, Routing.patternsIn_intercalate (.refl _) hentries]
  · rintro others pieces hothers hspread rfl
    rw [h.exemptHosts_eq, Routing.patternsIn_intercalate hspread hothers]

/-- wide and narrow blanks, blank pieces, and a blank inside an entry -/
theorem Store.exemptHosts_spread_littered :
    let list := "|\u3000*.a \t| |b c\u2028||"
    let s : Store := .environment [("http.nonProxyHosts", list)]
    s.Lists list ∧ s.exemptHosts = .ok ["*.a", "b c"] ∧
      ∀ t : Store, t.Lists "*.a|b c" → t.exemptHosts = .ok ["*.a", "b c"] := by
  intro list s
  have hlists : s.Lists list := rfl
  have hread : s.exemptHosts.toOption = some ["*.a", "b c"] := by decide +kernel
  obtain ⟨entries, hentries, -, -, -, hjoined, -⟩ := exemptHosts_spread hlists
  rw [hentries] at hread
  obtain rfl : entries = ["*.a", "b c"] := Option.some.inj hread
  exact ⟨hlists, hentries, hjoined⟩

end ProxyInjector
