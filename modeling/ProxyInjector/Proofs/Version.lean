import ProxyInjector.Proofs.Text.Integer
import ProxyInjector.Proofs.Text.Padding
import ProxyInjector.Version

/-!
# What the parts of a version keep

A version can be put together again from its parts, and a version of printed numbers gives these
numbers.  The only texts that lose something are those whose first plus sign stands at the very
end: a local part of nothing is none.

* `rejoin`                     the version with these parts;
* `parts_of_not_mem`, `parts_append_cons`   the parts of a version without and with a plus sign;
* `map_ofText_parts`           printed numbers between dots, read again;
* `parts_lossless`             a version is found again in its parts, as a text and as numbers.
-/

namespace ProxyInjector.Version

/-- the version with these parts, of which the last one is the local part -/
def rejoin (parts : List String) : String :=
  let front := ".".intercalate parts.dropLast
  let label := parts.getLastD ""
  if label = "" then front else front ++ "+" ++ label

/-! ## parts put together -/

theorem intercalate_segments (cs : List Char) :
    ".".intercalate ((Text.segments '.' cs).map String.ofList) = String.ofList cs := by
  have hchars : ((Text.segments '.' cs).map String.ofList).map String.toList
      = Text.segments '.' cs := by simp
  rw [← String.toList_inj, String.toList_intercalate, hchars]
  exact (Text.intercalate_segments '.' cs).trans String.toList_ofList.symm

theorem rejoin_concat (front : List Char) (label : String) :
    rejoin ((Text.segments '.' front).map String.ofList ++ [label])
      = if label = "" then String.ofList front else String.ofList front ++ "+" ++ label := by
  rw [rejoin, List.dropLast_concat, List.getLastD_concat, intercalate_segments]

theorem parts_of_not_mem {v : String} (h : '+' ∉ v.toList) :
    parts v = (Text.segments '.' v.toList).map String.ofList ++ [""] := by
  rw [parts, Text.beforeFirst_of_not_mem h, Text.afterFirst, Text.cut?_eq_none_iff.mpr h,
    List.map_append]
  rfl

theorem parts_append_cons {v : String} {front label : List Char} (h : '+' ∉ front)
    (hv : v.toList = front ++ '+' :: label) :
    parts v = (Text.segments '.' front).map String.ofList ++ [String.ofList label] := by
  rw [parts, hv, Text.beforeFirst_append_cons h, Text.afterFirst_append_cons h, List.map_append]
  rfl

theorem rejoin_parts (v : String) :
    rejoin (parts v)
      = if v.toList.idxOf '+' + 1 = v.toList.length then String.ofList v.toList.dropLast
        else v := by
  by_cases hplus : '+' ∈ v.toList
  · obtain ⟨front, label, hv, hfront⟩ := List.eq_append_cons_of_mem hplus
    have hplace : v.toList.idxOf '+' = front.length := by
      rw [hv, List.idxOf_append_of_notMem hfront, List.idxOf_cons_self, Nat.add_zero]
    rw [parts_append_cons hfront hv, rejoin_concat, hplace, hv, List.length_append]
    cases label with
    | nil =>
      rw [if_pos String.ofList_nil, List.length_singleton, if_pos rfl, List.dropLast_concat]
    | cons c label =>
      have hlength : front.length + 1 ≠ front.length + ('+' :: c :: label).length := by
        simp
      rw [if_neg (by simp), if_neg hlength, ← String.toList_inj, hv]
      simp
  · rw [parts_of_not_mem hplus, rejoin_concat, if_pos rfl, String.ofList_toList,
      List.idxOf_eq_length_iff.mpr hplus, if_neg (by omega)]

/-! ## printed numbers -/

theorem toList_toString (n : Nat) : (toString n).toList = Nat.toDigits 10 n := by
  rw [Nat.toString_eq_ofList_toDigits, String.toList_ofList]

theorem length_toString_le_iff (n : Nat) {k : Nat} (hk : 0 < k) :
    (toString n).length ≤ k ↔ n < 10 ^ k := by
  rw [← String.length_toList, toList_toString]
  exact Nat.length_toDigits_le_iff (by omega) hk

/-- a printed number as a part, unless it has too many digits to be read -/
def Part.ofNumber (n : Nat) : Part :=
  if (toString n).length ≤ 4300 then .number n else .word (toString n)

theorem Part.ofText_toString (n : Nat) : Part.ofText (toString n) = .ofNumber n := by
  have hmax : Text.maxDigits = 4300 := rfl
  rw [Part.ofText, toList_toString, Text.integer?_toDigits, hmax, Part.ofNumber]
  simp only [length_toString_le_iff n (by omega : 0 < 4300)]
  split <;> rfl

theorem not_mem_toString (n : Nat) {c : Char} (h : c.isDigit = false) : c ∉ (toString n).toList := by
  intro hc
  rw [toList_toString] at hc
  exact Text.ne_of_isDigit (Text.isDigit_of_mem_toDigits n hc) h rfl

/-- numbers between dots -/
theorem parts_intercalate {ns : List Nat} (hne : ns ≠ []) :
    parts (".".intercalate (ns.map toString)) = ns.map toString ++ [""] := by
  have hchars : (".".intercalate (ns.map toString)).toList
      = ['.'].intercalate ((ns.map toString).map String.toList) := String.toList_intercalate
  have hsegments : Text.segments '.' (['.'].intercalate ((ns.map toString).map String.toList))
      = (ns.map toString).map String.toList := by
    refine Text.segments_intercalate (by simpa using hne) fun piece hpiece => ?_
    simp only [List.map_map, List.mem_map] at hpiece
    obtain ⟨n, -, rfl⟩ := hpiece
    exact not_mem_toString n rfl
  have hplus : '+' ∉ (".".intercalate (ns.map toString)).toList := by
    intro h
    rw [hchars] at h
    obtain ⟨piece, hpiece, hmem⟩ := Text.exists_mem_segments (by decide : '+' ≠ '.') h
    rw [hsegments] at hpiece
    simp only [List.map_map, List.mem_map] at hpiece
    obtain ⟨n, -, rfl⟩ := hpiece
    exact not_mem_toString n rfl hmem
  have hback : String.ofList ∘ String.toList = id := funext fun _ => String.ofList_toList
  rw [parts_of_not_mem hplus, hchars, hsegments, List.map_map, hback, List.map_id]

theorem map_ofText_parts {ns : List Nat} (hne : ns ≠ []) :
    (parts (".".intercalate (ns.map toString))).map Part.ofText
      = ns.map Part.ofNumber ++ [.word ""] := by
  have hnumber : Part.ofText ∘ toString = Part.ofNumber := funext Part.ofText_toString
  rw [parts_intercalate hne, List.map_append, List.map_map, hnumber]
  rfl

/-- **Versions and their parts.**  Put together again, the parts of a text give the text; only
where its first plus sign is its last character, that sign is lost.  Printed numbers between dots
are read as these numbers, with an empty local part behind them, as long as each has at most 4300
digits, and a printed number with more digits stays a text. -/
theorem parts_lossless :
    (∀ v : String, rejoin (parts v)
      = if v.toList.idxOf '+' + 1 = v.toList.length then String.ofList v.toList.dropLast
        else v) ∧
    (∀ ns : List Nat, ns ≠ [] → (∀ n ∈ ns, n < 10 ^ 4300) →
      (parts (".".intercalate (ns.map toString))).map Part.ofText
        = ns.map (fun n : Nat => Part.number n) ++ [.word ""]) ∧
    ∀ n : Nat, 4301 ≤ (toString n).length → Part.ofText (toString n) = .word (toString n) := by
  refine ⟨rejoin_parts, fun ns hne hns => ?_, fun n hlength => ?_⟩
  · have hnumbers : ns.map Part.ofNumber = ns.map fun n : Nat => Part.number n :=
      List.map_congr_left fun n hn => if_pos ((length_toString_le_iff n (by omega)).mpr (hns n hn))
    rw [map_ofText_parts hne, hnumbers]
  · rw [Part.ofText_toString]
    exact if_neg (by omega)

/-- the smallest and the largest number that is read, and the next one, which is not -/
theorem parts_lossless_longest :
    rejoin (parts "1..0a+") = "1..0a" ∧ rejoin (parts "1.0+b+") = "1.0+b+" ∧
    (parts (".".intercalate ([0, 10 ^ 4300 - 1].map toString))).map Part.ofText
      = [.number 0, .number (10 ^ 4300 - 1 : Nat), .word ""] ∧
    Part.ofText (toString (10 ^ 4300)) = .word (toString (10 ^ 4300)) := by
  obtain ⟨hrejoin, hnumbers, hword⟩ := parts_lossless
  have hpos : 0 < 10 ^ 4300 := pow_pos (by omega) _
  have hlength : ¬ (toString (10 ^ 4300)).length ≤ 4300 := by
    rw [length_toString_le_iff _ (by omega)]
    exact Nat.lt_irrefl _
  refine ⟨hrejoin "1..0a+", hrejoin "1.0+b+", hnumbers _ (List.cons_ne_nil _ _) ?_,
    hword _ (Nat.not_le.mp hlength)⟩
  simp only [List.forall_mem_cons]
  exact ⟨hpos, Nat.sub_lt hpos Nat.one_pos, fun n hn => absurd hn List.not_mem_nil⟩

end ProxyInjector.Version
