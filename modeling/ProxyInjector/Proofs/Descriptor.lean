import ProxyInjector.Descriptor
import ProxyInjector.Proofs.Text.Segments

/-!
# Which texts are descriptors

`Descriptor.parse?_eq_some_iff`: a text is read as host and port exactly if it is the two with a
colon between them and none inside.  There is such a reading exactly if the text has one colon
(`parse?_isSome_iff`).

Reading and writing are inverse as long as neither part has a colon (`parse?_writes`).
-/

namespace ProxyInjector.Descriptor

theorem parse?_eq_some_iff {raw : String} {d : Descriptor} :
    parse? raw = some d
      ↔ raw = d.host ++ ":" ++ d.port ∧ ':' ∉ d.host.toList ∧ ':' ∉ d.port.toList := by
  have hraw : raw = d.host ++ ":" ++ d.port ↔ raw.toList = d.host.toList ++ ':' :: d.port.toList := by
    rw [← String.toList_inj]
    simp
  rw [hraw, ← Text.segments_eq_pair_iff]
  unfold parse?
  constructor
  · intro h
    split at h
    · next host port hs =>
      rw [hs, ← Option.some.inj h, String.toList_ofList, String.toList_ofList]
    · cases h
  · intro h
    rw [h]
    simp

theorem parse?_isSome_iff {raw : String} : (parse? raw).isSome ↔ raw.toList.count ':' = 1 := by
  have hl : (Text.segments ':' raw.toList).length = raw.toList.count ':' + 1 :=
    Text.length_segments raw.toList
  unfold parse?
  constructor
  · intro h
    split at h
    · next host port hs =>
      rw [hs] at hl
      exact (Nat.succ.inj hl).symm
    · cases h
  · intro h
    rw [h] at hl
    generalize Text.segments ':' raw.toList = ss at hl ⊢
    match ss, hl with
    | [_, _], _ => rfl

theorem parse?_eq_none_iff {raw : String} : parse? raw = none ↔ raw.toList.count ':' ≠ 1 := by
  rw [← Option.not_isSome_iff_eq_none, parse?_isSome_iff]

/-- no colon in either part -/
def Plain (d : Descriptor) : Prop := ':' ∉ d.host.toList ∧ ':' ∉ d.port.toList

instance (d : Descriptor) : Decidable d.Plain := inferInstanceAs (Decidable (_ ∧ _))

theorem parse?_toString_eq_some_iff {d : Descriptor} : parse? d.toString = some d ↔ d.Plain :=
  parse?_eq_some_iff.trans (and_iff_right rfl)

theorem parse?_toString_of_not_plain {d : Descriptor} (h : ¬ d.Plain) :
    parse? d.toString = none := by
  rw [parse?_eq_none_iff]
  intro h1
  have hcount : d.host.toList.count ':' = 0 ∧ d.port.toList.count ':' = 0 := by
    simp only [Descriptor.toString, String.toList_append, List.count_append] at h1
    have hcolon : ":".toList.count ':' = 1 := by decide
    omega
  exact h ⟨List.count_eq_zero.mp hcount.1, List.count_eq_zero.mp hcount.2⟩

theorem toString_of_parse? {raw : String} {d : Descriptor} (h : parse? raw = some d) :
    d.toString = raw := (parse?_eq_some_iff.mp h).1.symm

theorem plain_of_parse? {raw : String} {d : Descriptor} (h : parse? raw = some d) : d.Plain :=
  (parse?_eq_some_iff.mp h).2

/-- **Reading and writing.**  A text can be read exactly if it has one colon, and what is read
writes the text again.  A descriptor that is written can be read exactly if there is no colon in
its parts, and is then read as itself; so it writes what no other descriptor writes. -/
theorem parse?_writes (raw : String) (d : Descriptor) :
    ((parse? raw).isSome ↔ raw.toList.count ':' = 1) ∧
    (parse? raw = some d → d.toString = raw) ∧
    parse? d.toString
      = (if ':' ∉ d.host.toList ∧ ':' ∉ d.port.toList then some d else none) ∧
    (parse? raw = some d → ∀ d' : Descriptor, d'.toString = d.toString → d' = d) := by
  have hread : ∀ d : Descriptor, parse? d.toString = if d.Plain then some d else none := by
    intro d
    split
    · next h => exact parse?_toString_eq_some_iff.mpr h
    · next h => exact parse?_toString_of_not_plain h
  refine ⟨parse?_isSome_iff, toString_of_parse?, hread d, fun h d' hsame => ?_⟩
  -- both are read from one text, and one of them can be read
  have hd : parse? d'.toString = some d := by
    rw [hsame, hread, if_pos (plain_of_parse? h)]
  rw [hread] at hd
  obtain ⟨-, hd⟩ := Option.ite_none_right_eq_some.mp hd
  exact Option.some.inj hd

/-- nothing needs to stand around the colon -/
theorem parse?_writes_bare :
    parse? ":" = some ⟨"", ""⟩ ∧ Descriptor.toString ⟨"", ""⟩ = ":" ∧
    parse? (Descriptor.toString ⟨"", ""⟩) = some ⟨"", ""⟩ ∧
    parse? (Descriptor.toString ⟨":", ""⟩) = none ∧
    ∀ d : Descriptor, d.toString = Descriptor.toString ⟨"", ""⟩ → d = ⟨"", ""⟩ := by
  have hread : parse? ":" = some ⟨"", ""⟩ := by decide
  obtain ⟨-, hwrites, hsame, honly⟩ := parse?_writes ":" ⟨"", ""⟩
  obtain ⟨-, -, hnone, -⟩ := parse?_writes "::" ⟨":", ""⟩
  refine ⟨hread, hwrites hread, ?_, ?_, honly hread⟩
  · rw [hsame, if_pos (by decide)]
  · rw [hnone, if_neg (by decide)]

end ProxyInjector.Descriptor
