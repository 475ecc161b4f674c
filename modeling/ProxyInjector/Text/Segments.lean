/-!
# Cutting a text at a separator

* `segments sep cs`   all pieces between the separators; there is always at least one;
* `cut? sep cs`       what stands before and behind the first separator;
* `cutLast? sep cs`   what stands before and behind the last one.

Joining undoes each of them: `intercalate_segments`, `eq_of_cut?`, `eq_of_cutLast?`.
-/

namespace ProxyInjector.Text

def segments (sep : Char) : List Char → List (List Char)
  | [] => [[]]
  | c :: cs =>
    if c = sep then [] :: segments sep cs
    else match segments sep cs with
      | [] => [[c]]
      | s :: ss => (c :: s) :: ss

def cut? (sep : Char) : List Char → Option (List Char × List Char)
  | [] => none
  | c :: cs => if c = sep then some ([], cs) else (cut? sep cs).map fun p => (c :: p.1, p.2)

def cutLast? (sep : Char) : List Char → Option (List Char × List Char)
  | [] => none
  | c :: cs =>
    match cutLast? sep cs with
    | some p => some (c :: p.1, p.2)
    | none => if c = sep then some ([], cs) else none

/-- what stands before the first separator; all of the text if there is none -/
def beforeFirst (sep : Char) (cs : List Char) : List Char := ((cut? sep cs).map (·.1)).getD cs

/-- what stands behind the first separator; nothing if there is none -/
def afterFirst (sep : Char) (cs : List Char) : List Char := ((cut? sep cs).map (·.2)).getD []

/-- what stands behind the last separator; all of the text if there is none -/
def afterLast (sep : Char) (cs : List Char) : List Char := ((cutLast? sep cs).map (·.2)).getD cs

/-- the piece stands somewhere in the text -/
def occursIn (piece : List Char) : List Char → Bool
  | [] => piece == []
  | c :: cs => piece.isPrefixOf (c :: cs) || occursIn piece cs

/-! ## laws -/

theorem segments_ne_nil (sep : Char) (cs : List Char) : segments sep cs ≠ [] := by
  induction cs with
  | nil => simp [segments]
  | cons c cs ih =>
    unfold segments
    split
    · simp
    · split <;> simp

theorem intercalate_segments (sep : Char) (cs : List Char) :
    [sep].intercalate (segments sep cs) = cs := by
  induction cs with
  | nil => rfl
  | cons c cs ih =>
    unfold segments
    split
    · next h =>
      subst h
      cases hs : segments c cs with
      | nil => exact absurd hs (segments_ne_nil c cs)
      | cons s ss => rw [hs] at ih; simp [List.intercalate, List.intersperse] at ih ⊢; exact ih
    · split
      · next hs => exact absurd hs (segments_ne_nil sep cs)
      · next s ss hs =>
        rw [hs] at ih
        cases ss with
        | nil => simp [List.intercalate, List.intersperse] at ih ⊢; exact ih
        | cons t ts => simp [List.intercalate, List.intersperse] at ih ⊢; exact ih

theorem eq_of_cut? {sep : Char} {cs a b : List Char} (h : cut? sep cs = some (a, b)) :
    cs = a ++ sep :: b := by
  induction cs generalizing a with
  | nil => simp [cut?] at h
  | cons c cs ih =>
    unfold cut? at h
    split at h
    · next hc => simp at h; obtain ⟨rfl, rfl⟩ := h; simp [hc]
    · obtain ⟨p, hp, he⟩ := Option.map_eq_some_iff.1 h
      simp only [Prod.mk.injEq] at he
      obtain ⟨rfl, rfl⟩ := he
      simp [ih hp]

theorem eq_of_cutLast? {sep : Char} {cs a b : List Char} (h : cutLast? sep cs = some (a, b)) :
    cs = a ++ sep :: b := by
  induction cs generalizing a with
  | nil => simp [cutLast?] at h
  | cons c cs ih =>
    unfold cutLast? at h
    split at h
    · next p hp =>
      simp at h
      obtain ⟨rfl, rfl⟩ := h
      simp [ih hp]
    · split at h
      · next hc => simp at h; obtain ⟨rfl, rfl⟩ := h; simp [hc]
      · simp at h

theorem cut?_eq_none_iff {sep : Char} {cs : List Char} : cut? sep cs = none ↔ sep ∉ cs := by
  induction cs with
  | nil => simp [cut?]
  | cons c cs ih =>
    by_cases h : c = sep
    · simp [cut?, h]
    · simp [cut?, h, ih, Ne.symm h]

theorem cutLast?_eq_none_iff {sep : Char} {cs : List Char} :
    cutLast? sep cs = none ↔ sep ∉ cs := by
  induction cs with
  | nil => simp [cutLast?]
  | cons c cs ih =>
    unfold cutLast?
    cases h : cutLast? sep cs with
    | some p => simp [mt ih.2 (by simp [h])]
    | none => by_cases hc : c = sep <;> simp [hc, ih.1 h, Ne.symm]

end ProxyInjector.Text
