import ProxyInjector.Url.Percent

/-!
# Texts without escapes

A text without percent signs is its own meaning (`Url.unescape_of_not_mem`): a stretch of ASCII is
its bytes, and those bytes are the stretch again.
-/

namespace ProxyInjector

theorem Text.Utf8.decode_of_ascii {bs : List Nat} (h : ∀ b ∈ bs, b < 0x80) :
    Text.Utf8.decode bs = bs.map Char.ofNat := by
  induction bs with
  | nil => rfl
  | cons b bs ih =>
    obtain ⟨hb, hbs⟩ := List.forall_mem_cons.mp h
    have hstart : Text.Utf8.start b = ([Char.ofNat b], none) := if_pos hb
    show (Text.Utf8.start b).1 ++ Text.Utf8.decodeFrom (Text.Utf8.start b).2 bs = _
    rw [hstart, List.map_cons, ← ih hbs]
    rfl

namespace Url

theorem bytes_cons_of_ne {c : Char} (h : c ≠ '%') (cs : List Char) :
    bytes (c :: cs) = Text.Utf8.encodeChar c ++ bytes cs := by
  rw [bytes]
  rintro a b ds hc -
  exact h hc

theorem bytes_of_ascii {cs : List Char} (ha : ∀ c ∈ cs, c.toNat < 0x80) (hp : '%' ∉ cs) :
    bytes cs = cs.map Char.toNat := by
  induction cs with
  | nil => rfl
  | cons c cs ih =>
    obtain ⟨hc, hcs⟩ := List.forall_mem_cons.mp ha
    have henc : Text.Utf8.encodeChar c = [c.toNat] := if_pos hc
    rw [bytes_cons_of_ne (Ne.symm (List.ne_of_not_mem_cons hp)), henc,
      ih hcs (List.not_mem_of_not_mem_cons hp)]
    rfl

theorem decode_bytes_of_ascii {cs : List Char} (ha : ∀ c ∈ cs, c.toNat < 0x80) (hp : '%' ∉ cs) :
    Text.Utf8.decode (bytes cs) = cs := by
  have hn : ∀ b ∈ cs.map Char.toNat, b < 0x80 := by
    intro b hb
    obtain ⟨c, hc, rfl⟩ := List.mem_map.mp hb
    exact ha c hc
  rw [bytes_of_ascii ha hp, Text.Utf8.decode_of_ascii hn, List.map_map]
  simp [Function.comp_def]

theorem unescapeFrom_of_not_mem {stretch cs : List Char} (ha : ∀ c ∈ stretch, c.toNat < 0x80)
    (hs : '%' ∉ stretch) (hp : '%' ∉ cs) : unescapeFrom stretch cs = stretch.reverse ++ cs := by
  have hdecode : Text.Utf8.decode (bytes stretch.reverse) = stretch.reverse :=
    decode_bytes_of_ascii (fun c hc => ha c (List.mem_reverse.mp hc))
      (fun h => hs (List.mem_reverse.mp h))
  induction cs generalizing stretch with
  | nil => rw [unescapeFrom, hdecode, List.append_nil]
  | cons c cs ih =>
    have hc : '%' ≠ c := List.ne_of_not_mem_cons hp
    have hcs : '%' ∉ cs := List.not_mem_of_not_mem_cons hp
    rw [unescapeFrom]
    by_cases h : c.toNat < 0x80
    · have ha' : ∀ d ∈ c :: stretch, d.toNat < 0x80 := List.forall_mem_cons.mpr ⟨h, ha⟩
      have hs' : '%' ∉ c :: stretch := List.not_mem_cons_of_ne_of_not_mem hc hs
      rw [if_pos h, ih ha' hs' hcs
        (decode_bytes_of_ascii (fun d hd => ha' d (List.mem_reverse.mp hd))
          (fun hd => hs' (List.mem_reverse.mp hd)))]
      simp
    · rw [if_neg h, hdecode, ih (fun _ hd => absurd hd List.not_mem_nil) List.not_mem_nil hcs rfl]
      rfl

theorem unescape_of_not_mem {cs : List Char} (h : '%' ∉ cs) : unescape cs = cs :=
  unescapeFrom_of_not_mem (fun _ hd => absurd hd List.not_mem_nil) List.not_mem_nil h

end Url

end ProxyInjector
