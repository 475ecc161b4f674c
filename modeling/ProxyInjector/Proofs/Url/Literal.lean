import ProxyInjector.Proofs.Url.Written

/-!
# Addresses as authorities

`Url.Literal` is an authority whose host is an address of version 6 in brackets, without a zone,
and perhaps a port.

* `isAddressChar_of_isV6`   an address without a zone is made of hex digits, colons and dots;
* `Literal.legible`         so its brackets are all that a reader of URLs has to look at;
* `Literal.hostname_eq`     and they do not belong to the host.
-/

namespace ProxyInjector.Url

/-! ## the characters of an address -/

def isAddressChar (c : Char) : Bool := (Text.hexValue? c).isSome || c == ':' || c == '.'

/-- where they stand: dot, digits and colon, capitals and small letters up to f -/
theorem toNat_of_isAddressChar {c : Char} (h : isAddressChar c = true) :
    c.toNat = 46 ∨ 48 ≤ c.toNat ∧ c.toNat ≤ 58 ∨ 65 ≤ c.toNat ∧ c.toNat ≤ 70
      ∨ 97 ≤ c.toNat ∧ c.toNat ≤ 102 := by
  simp only [isAddressChar, Bool.or_eq_true, beq_iff_eq] at h
  rcases h with (h | rfl) | rfl
  · have hle : ∀ a b : Char, a ≤ b ↔ a.toNat ≤ b.toNat := fun _ _ => Iff.rfl
    simp only [Text.hexValue?, hle] at h
    simp only [Char.reduceToNat] at h
    split at h
    · omega
    split at h
    · omega
    split at h
    · omega
    · cases h
  all_goals decide

theorem isAddressChar_of_isDigit {c : Char} (h : c.isDigit = true) : isAddressChar c = true := by
  have hd := Text.toNat_of_isDigit h
  have hrange : '0' ≤ c ∧ c ≤ '9' := hd
  simp [isAddressChar, Text.hexValue?, if_pos hrange]

theorem eq_or_isDigit_of_isV4 {cs : List Char} (h : isV4 cs = true) {c : Char} (hc : c ∈ cs) :
    c = '.' ∨ c.isDigit = true := by
  by_cases hdot : c = '.'
  · exact .inl hdot
  right
  simp only [isV4, Bool.and_eq_true] at h
  obtain ⟨p, hp, hm⟩ := Text.exists_mem_segments hdot hc
  have hoctet := List.all_eq_true.mp h.1.2 p hp
  simp only [isOctet, Bool.and_eq_true] at hoctet
  exact List.all_eq_true.mp hoctet.1.1.1.2 c hm

/-- a group of hex digits, or nothing -/
def IsGroupOrNil (cs : List Char) : Prop := cs = [] ∨ isGroup cs = true

theorem isGroupOrNil_of_isSide {gs : List (List Char)} (h : isSide gs = true) {g : List Char}
    (hg : g ∈ gs) : IsGroupOrNil g := by
  rw [isSide, Bool.or_eq_true, beq_iff_eq] at h
  rcases h with rfl | h
  · exact .inl (List.mem_singleton.mp hg)
  · exact .inr (List.all_eq_true.mp h g hg)

theorem isGroupOrNil_of_isGroups {gs : List (List Char)} (h : isGroups gs = true) {g : List Char}
    (hg : g ∈ gs) : IsGroupOrNil g := by
  obtain ⟨first, gs, rfl⟩ := List.exists_cons_of_ne_nil (List.ne_nil_of_mem hg)
  have hplace : g = first ∨ g ∈ gs.dropLast ∨ g ∈ (first :: gs).drop gs.length := by
    rcases List.mem_cons.mp hg with h | h
    · exact .inl h
    · right
      rcases List.eq_nil_or_concat gs with rfl | ⟨init, last, rfl⟩
      · exact absurd h List.not_mem_nil
      · simpa [List.concat_eq_append] using h
  simp only [isGroups, List.drop_one, List.tail_cons] at h
  split at h
  · rw [Bool.and_eq_true] at h
    exact .inr (List.all_eq_true.mp h.2 g hg)
  · next x after hinner =>
    simp only [Bool.and_eq_true, List.length_cons, Nat.add_sub_cancel] at h
    obtain ⟨⟨hfront, hback⟩, -⟩ := h
    rcases hplace with rfl | h | h
    · exact isGroupOrNil_of_isSide hfront (by simp)
    · rw [← List.takeWhile_append_dropWhile (p := (· != [])) (l := gs.dropLast), hinner] at h
      rcases List.mem_append.mp h with h | h
      · exact isGroupOrNil_of_isSide hfront (List.mem_append_right _ h)
      · rcases List.mem_cons.mp h with rfl | h
        · -- here the groups in front end
          have hhead := List.head?_dropWhile_not (· != []) gs.dropLast
          rw [hinner] at hhead
          exact .inl (by simpa using hhead)
        · exact isGroupOrNil_of_isSide hback (List.mem_append_left _ h)
    · exact isGroupOrNil_of_isSide hback (List.mem_append_right _ h)

theorem mem_or_isV4_of_groups? {parts gs : List (List Char)} (h : groups? parts = some gs)
    {p : List Char} (hp : p ∈ parts) : p ∈ gs ∨ isV4 p = true := by
  rw [groups?] at h
  split at h
  · cases h
  · next last hlast =>
    split at h
    · obtain ⟨hv4, h⟩ := Option.ite_none_right_eq_some.mp h
      obtain ⟨init, rfl⟩ := List.getLast?_eq_some_iff.mp hlast
      rw [← Option.some.inj h, List.dropLast_concat]
      rcases List.mem_append.mp hp with hp | hp
      · exact .inl (List.mem_append_left _ hp)
      · rw [List.mem_singleton.mp hp]
        exact .inr hv4
    · rw [← Option.some.inj h]
      exact .inl hp

theorem isV6Groups_of_isV6 {cs : List Char} (h : isV6 cs = true) (hzone : '%' ∉ cs) :
    isV6Groups cs = true := by
  rw [isV6, Text.cut?_eq_none_iff.mpr hzone, Bool.and_eq_true] at h
  exact h.2

theorem isAddressChar_of_isV6 {cs : List Char} (h : isV6 cs = true) (hzone : '%' ∉ cs) {c : Char}
    (hc : c ∈ cs) : isAddressChar c = true := by
  have hgroups := isV6Groups_of_isV6 h hzone
  simp only [isV6Groups, Bool.and_eq_true] at hgroups
  by_cases hcolon : c = ':'
  · rw [hcolon]
    rfl
  obtain ⟨p, hp, hm⟩ := Text.exists_mem_segments hcolon hc
  have hgroups := hgroups.2
  split at hgroups
  · next gs hgs =>
    rw [Bool.and_eq_true] at hgroups
    rcases mem_or_isV4_of_groups? hgs hp with hp | hv4
    · rcases isGroupOrNil_of_isGroups hgroups.2 hp with rfl | hgroup
      · exact absurd hm List.not_mem_nil
      · simp only [isGroup, Bool.and_eq_true] at hgroup
        have hhex := List.all_eq_true.mp hgroup.2 c hm
        simp [isAddressChar, hhex]
    · rcases eq_or_isDigit_of_isV4 hv4 hm with rfl | hd
      · rfl
      · exact isAddressChar_of_isDigit hd
  · cases hgroups

/-- there are two colons at least -/
theorem two_le_count_of_isV6 {cs : List Char} (h : isV6 cs = true) (hzone : '%' ∉ cs) :
    2 ≤ cs.count ':' := by
  have hgroups := isV6Groups_of_isV6 h hzone
  simp only [isV6Groups, Bool.and_eq_true, decide_eq_true_eq, Text.length_segments] at hgroups
  omega

/-! ## literals -/

/-- an address in brackets, and digits behind a colon or no colon -/
structure Literal where
  address : List Char
  port : Option (List Char)
  address_v6 : isV6 address = true
  no_zone : '%' ∉ address
  port_digits : ∀ digits, port = some digits → ∀ c ∈ digits, c.isDigit = true

namespace Literal

/-- the address in its brackets -/
def host (a : Literal) : List Char := '[' :: (a.address ++ [']'])

def chars (a : Literal) : List Char := a.host ++ Site.portChars a.port

def text (a : Literal) : String := String.ofList a.chars

variable (a : Literal)

theorem isAddressChar_of_mem {c : Char} (h : c ∈ a.address) : isAddressChar c = true :=
  isAddressChar_of_isV6 a.address_v6 a.no_zone h

theorem isAddressChar_of_mem_port {c : Char} (h : c ∈ Site.portChars a.port) :
    isAddressChar c = true := by
  rcases Site.mem_portChars a.port_digits h with rfl | hd
  · rfl
  · exact isAddressChar_of_isDigit hd

theorem chars_eq : a.chars = '[' :: (a.address ++ ']' :: Site.portChars a.port) := by
  simp [chars, host]

theorem mem_chars {c : Char} (h : c ∈ a.chars) : c = '[' ∨ c = ']' ∨ isAddressChar c = true := by
  rw [chars_eq, List.mem_cons, List.mem_append, List.mem_cons] at h
  rcases h with rfl | h | rfl | h
  · exact .inl rfl
  · exact .inr (.inr (a.isAddressChar_of_mem h))
  · exact .inr (.inl rfl)
  · exact .inr (.inr (a.isAddressChar_of_mem_port h))

theorem not_mem_chars {x : Char} (ho : x ≠ '[') (hc : x ≠ ']') (h : isAddressChar x = false) :
    x ∉ a.chars := by
  intro hm
  rcases a.mem_chars hm with rfl | rfl | hx
  · exact ho rfl
  · exact hc rfl
  · rw [hx] at h
    cases h

theorem not_mem_address {x : Char} (h : isAddressChar x = false) : x ∉ a.address := by
  intro hm
  rw [a.isAddressChar_of_mem hm] at h
  cases h

theorem toNat_of_mem {c : Char} (h : c ∈ a.chars) : 0x20 < c.toNat ∧ c.toNat < 0x80 := by
  rcases a.mem_chars h with rfl | rfl | h
  · decide
  · decide
  · have := toNat_of_isAddressChar h
    omega

theorem toNat_of_mem_address {c : Char} (h : c ∈ a.address) : 0x20 < c.toNat ∧ c.toNat < 0x80 := by
  have := toNat_of_isAddressChar (a.isAddressChar_of_mem h)
  omega

theorem two_le_length : 2 ≤ a.address.length :=
  (two_le_count_of_isV6 a.address_v6 a.no_zone).trans List.count_le_length

theorem address_ne_nil : a.address ≠ [] := by
  have := a.two_le_length
  exact List.ne_nil_of_length_pos (by omega)

theorem text_ne_empty : a.text ≠ "" := by
  intro h
  have hl := congrArg String.toList h
  rw [text, String.toList_ofList, chars_eq] at hl
  cases hl

/-! ## how it is read -/

theorem hostAndPort_eq : hostAndPort a.chars = a.chars :=
  Text.afterLast_of_not_mem (a.not_mem_chars (by decide) (by decide) (by decide))

theorem cut?_open : Text.cut? '[' a.chars = some ([], a.address ++ ']' :: Site.portChars a.port) := by
  rw [chars_eq]
  exact Text.cut?_append_cons (a := []) List.not_mem_nil _

theorem cut?_close :
    Text.cut? ']' (a.address ++ ']' :: Site.portChars a.port)
      = some (a.address, Site.portChars a.port) :=
  Text.cut?_append_cons (a.not_mem_address (by decide)) _

theorem checkHost_eq : checkHost a.address = .ok () := by
  have hfuture : ¬ a.address.head? = some 'v' :=
    fun h => a.not_mem_address (x := 'v') (by decide) (List.mem_of_mem_head? h)
  have hv4 : isV4 a.address = false := by
    rw [← Bool.not_eq_true]
    intro h
    have hcolon : ':' ∈ a.address := by
      have := two_le_count_of_isV6 a.address_v6 a.no_zone
      exact List.count_pos_iff.mp (by omega)
    rcases eq_or_isDigit_of_isV4 h hcolon with h | h
    · exact absurd h (by decide)
    · exact absurd h (by decide)
  rw [checkHost, if_neg hfuture, hv4, a.address_v6]
  rfl

theorem check_eq : check a.chars = .ok () := by
  have hopen : a.chars.contains '[' = true := by
    rw [chars_eq]
    simp
  have hclose : a.chars.contains ']' = true := by
    rw [chars_eq]
    simp
  have hafter : ¬ (Site.portChars a.port ≠ [] ∧ (Site.portChars a.port).head? ≠ some ':') := by
    rintro ⟨hne, hhead⟩
    rcases hp : a.port with _ | digits
    · exact hne (by rw [hp]; rfl)
    · exact hhead (by rw [hp]; rfl)
  have hlike : (a.chars.any fun c => lookalikes.contains c.toNat) = false := by
    rw [List.any_eq_false]
    exact fun c hc hl => not_mem_lookalikes (a.toNat_of_mem hc).2 (List.contains_iff_mem.mp hl)
  rw [check, checkBrackets, hopen, hclose]
  simp only [hostAndPort_eq, cut?_open, Text.afterFirst, Text.beforeFirst, cut?_close,
    Option.map_some, Option.getD_some, ne_eq, not_true, if_false, if_neg hafter, checkHost_eq, hlike]
  rfl

theorem legible : Legible a.chars where
  ascii := fun _ => a.toNat_of_mem
  plain := by
    intro c hc
    constructor
    · rw [← Bool.not_eq_true]
      intro hd
      rcases a.mem_chars hc with rfl | rfl | h
      · exact absurd hd (by decide)
      · exact absurd hd (by decide)
      · have := toNat_of_isAddressChar h
        have := toNat_of_isDelimiter hd
        omega
    · rintro rfl
      exact a.not_mem_chars (by decide) (by decide) (by decide) hc
  check := a.check_eq

/-- the host of a literal is its address, without brackets and in lower case -/
theorem hostname_eq : hostname a.chars = Text.lowerFrom [] a.address := by
  have hhost : Url.host a.chars = a.address := by
    rw [Url.host, hostAndPort_eq]
    simp only [cut?_open, Text.beforeFirst, cut?_close]
    rfl
  have hzone : Text.cut? '%' a.address = none := Text.cut?_eq_none_iff.mpr a.no_zone
  rw [hostname, hhost]
  simp only [hzone]

end Literal

end ProxyInjector.Url
