import ProxyInjector.Proofs.Text.Ascii
import ProxyInjector.Proofs.Text.Segments
import ProxyInjector.Text.Blank
import ProxyInjector.Url.Authority

/-!
# Plain authorities

`Url.Place` is an authority of the everyday kind: a host name of ASCII letters, digits, dots,
dashes and underscores, and perhaps a port.  None of its characters means anything to the readers
of URLs but the colon in front of the port, so that a place passes all checks
(`Place.isOrdinary`), and its host is its name in lower case (`Place.hostname_eq`).

`Url.Site` is a place with a name.
-/

namespace ProxyInjector.Url

/-! ## its characters -/

def isNameChar (c : Char) : Bool := c.isAlphanum || c == '.' || c == '-' || c == '_'

def isSiteChar (c : Char) : Bool := isNameChar c || c == ':'

/-- where the characters of a site stand: dash and dot, digits and colon, capitals, the
underscore, small letters -/
theorem toNat_of_isSiteChar {c : Char} (h : isSiteChar c = true) :
    45 ≤ c.toNat ∧ c.toNat ≤ 46 ∨ 48 ≤ c.toNat ∧ c.toNat ≤ 58 ∨ 65 ≤ c.toNat ∧ c.toNat ≤ 90
      ∨ c.toNat = 95 ∨ 97 ≤ c.toNat ∧ c.toNat ≤ 122 := by
  simp only [isSiteChar, isNameChar, Char.isAlphanum, Bool.or_eq_true, beq_iff_eq] at h
  rcases h with ((((h | h) | rfl) | rfl) | rfl) | rfl
  · have := Text.toNat_of_isAlpha h
    omega
  · have := Text.toNat_of_isDigit h
    omega
  all_goals decide

theorem toNat_of_isDelimiter {c : Char} (h : isDelimiter c = true) :
    c.toNat = 47 ∨ c.toNat = 63 ∨ c.toNat = 35 := by
  simp only [isDelimiter, Bool.or_eq_true, beq_iff_eq] at h
  rcases h with (rfl | rfl) | rfl
  all_goals decide

theorem isDelimiter_of_isSiteChar {c : Char} (h : isSiteChar c = true) : isDelimiter c = false := by
  have hc := toNat_of_isSiteChar h
  cases hd : isDelimiter c with
  | false => rfl
  | true =>
    have := toNat_of_isDelimiter hd
    omega

theorem toNat_of_isIgnored {c : Char} (h : isIgnored c = true) :
    c.toNat = 9 ∨ c.toNat = 13 ∨ c.toNat = 10 := by
  simp only [isIgnored, Bool.or_eq_true, beq_iff_eq] at h
  rcases h with (rfl | rfl) | rfl
  all_goals decide

theorem isIgnored_of_lt {c : Char} (h : 0x20 < c.toNat) : isIgnored c = false := by
  cases hi : isIgnored c with
  | false => rfl
  | true =>
    have := toNat_of_isIgnored hi
    omega

theorem isBlank_of_lt {c : Char} (h : 0x20 < c.toNat) (h' : c.toNat < 0x80) :
    Text.isBlank c = false := by
  simp only [Text.isBlank, Bool.or_eq_false_iff, Bool.and_eq_false_iff, decide_eq_false_iff_not,
    beq_eq_false_iff_ne]
  omega

/-- no brackets, and nothing that looks like a delimiter -/
def IsOrdinary (cs : List Char) : Prop := ∀ c ∈ cs, c ≠ '[' ∧ c ≠ ']' ∧ c.toNat ∉ lookalikes

theorem not_mem_lookalikes {n : Nat} (h : n < 0x80) : n ∉ lookalikes := by
  have hbig : ∀ n ∈ lookalikes, 0x80 ≤ n := by decide
  intro hn
  have := hbig n hn
  omega

theorem check_of_isOrdinary {cs : List Char} (h : IsOrdinary cs) : check cs = .ok () := by
  have hopen : cs.contains '[' = false := by simpa using fun hc => (h _ hc).1 rfl
  have hclose : cs.contains ']' = false := by simpa using fun hc => (h _ hc).2.1 rfl
  have hlike : (cs.any fun c => lookalikes.contains c.toNat) = false := by
    rw [List.any_eq_false]
    exact fun c hc hl => (h c hc).2.2 (List.contains_iff_mem.mp hl)
  rw [check, checkBrackets, hopen, hclose]
  simp only [hlike]
  rfl

/-! ## places -/

/-- the port with its colon -/
def Site.portChars : Option (List Char) → List Char
  | none => []
  | some digits => ':' :: digits

theorem Site.mem_portChars {port : Option (List Char)}
    (h : ∀ digits, port = some digits → ∀ c ∈ digits, c.isDigit = true) {c : Char}
    (hc : c ∈ portChars port) : c = ':' ∨ c.isDigit = true := by
  cases port with
  | none => exact absurd hc List.not_mem_nil
  | some digits => exact (List.mem_cons.mp hc).imp_right (h digits rfl c)

/-- a host name that may be empty, and digits behind a colon or no colon -/
structure Place where
  name : List Char
  port : Option (List Char)
  name_plain : ∀ c ∈ name, isNameChar c = true
  port_digits : ∀ digits, port = some digits → ∀ c ∈ digits, c.isDigit = true

namespace Place

variable (a : Place)

def chars : List Char := a.name ++ Site.portChars a.port

def text : String := String.ofList a.chars

theorem isSiteChar_of_mem {c : Char} (h : c ∈ a.chars) : isSiteChar c = true := by
  rcases List.mem_append.mp h with h | h
  · rw [isSiteChar, a.name_plain c h]
    rfl
  · rcases Site.mem_portChars a.port_digits h with rfl | hd
    · rfl
    · simp [isSiteChar, isNameChar, Char.isAlphanum, hd]

theorem not_mem_chars {c : Char} (h : isSiteChar c = false) : c ∉ a.chars := by
  intro hc
  rw [a.isSiteChar_of_mem hc] at h
  cases h

theorem toNat_of_mem {c : Char} (h : c ∈ a.chars) : 0x20 < c.toNat ∧ c.toNat < 0x80 := by
  have := toNat_of_isSiteChar (a.isSiteChar_of_mem h)
  omega

theorem name_subset {c : Char} (h : c ∈ a.name) : c ∈ a.chars := List.mem_append_left _ h

/-- a place holds no brackets, and no character behind ASCII -/
theorem isOrdinary : IsOrdinary a.chars := by
  intro c hc
  refine ⟨?_, ?_, not_mem_lookalikes (a.toNat_of_mem hc).2⟩
  · rintro rfl
    exact a.not_mem_chars rfl hc
  · rintro rfl
    exact a.not_mem_chars rfl hc

theorem host_eq : host a.chars = a.name := by
  have hat : hostAndPort a.chars = a.chars := Text.afterLast_of_not_mem (a.not_mem_chars rfl)
  have hcut : Text.cut? '[' a.chars = none := Text.cut?_eq_none_iff.mpr (a.not_mem_chars rfl)
  have hcolon : ':' ∉ a.name := fun h => absurd (a.name_plain _ h) (by decide)
  rw [host, hat]
  simp only [hcut]
  rw [chars]
  rcases a.port with _ | digits
  · rw [Site.portChars, List.append_nil]
    exact Text.beforeFirst_of_not_mem hcolon
  · exact Text.beforeFirst_append_cons hcolon digits

/-- the host of a place is its name in lower case -/
theorem hostname_eq : hostname a.chars = Text.lowerFrom [] a.name := by
  have hcut : Text.cut? '%' a.name = none :=
    Text.cut?_eq_none_iff.mpr fun h => absurd (a.name_plain _ h) (by decide)
  rw [hostname, a.host_eq]
  simp only [hcut]

end Place

/-! ## sites -/

/-- a host name, and digits behind a colon or no colon -/
structure Site where
  name : List Char
  port : Option (List Char)
  name_ne_nil : name ≠ []
  name_plain : ∀ c ∈ name, isNameChar c = true
  port_digits : ∀ digits, port = some digits → ∀ c ∈ digits, c.isDigit = true

namespace Site

def chars (a : Site) : List Char := a.name ++ portChars a.port

def text (a : Site) : String := String.ofList a.chars

variable (a : Site)

def place : Place := { a with }

theorem chars_ne_nil : a.chars ≠ [] := by
  intro h
  exact a.name_ne_nil (List.append_eq_nil_iff.mp h).1

theorem text_ne_empty : a.text ≠ "" := by
  intro h
  have hl := congrArg String.toList h
  rw [text, String.toList_ofList] at hl
  exact a.chars_ne_nil hl

theorem not_mem_chars {c : Char} (h : isSiteChar c = false) : c ∉ a.chars := a.place.not_mem_chars h

theorem toNat_of_mem {c : Char} (h : c ∈ a.chars) : 0x20 < c.toNat ∧ c.toNat < 0x80 :=
  a.place.toNat_of_mem h

theorem name_subset {c : Char} (h : c ∈ a.name) : c ∈ a.chars := List.mem_append_left _ h

end Site

end ProxyInjector.Url
