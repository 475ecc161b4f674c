import ProxyInjector.Proofs.Text.Blank
import ProxyInjector.Proofs.Url.Site
import ProxyInjector.Proofs.Url.Unescape
import ProxyInjector.Request

/-!
# Requests for URLs as they are written

An authority is legible if it passes all checks and none of its characters has to be skipped or
unescaped.  `Url.Written scheme` is a URL of that scheme with such an authority.  The scheme may be
spelled in any case, and behind the authority anything goes that starts with a delimiter.

* `Written.parts`         the URL and its fragment are taken apart behind the authority;
* `Written.ofUrl_eq`      the request for the URL asks its host (`Request.AsksHost`);
* `Written.ofUrl_path`    a path without blanks and number signs is the selector as it stands.
-/

namespace ProxyInjector

/-- the request asks a host in a scheme, and no proxy has had it yet -/
structure Request.AsksHost (r : Request) (scheme host : String) : Prop where
  scheme : r.scheme = scheme
  host : r.host = some host
  tunnel : r.tunnel = none
  credentials : r.credentials = none
  selector : r.selector ≠ r.url

namespace Url

/-! ## what stands behind the authority -/

/-- nothing, or a delimiter and more -/
def isTail (cs : List Char) : Bool := cs.head?.all isDelimiter

theorem isTail_of_prefix {a b : List Char} (h : a <+: b) (hb : isTail b = true) :
    isTail a = true := by
  obtain ⟨t, rfl⟩ := h
  cases a with
  | nil => rfl
  | cons c a => exact hb

theorem isTail_append {a b : List Char} (ha : isTail a = true) (hb : isTail b = true) :
    isTail (a ++ b) = true := by
  cases a with
  | nil => exact hb
  | cons c a => exact ha

theorem isTail_filter {cs : List Char} (h : isTail cs = true) :
    isTail (cs.filter fun c => !isIgnored c) = true := by
  cases cs with
  | nil => rfl
  | cons c cs =>
    have hc : isDelimiter c = true := h
    have hi : isIgnored c = false := by
      have := toNat_of_isDelimiter hc
      exact isIgnored_of_lt (by omega)
    rw [List.filter_cons_of_pos (by simp [hi])]
    exact hc

/-- the path is the selector, with a slash in front if it has none -/
def selectorOf (path : List Char) : List Char :=
  if path.head?.any (· != '/') then '/' :: path else path

/-! ## what does not count -/

theorem filter_isIgnored_eq_self {cs : List Char} (h : ∀ c ∈ cs, 0x20 < c.toNat) :
    cs.filter (fun c => !isIgnored c) = cs := by
  rw [List.filter_eq_self]
  intro c hc
  rw [isIgnored_of_lt (h c hc)]
  rfl

theorem withoutScheme_slash (cs : List Char) : withoutScheme ('/' :: cs) = '/' :: cs := by
  have hcut : Text.cut? ':' ('/' :: cs) = (Text.cut? ':' cs).map fun p => ('/' :: p.1, p.2) :=
    if_neg (by decide)
  rw [withoutScheme, hcut]
  cases Text.cut? ':' cs with
  | none => rfl
  | some p => rfl

/-! ## legible authorities -/

/-- the authority is read as it stands -/
structure Legible (cs : List Char) : Prop where
  ascii : ∀ c ∈ cs, 0x20 < c.toNat ∧ c.toNat < 0x80
  plain : ∀ c ∈ cs, isDelimiter c = false ∧ c ≠ '%'
  check : check cs = .ok ()

namespace Legible

variable {a : List Char} (h : Legible a)
include h

theorem takeWhile_append {cs : List Char} (ht : isTail cs = true) :
    (a ++ cs).takeWhile (fun c => !isDelimiter c) = a := by
  refine Text.takeWhile_append_of_head (fun c hc => ?_) ?_
  · rw [(h.plain c hc).1]
    rfl
  · simpa [isTail] using ht

theorem unescape_eq : unescape a = a := unescape_of_not_mem fun hm => (h.plain _ hm).2 rfl

theorem hash_not_mem : '#' ∉ a := fun hm => absurd (h.plain _ hm).1 (by decide)

/-- alone, with the slashes in front of it -/
theorem authority_eq : authority ('/' :: '/' :: a) = a := by
  have hfilter : ('/' :: '/' :: a).filter (fun c => !isIgnored c) = '/' :: '/' :: a := by
    refine filter_isIgnored_eq_self ?_
    simp only [List.forall_mem_cons]
    exact ⟨by decide, by decide, fun c hc => (h.ascii c hc).1⟩
  have htake : a.takeWhile (fun c => !isDelimiter c) = a := by
    rw [← List.append_nil a, h.takeWhile_append rfl, List.append_nil]
  rw [authority, List.dropWhile_cons_of_neg (by decide), hfilter, withoutScheme_slash]
  exact htake

end Legible

/-! ## written URLs -/

structure Written (scheme : String) where
  /-- the scheme as it is spelled -/
  word : List Char
  authority : List Char
  rest : List Char
  word_alpha : ∀ c ∈ word, c.isAlpha = true
  word_lower : String.ofList (Text.lowerFrom [] word) = scheme
  legible : Legible authority
  rest_tail : isTail rest = true

namespace Written

variable {scheme : String} (u : Written scheme)

/-- the URL up to its authority -/
def front : List Char := u.word ++ ':' :: '/' :: '/' :: u.authority

def text : String := String.ofList (u.front ++ u.rest)

theorem front_append (cs : List Char) :
    u.front ++ cs = u.word ++ ':' :: '/' :: '/' :: (u.authority ++ cs) := by
  simp [front]

theorem toNat_of_mem_word {c : Char} (h : c ∈ u.word) : 0x40 < c.toNat ∧ c.toNat < 0x80 := by
  have := Text.toNat_of_isAlpha (u.word_alpha c h)
  omega

theorem not_mem_word {c : Char} (h : c.toNat ≤ 0x40) : c ∉ u.word := by
  intro hc
  have := (u.toNat_of_mem_word hc).1
  omega

theorem word_ne_nil (hs : scheme ≠ "") : u.word ≠ [] := by
  intro h
  refine hs ?_
  rw [← u.word_lower, h]
  rfl

theorem isSchemeChar_of_mem {c : Char} (h : c ∈ u.word) : isSchemeChar c = true := by
  simp [isSchemeChar, Char.isAlphanum, u.word_alpha c h]

theorem toNat_of_mem_front {c : Char} (h : c ∈ u.front) : 0x20 < c.toNat ∧ c.toNat < 0x80 := by
  rcases List.mem_append.mp h with h | h
  · have := u.toNat_of_mem_word h
    omega
  · simp only [List.mem_cons] at h
    rcases h with rfl | rfl | rfl | h
    · decide
    · decide
    · decide
    · exact u.legible.ascii _ h

theorem hash_not_mem_front : '#' ∉ u.front := by
  intro h
  rcases List.mem_append.mp h with h | h
  · exact u.not_mem_word (by decide) h
  · simp only [List.mem_cons] at h
    rcases h with h | h | h | h
    · exact absurd h (by decide)
    · exact absurd h (by decide)
    · exact absurd h (by decide)
    · exact u.legible.hash_not_mem h

theorem front_ne_nil : u.front ≠ [] := by simp [front]

/-! ## taking it apart -/

theorem head?_front_append (hs : scheme ≠ "") (cs : List Char) :
    ∃ c w, u.word = c :: w ∧ (u.front ++ cs).head? = some c := by
  obtain ⟨c, w, hw⟩ := List.exists_cons_of_ne_nil (u.word_ne_nil hs)
  exact ⟨c, w, hw, by simp [front, hw]⟩

/-- the one word that text may put in front of a URL -/
theorem not_isPrefixOf_mark (hurl : scheme ≠ "url") (cs : List Char) :
    "URL:".toList.isPrefixOf (u.front ++ cs) = false := by
  rw [← Bool.not_eq_true, List.isPrefixOf_iff_prefix]
  rintro ⟨t, ht⟩
  have hword : Text.cut? ':' (u.front ++ cs) = some (u.word, '/' :: '/' :: (u.authority ++ cs)) := by
    rw [u.front_append]
    exact Text.cut?_append_cons (u.not_mem_word (by decide)) _
  have hmark : Text.cut? ':' ("URL:".toList ++ t) = some ("URL".toList, t) :=
    Text.cut?_append_cons (a := "URL".toList) (by decide) t
  rw [← ht, hmark] at hword
  have he : "URL".toList = u.word := congrArg Prod.fst (Option.some.inj hword)
  refine hurl ?_
  rw [← u.word_lower, ← he]
  decide

theorem unwrap_eq (hs : scheme ≠ "") (hurl : scheme ≠ "url") :
    unwrap (u.front ++ u.rest) = u.front ++ Text.dropTrailing Text.isBlank u.rest := by
  have hblank : ∀ c ∈ u.front, Text.isBlank c = false := by
    intro c hc
    have := u.toNat_of_mem_front hc
    exact isBlank_of_lt this.1 this.2
  have htrim := Text.trim_append u.front_ne_nil hblank u.rest
  obtain ⟨c, w, hw, hc⟩ := u.head?_front_append hs (Text.dropTrailing Text.isBlank u.rest)
  have hangle : ¬ (some c = some '<' ∧
      (u.front ++ Text.dropTrailing Text.isBlank u.rest).getLast? = some '>') := by
    rintro ⟨h, -⟩
    refine u.not_mem_word (c := '<') (by decide) ?_
    rw [hw, ← Option.some.inj h]
    exact List.mem_cons_self
  simp only [unwrap, htrim, hc, if_neg hangle, u.not_isPrefixOf_mark hurl]
  rfl

/-- the URL and its fragment share what stands behind the authority -/
theorem parts (hs : scheme ≠ "") (hurl : scheme ≠ "url") :
    ∃ kept fragment, withoutFragment (unwrap (u.front ++ u.rest)) = (u.front ++ kept, fragment) ∧
      isTail kept = true := by
  have htail : isTail (Text.dropTrailing Text.isBlank u.rest) = true :=
    isTail_of_prefix (Text.prefix_dropTrailing _ _) u.rest_tail
  rw [u.unwrap_eq hs hurl, withoutFragment, Text.cutLast?_append u.hash_not_mem_front]
  cases hcut : Text.cutLast? '#' (Text.dropTrailing Text.isBlank u.rest) with
  | none => exact ⟨_, _, rfl, htail⟩
  | some p =>
    refine ⟨p.1, p.2, rfl, isTail_of_prefix ?_ htail⟩
    rw [Text.eq_of_cutLast? hcut]
    exact List.prefix_append _ _

theorem parts_of_path (hs : scheme ≠ "") (hurl : scheme ≠ "url")
    (hblank : ∀ c ∈ u.rest, Text.isBlank c = false) (hhash : '#' ∉ u.rest) :
    withoutFragment (unwrap (u.front ++ u.rest)) = (u.front ++ u.rest, []) := by
  rw [u.unwrap_eq hs hurl, Text.dropTrailing_of_forall hblank, withoutFragment,
    Text.cutLast?_append u.hash_not_mem_front, Text.cutLast?_eq_none_iff.mpr hhash]
  rfl

theorem scheme?_eq (hs : scheme ≠ "") (cs : List Char) : scheme? (u.front ++ cs)
    = some (Text.lowerFrom [] u.word, '/' :: '/' :: (u.authority ++ cs)) := by
  have hname : (u.front ++ cs).takeWhile (fun c => c != '/' && c != ':') = u.word := by
    rw [u.front_append]
    refine Text.takeWhile_append_of_head (fun c hc => ?_) rfl
    have := (u.toNat_of_mem_word hc).1
    rw [Bool.and_eq_true, bne_iff_ne, bne_iff_ne]
    constructor
    · rintro rfl
      exact absurd this (by decide)
    · rintro rfl
      exact absurd this (by decide)
  have hdrop : (u.front ++ cs).drop u.word.length = ':' :: '/' :: '/' :: (u.authority ++ cs) := by
    rw [u.front_append]
    exact List.drop_left
  simp only [scheme?, hname, hdrop, if_neg (u.word_ne_nil hs)]

theorem hostAndSelector_eq {cs : List Char} (h : isTail cs = true) :
    hostAndSelector ('/' :: '/' :: (u.authority ++ cs)) = (some u.authority, selectorOf cs) := by
  simp only [hostAndSelector, u.legible.takeWhile_append h, List.drop_left]
  rfl

theorem authority_eq (hs : scheme ≠ "") {cs : List Char} (h : isTail cs = true) :
    Url.authority (u.front ++ cs) = u.authority := by
  obtain ⟨c, w, hw, -⟩ := u.head?_front_append hs cs
  have hc : ¬ c.toNat ≤ 0x20 := by
    have := (u.toNat_of_mem_word (hw ▸ List.mem_cons_self)).1
    omega
  have hstart : (u.front ++ cs).dropWhile (fun c => c.toNat ≤ 0x20) = u.front ++ cs := by
    rw [front, hw]
    exact List.dropWhile_cons_of_neg (by simpa using hc)
  have hfilter : (u.front ++ cs).filter (fun c => !isIgnored c)
      = u.front ++ cs.filter (fun c => !isIgnored c) := by
    rw [List.filter_append, filter_isIgnored_eq_self fun c hc => (u.toNat_of_mem_front hc).1]
  have hscheme : withoutScheme (u.front ++ cs.filter fun c => !isIgnored c)
      = '/' :: '/' :: (u.authority ++ cs.filter fun c => !isIgnored c) := by
    have hhead : u.word.head?.any Char.isAlpha = true := by
      rw [hw]
      exact u.word_alpha c (hw ▸ List.mem_cons_self)
    have hall : u.word.all isSchemeChar = true := List.all_eq_true.mpr fun _ => u.isSchemeChar_of_mem
    rw [u.front_append, withoutScheme, Text.cut?_append_cons (u.not_mem_word (by decide))]
    simp only [hhead, hall]
    rfl
  rw [Url.authority, hstart, hfilter]
  simp only [hscheme]
  exact u.legible.takeWhile_append (isTail_filter h)

/-! ## the request -/

theorem ofUrl_of_parts (hs : scheme ≠ "") {kept fragment : List Char}
    (hparts : withoutFragment (unwrap (u.front ++ u.rest)) = (u.front ++ kept, fragment))
    (hkept : isTail kept = true) :
    Request.ofUrl u.text = .ok
      { scheme
        host := some (String.ofList u.authority)
        selector := String.ofList (selectorOf kept)
        url := String.ofList
          (u.front ++ if fragment = [] then kept else kept ++ '#' :: fragment) } := by
  have hfull : (if fragment = [] then u.front ++ kept else u.front ++ kept ++ '#' :: fragment)
      = u.front ++ if fragment = [] then kept else kept ++ '#' :: fragment := by
    split
    · rfl
    · rw [List.append_assoc]
  have htail : isTail (if fragment = [] then kept else kept ++ '#' :: fragment) = true := by
    split
    · exact hkept
    · exact isTail_append hkept rfl
  simp only [Request.ofUrl, text, String.toList_ofList, hparts, hfull, u.scheme?_eq hs,
    u.hostAndSelector_eq hkept, u.authority_eq hs htail, u.legible.check, Option.map_some,
    u.legible.unescape_eq, u.word_lower]

/-- a selector starts with a slash if it is not empty, and a URL never does -/
theorem selectorOf_ne_front_append (hs : scheme ≠ "") {kept : List Char} (h : isTail kept = true)
    (cs : List Char) : String.ofList (selectorOf kept) ≠ String.ofList (u.front ++ cs) := by
  intro he
  obtain ⟨c, w, hw, hc⟩ := u.head?_front_append hs cs
  have hl : selectorOf kept = u.front ++ cs := by
    have := congrArg String.toList he
    rwa [String.toList_ofList, String.toList_ofList] at this
  have hslash : c ≠ '/' := by
    rintro rfl
    exact u.not_mem_word (c := '/') (by decide) (hw ▸ List.mem_cons_self)
  rw [← hl, selectorOf] at hc
  cases kept with
  | nil => cases hc
  | cons d kept =>
    split at hc
    · exact hslash (Option.some.inj hc).symm
    · next hd =>
      have hd : d = '/' := by simpa using hd
      exact hslash ((Option.some.inj hc).symm.trans hd)

theorem ofUrl_eq (hs : scheme ≠ "") (hurl : scheme ≠ "url") :
    ∃ r, Request.ofUrl u.text = .ok r ∧ r.AsksHost scheme (String.ofList u.authority) := by
  obtain ⟨kept, fragment, hparts, hkept⟩ := u.parts hs hurl
  exact ⟨_, u.ofUrl_of_parts hs hparts hkept, rfl, rfl, rfl, rfl,
    u.selectorOf_ne_front_append hs hkept _⟩

theorem ofUrl_path (hs : scheme ≠ "") (hurl : scheme ≠ "url") {path : List Char}
    (hrest : u.rest = '/' :: path) (h : ∀ c ∈ path, Text.isBlank c = false ∧ c ≠ '#') :
    Request.ofUrl u.text = .ok
      { scheme
        host := some (String.ofList u.authority)
        selector := String.ofList ('/' :: path)
        url := u.text } := by
  have hblank : ∀ c ∈ u.rest, Text.isBlank c = false := by
    rw [hrest]
    exact List.forall_mem_cons.mpr ⟨rfl, fun c hc => (h c hc).1⟩
  have hhash : '#' ∉ u.rest := by
    rw [hrest]
    refine List.not_mem_cons_of_ne_of_not_mem (by decide) fun hm => ?_
    exact (h '#' hm).2 rfl
  rw [u.ofUrl_of_parts hs (u.parts_of_path hs hurl hblank hhash) u.rest_tail, if_pos rfl, text,
    hrest]
  rfl

end Written

end Url

end ProxyInjector
