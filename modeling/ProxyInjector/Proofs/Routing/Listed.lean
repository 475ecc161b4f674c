import ProxyInjector.Proofs.Routing.Surroundings
import ProxyInjector.Proofs.Text.Context
import ProxyInjector.Proofs.Url.Literal

/-!
# Lists of one host

A list of exempt hosts that spells one host, in any letters, is one pattern (`listed_of_spells`).

* A name is a pattern without wild characters, which is the name again (`listed_name`).
* An address is one too, as long as it stands in the list without its brackets
  (`listed_address`).
* With its brackets it is a set of characters, and the set is not matched by any address
  (`listed_literal`).

`Store.opener_listed` says what that means for requests.
-/

namespace ProxyInjector

/-! ## spellings -/

namespace Text

/-- the same text, letter case aside -/
def Spells (cs name : List Char) : Prop := cs.map Char.toLower = name.map Char.toLower

/-- visible ASCII that does not end an entry of a list -/
structure IsEntryChar (c : Char) : Prop where
  visible : 0x20 < c.toNat
  ascii : c.toNat < 0x80
  not_bar : c ≠ '|'

theorem isEntryChar_of_toLower_eq {c d : Char} (h : c.toLower = d.toLower) (hd : IsEntryChar d) :
    IsEntryChar c := by
  have hletter : ∀ {x : Char}, 65 ≤ x.toNat → x.toNat ≤ 122 → IsEntryChar x := by
    intro x hx hx'
    refine ⟨by omega, by omega, ?_⟩
    rintro rfl
    exact absurd hx' (by decide)
  rcases eq_or_isAlpha_of_toLower_eq h with rfl | ⟨hc, -⟩
  · exact hd
  · have := toNat_of_isAlpha hc
    exact hletter (by omega) (by omega)

theorem Spells.isEntryChar {cs name : List Char} (h : Spells cs name)
    (hname : ∀ c ∈ name, IsEntryChar c) {c : Char} (hc : c ∈ cs) : IsEntryChar c := by
  have hm : c.toLower ∈ name.map Char.toLower := h ▸ List.mem_map_of_mem hc
  obtain ⟨d, hd, he⟩ := List.mem_map.mp hm
  exact isEntryChar_of_toLower_eq he.symm (hname d hd)

theorem Spells.ne_nil {cs name : List Char} (h : Spells cs name) (hne : name ≠ []) : cs ≠ [] := by
  rintro rfl
  exact hne (List.map_eq_nil_iff.mp h.symm)

/-- lower case makes no character below the letters -/
theorem not_mem_map_toLower {x : Char} (h0 : x ≠ '\x00') (hx : x.toNat ≤ 0x60) {cs : List Char}
    (hcs : ∀ c ∈ cs, c.toNat < 0x80) (h : x ∉ cs) : x ∉ cs.map Char.toLower := by
  rw [← lowerFrom_ascii cs hcs []]
  exact fun hm => h (mem_of_mem_lowerFrom h0 hx hm)

end Text

namespace Routing

open Text (Spells IsEntryChar)

/-! ## one pattern -/

theorem patternsIn_of_isEntryChar {list : List Char} (hne : list ≠ [])
    (h : ∀ c ∈ list, IsEntryChar c) : Store.patternsIn list = [list] := by
  have hsegments : Text.segments '|' list = [list] :=
    Text.segments_of_not_mem fun hm => (h _ hm).not_bar rfl
  have htrim : Text.trim list = list :=
    Text.trim_of_forall fun c hc => Url.isBlank_of_lt (h c hc).visible (h c hc).ascii
  have hfilter : [list].filter (· != []) = [list] :=
    List.filter_eq_self.mpr fun p hp => by
      rw [List.mem_singleton.mp hp]
      exact bne_iff_ne.mpr hne
  rw [Store.patternsIn, hsegments, List.map_singleton, htrim, hfilter]

/-- a list that spells one entry is one pattern, the entry in lower case -/
theorem listed_of_spells {list entry name : List Char} (h : Spells list entry) (hne : entry ≠ [])
    (hentry : ∀ c ∈ entry, IsEntryChar c) (hname : ∀ c ∈ name, c.toNat < 0x80) :
    listed list name = Glob.accepts (Glob.parse (entry.map Char.toLower)) (name.map Char.toLower) := by
  have hlist : ∀ c ∈ list, IsEntryChar c := fun c => h.isEntryChar hentry
  have hascii : ∀ c ∈ list, c.toNat < 0x80 := fun c hc => (hlist c hc).ascii
  rw [listed, patternsIn_of_isEntryChar (h.ne_nil hne) hlist, matchesAny,
    Text.lowerFrom_ascii name hname]
  simp only [List.map_cons, List.map_nil, List.any_cons, List.any_nil, Bool.or_false, Text.lower,
    String.toList_ofList, Text.lowerFrom_ascii list hascii]
  rw [h]

/-- an entry without wild characters exempts what it spells -/
theorem listed_self {list name : List Char} (h : Spells list name) (hne : name ≠ [])
    (hname : ∀ c ∈ name, IsEntryChar c) (hs : '*' ∉ name) (hq : '?' ∉ name) (hb : '[' ∉ name) :
    listed list name = true := by
  have hascii : ∀ c ∈ name, c.toNat < 0x80 := fun c hc => (hname c hc).ascii
  rw [listed_of_spells h hne hname hascii]
  exact Glob.accepts_parse_self (Text.not_mem_map_toLower (by decide) (by decide) hascii hs)
    (Text.not_mem_map_toLower (by decide) (by decide) hascii hq)
    (Text.not_mem_map_toLower (by decide) (by decide) hascii hb)

theorem listed_name {list : List Char} (a : Url.Site) (h : Spells list a.name) :
    listed list a.name = true := by
  have hnot : ∀ {x : Char}, Url.isSiteChar x = false → x ∉ a.name :=
    fun hx hm => a.not_mem_chars hx (a.name_subset hm)
  refine listed_self h a.name_ne_nil (fun c hc => ?_) (hnot rfl) (hnot rfl) (hnot rfl)
  have := a.toNat_of_mem (a.name_subset hc)
  exact ⟨this.1, this.2, fun he => hnot rfl (he ▸ hc)⟩

theorem isEntryChar_of_mem_address (a : Url.Literal) {c : Char} (h : c ∈ a.address) :
    IsEntryChar c := by
  have := a.toNat_of_mem_address h
  exact ⟨this.1, this.2, fun he => a.not_mem_address (by decide) (he ▸ h)⟩

theorem listed_address {list : List Char} (a : Url.Literal) (h : Spells list a.address) :
    listed list a.address = true :=
  listed_self h a.address_ne_nil (fun _ => isEntryChar_of_mem_address a)
    (a.not_mem_address (by decide)) (a.not_mem_address (by decide)) (a.not_mem_address (by decide))

/-- **Brackets.**  In a pattern they hold the characters of a set, which no address is. -/
theorem listed_literal {list : List Char} (a : Url.Literal) (h : Spells list a.host) :
    listed list a.address = false := by
  have hascii : ∀ c ∈ a.address, c.toNat < 0x80 := fun c hc => (a.toNat_of_mem_address hc).2
  have hentry : ∀ c ∈ a.host, IsEntryChar c := by
    intro c hc
    rw [Url.Literal.host, List.mem_cons, List.mem_append, List.mem_singleton] at hc
    rcases hc with rfl | hc | rfl
    · exact ⟨by decide, by decide, by decide⟩
    · exact isEntryChar_of_mem_address a hc
    · exact ⟨by decide, by decide, by decide⟩
  have hset : a.host.map Char.toLower = '[' :: (a.address.map Char.toLower ++ [']']) := by
    rw [Url.Literal.host, List.map_cons, List.map_append]
    rfl
  have hlower : ∀ {x : Char}, x ≠ '\x00' → x.toNat ≤ 0x60 → Url.isAddressChar x = false →
      x ∉ a.address.map Char.toLower :=
    fun h0 hx hno => Text.not_mem_map_toLower h0 hx hascii (a.not_mem_address hno)
  rw [listed_of_spells h (List.cons_ne_nil _ _) hentry hascii, hset, ← Bool.not_eq_true]
  intro haccepts
  have hlength := Glob.length_of_accepts_set (mt List.map_eq_nil_iff.mp a.address_ne_nil)
    (hlower (by decide) (by decide) (by decide)) (hlower (by decide) (by decide) (by decide))
    haccepts
  have := a.two_le_length
  rw [List.length_map] at hlength
  omega

theorem nameOf_literal (a : Url.Literal) : nameOf a.text = .ok (Text.lowerFrom [] a.address) := by
  have hascii : ∀ c ∈ a.address, c.toNat < 0x80 := fun c hc => (a.toNat_of_mem_address hc).2
  rw [Url.Literal.text, nameOf_legible a.legible, a.hostname_eq, Text.lowerFrom_lowerFrom hascii]

end Routing

open Routing (Opener Proxy)

/-! ## requests -/

theorem Request.AsksHost.namesHost {r : Request} {scheme host : String}
    (h : r.AsksHost scheme host) (hne : host ≠ "") : r.namesHost = true := by
  rw [Request.namesHost, h.host]
  exact bne_iff_ne.mpr hne

namespace Store

variable {s : Store} {list : String} {e : Environment} {d : Directory}

theorem exists_keys_of_mem_proxies {scheme proxy : String} (h : (scheme, proxy) ∈ s.proxies) :
    ∃ hostKey portKey, (scheme, hostKey, portKey) ∈ Key.schemes ∧
      s.proxyOf? hostKey portKey = some proxy := by
  obtain ⟨⟨scheme', hostKey, portKey⟩, hk, hproxy⟩ := List.mem_filterMap.mp h
  obtain ⟨proxy', hp, he⟩ := Option.map_eq_some_iff.mp hproxy
  obtain ⟨rfl, rfl⟩ := Prod.mk.inj he
  exact ⟨hostKey, portKey, hk, hp⟩

section
variable {scheme url host : String} {name : List Char} {r : Request}

/-- a request for a listed host is sent as it is -/
theorem openUrl_of_listed (hr : Request.ofUrl url = .ok r) (ha : r.AsksHost scheme host)
    (hne : host ≠ "") (hname : Routing.nameOf host = .ok (Text.lowerFrom [] name))
    (hn : Opener.isNetwork scheme = true) (hlisted : Routing.listed list.toList name = true) :
    (s.openerFor list e d).openUrl url = .ok (.sent r) := by
  have hspares : (s.openerFor list e d).spares r = .ok true := by
    rw [spares_of_nameOf ha.host hne hname, hlisted]
  exact openUrl_of_through hr ha.scheme (ha.namesHost hne) hn
    (Opener.through_of_spares hspares scheme)

/-- one for any other host is the proxy's, unless the environment exempts the host -/
theorem openUrl_of_not_listed {hostKey portKey proxy : String}
    (hk : (scheme, hostKey, portKey) ∈ Key.schemes)
    (hproxy : s.proxyOf? hostKey portKey = some proxy) (hr : Request.ofUrl url = .ok r)
    (ha : r.AsksHost scheme host) (hne : host ≠ "")
    (hname : Routing.nameOf host = .ok (Text.lowerFrom [] name))
    (hlisted : Routing.listed list.toList name = false) :
    ∃ p, Proxy.ofText proxy = .ok p ∧ (s.openerFor list e d).openUrl url
      = .ok (.sent (if Routing.environmentExempts e host then r else r.handed p)) := by
  have hspares : (s.openerFor list e d).spares r = .ok false := by
    rw [spares_of_nameOf ha.host hne hname, hlisted]
  have hfor : (s.openerFor list e d).proxyFor? scheme = some (.text proxy) := by
    rw [proxyFor?_of_mem hk, hproxy]
    rfl
  have hhttp : Request.isHttp r.scheme = true := by
    rw [ha.scheme]
    exact isHttp_of_mem hk
  obtain ⟨t, rfl⟩ := proxyOf?_eq_some hproxy
  have htext := Proxy.ofText_urlPrefix t
  refine ⟨_, htext, openUrl_of_through hr ha.scheme (ha.namesHost hne) (isNetwork_of_mem hk) ?_⟩
  simp only [Opener.through, hfor]
  exact Opener.hand_of_not_spares hspares htext (Proxy.scheme_of_ofText_urlPrefix htext) hhttp
    ha.credentials ha.host hne

end

/-- **A list of one host.**  In every environment a request for a name goes past its proxy if the
list spells the name, and so does one for an address if the list spells it without brackets.  A
list that spells the address with its brackets exempts no host, and the proxy gets the request
unless the environment exempts the address. -/
theorem opener_listed (s : Store) (e : Environment) (d : Directory) {list scheme proxy : String}
    (hlist : s.lookup "http.nonProxyHosts" = .text list) (hproxy : (scheme, proxy) ∈ s.proxies) :
    ∃ o, s.opener e d = .ok o ∧ ∀ u : Url.Written scheme, ∃ r,
      Request.ofUrl u.text = .ok r ∧ r.AsksHost scheme (String.ofList u.authority) ∧
      (∀ a : Url.Site, u.authority = a.chars → Text.Spells list.toList a.name →
        o.openUrl u.text = .ok (.sent r)) ∧
      ∀ a : Url.Literal, u.authority = a.chars →
        (Text.Spells list.toList a.address → o.openUrl u.text = .ok (.sent r)) ∧
        (Text.Spells list.toList a.host → ∃ p, Proxy.ofText proxy = .ok p ∧
          o.openUrl u.text
            = .ok (.sent (if Routing.environmentExempts e a.text then r else r.handed p))) := by
  obtain ⟨hostKey, portKey, hk, hkeys⟩ := exists_keys_of_mem_proxies hproxy
  refine ⟨_, opener_eq (.inl hlist) e d, fun u => ?_⟩
  obtain ⟨r, hr, ha⟩ := u.ofUrl_eq (ne_of_mem hk).1 (ne_of_mem hk).2
  refine ⟨r, hr, ha, fun a hsite hspells => ?_, fun a hliteral => ⟨fun hspells => ?_, fun hspells => ?_⟩⟩
  · rw [hsite] at ha
    exact openUrl_of_listed hr ha a.text_ne_empty (Routing.nameOf_site a) (isNetwork_of_mem hk)
      (Routing.listed_name a hspells)
  · rw [hliteral] at ha
    exact openUrl_of_listed hr ha a.text_ne_empty (Routing.nameOf_literal a) (isNetwork_of_mem hk)
      (Routing.listed_address a hspells)
  · rw [hliteral] at ha
    exact openUrl_of_not_listed hk hkeys hr ha a.text_ne_empty (Routing.nameOf_literal a)
      (Routing.listed_literal a hspells)

/-- one proxy for both schemes, and one list -/
def listing (list : String) : Store :=
  .properties [(.text "http.proxyHost", .text "p"), (.text "http.proxyPort", .text "1"),
    (.text "https.proxyHost", .text "p"), (.text "https.proxyPort", .text "1"),
    (.text "http.nonProxyHosts", .text list)] false

def loopback : Url.Literal where
  address := "::1".toList
  port := none
  address_v6 := by decide
  no_zone := by decide
  port_digits := fun _ h => nomatch h

def loopbackUrl : Url.Written "http" where
  word := "http".toList
  authority := loopback.chars
  rest := ['/']
  word_alpha := List.all_eq_true.mp (by decide)
  word_lower := by decide
  legible := loopback.legible
  rest_tail := rfl

theorem opener_listed_loopback :
    loopbackUrl.text = "http://[::1]/" ∧
    (∃ o r, (listing "::1").opener [] { path := "/" } = .ok o ∧
      Request.ofUrl loopbackUrl.text = .ok r ∧ o.openUrl loopbackUrl.text = .ok (.sent r)) ∧
    ∃ o r p, (listing "[::1]").opener [] { path := "/" } = .ok o ∧
      Request.ofUrl loopbackUrl.text = .ok r ∧ Proxy.ofText "http://p:1" = .ok p ∧
      o.openUrl loopbackUrl.text = .ok (.sent (r.handed p)) := by
  refine ⟨by decide, ?_, ?_⟩
  · have hproxy : ("http", "http://p:1") ∈ (listing "::1").proxies := by decide
    obtain ⟨o, ho, hopen⟩ := opener_listed (listing "::1") [] { path := "/" } rfl hproxy
    obtain ⟨r, hr, -, -, hliteral⟩ := hopen loopbackUrl
    exact ⟨o, r, ho, hr, (hliteral loopback rfl).1 rfl⟩
  · have hproxy : ("http", "http://p:1") ∈ (listing "[::1]").proxies := by decide
    obtain ⟨o, ho, hopen⟩ := opener_listed (listing "[::1]") [] { path := "/" } rfl hproxy
    obtain ⟨r, hr, -, -, hliteral⟩ := hopen loopbackUrl
    obtain ⟨p, hp, hsent⟩ := (hliteral loopback rfl).2 rfl
    rw [Routing.environmentExempts_nil, if_neg Bool.false_ne_true] at hsent
    exact ⟨o, r, p, ho, hr, hp, hsent⟩

/-- an address that is listed as it stands in the URL still goes to the proxy -/
theorem opens_bracketed :
    ¬ ∀ (s : Store) (d : Directory) (e : Environment) (a : Url.Literal) (u : Url.Written "http"),
      s.lookup "http.nonProxyHosts" = .text (String.ofList a.host) →
      (∃ proxy, ("http", proxy) ∈ s.proxies) → (∃ proxy, ("https", proxy) ∈ s.proxies) →
      u.authority = a.chars →
      ∃ r, Request.ofUrl u.text = .ok r ∧ s.opens d e u.text = .ok (.ok (.sent r)) := by
  intro h
  have hrequest : Request.ofUrl loopbackUrl.text = .ok
      { scheme := "http", host := some "[::1]", selector := "/", url := "http://[::1]/" } := by
    decide +kernel
  obtain ⟨r, hr, hopen⟩ := h (listing "[::1]") { path := "/" } [] loopback loopbackUrl rfl
    ⟨"http://p:1", by decide⟩ ⟨"http://p:1", by decide⟩ rfl
  obtain rfl := Except.ok.inj (hr.symm.trans hrequest)
  revert hopen
  decide +kernel

end Store

end ProxyInjector
