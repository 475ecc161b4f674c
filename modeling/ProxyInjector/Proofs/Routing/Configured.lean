import ProxyInjector.Proofs.Routing.Opener

/-!
# What a store makes of a request

* `Store.Reads`            what a key of the store says as text;
* `Store.openUrl_direct`   a request over the network that the store has no proxy for is sent as
                           it is;
* `Store.openUrl_spared`, `Store.openUrl_handed`   so is one whose proxy is not configured or whose
                           host is exempt, and any other goes to the proxy of its scheme;
* `Store.opener_verdict`   both together for a store of texts.
-/

namespace ProxyInjector

theorem Key.http_mem : ("http", Key.httpHost, Key.httpPort) ∈ Key.schemes := by decide

theorem Key.https_mem : ("https", Key.httpsHost, Key.httpsPort) ∈ Key.schemes := by decide

namespace Store

variable {s : Store} {e : Environment} {d : Directory}

/-! ## reading the keys -/

/-- the key has the text; a key without a value counts as one with the empty text -/
def Reads (s : Store) (key text : String) : Prop :=
  s.lookup key = .text text ∨ s.lookup key = .null ∧ text = ""

theorem Reads.truthy {key text : String} (h : s.Reads key text) :
    (s.lookup key).truthy = (text != "") := by
  rcases h with h | ⟨h, rfl⟩
  · rw [h, Value.truthy]
  · rw [h, Value.truthy]
    rfl

theorem Reads.shown {key text : String} (h : s.Reads key text) (ht : text ≠ "") :
    (s.lookup key).shown = text := by
  rcases h with h | ⟨-, h⟩
  · rw [h, Value.shown_text]
  · exact absurd h ht

section
variable {hostKey portKey host port : String}

theorem proxyOf?_of_empty (hh : s.Reads hostKey host) (hp : s.Reads portKey port)
    (h : host = "" ∨ port = "") : s.proxyOf? hostKey portKey = none := by
  have hfalse : (host != "" && port != "") = false := by
    rcases h with rfl | rfl
    · rfl
    · rw [Bool.and_comm]
      rfl
  rw [proxyOf?, hh.truthy, hp.truthy, hfalse]
  rfl

theorem proxyOf?_of_ne (hh : s.Reads hostKey host) (hp : s.Reads portKey port) (hhost : host ≠ "")
    (hport : port ≠ "") :
    s.proxyOf? hostKey portKey = some (Descriptor.urlPrefix ++ (host ++ ":" ++ port)) := by
  have htrue : (host != "" && port != "") = true :=
    Bool.and_eq_true_iff.mpr ⟨bne_iff_ne.mpr hhost, bne_iff_ne.mpr hport⟩
  rw [proxyOf?, hh.truthy, hp.truthy, htrue, if_pos rfl, hh.shown hhost, hp.shown hport,
    String.append_assoc, String.append_assoc, String.append_assoc]

end

theorem exemptHosts_eq {list : String} (h : s.Reads Key.exemptHosts list) :
    s.exemptHosts = .ok ((patternsIn list.toList).map String.ofList) := by
  have ht := h.truthy
  rw [exemptHosts]
  rcases h with h | ⟨h, rfl⟩
  · rw [h] at ht ⊢
    by_cases hl : list = ""
    · rw [hl]
      rfl
    · rw [ht, bne_iff_ne.mpr hl]
      rfl
  · rw [h]
    rfl

/-! ## the opener -/

/-- the opener that the store configures, its patterns read from `list` -/
def openerFor (s : Store) (list : String) (e : Environment) (d : Directory) : Routing.Opener :=
  .exempting (s.proxies.map fun p => (p.1, .text p.2)) ((patternsIn list.toList).map String.ofList)
    e d

theorem opener_eq {list : String} (h : s.Reads Key.exemptHosts list) (e : Environment)
    (d : Directory) : s.opener e d = .ok (s.openerFor list e d) := by
  rw [opener, exemptHosts_eq h]
  rfl

theorem proxies_eq (s : Store) : s.proxies
    = ((s.proxyOf? Key.httpHost Key.httpPort).map ("http", ·)).toList
      ++ ((s.proxyOf? Key.httpsHost Key.httpsPort).map ("https", ·)).toList := by
  rw [proxies, Key.schemes]
  cases h : s.proxyOf? Key.httpHost Key.httpPort <;>
    cases h' : s.proxyOf? Key.httpsHost Key.httpsPort <;> simp [h, h']

variable {list : String}

theorem proxyFor?_eq {scheme : String} (hn : Routing.Opener.isName scheme = true) :
    (s.openerFor list e d).proxyFor? scheme
      = if scheme = "http" then (s.proxyOf? Key.httpHost Key.httpPort).map .text
        else if scheme = "https" then (s.proxyOf? Key.httpsHost Key.httpsPort).map .text
        else none := by
  have hhttp : Text.lower "http" = "http" := by decide
  have hhttps : Text.lower "https" = "https" := by decide
  rw [Routing.Opener.proxyFor?, if_pos hn, openerFor, Routing.Opener.exempting, proxies_eq]
  by_cases h : scheme = "http"
  · subst h
    cases s.proxyOf? Key.httpHost Key.httpPort <;>
      cases s.proxyOf? Key.httpsHost Key.httpsPort <;> simp [hhttp, hhttps]
  · by_cases h' : scheme = "https"
    · subst h'
      cases s.proxyOf? Key.httpHost Key.httpPort <;>
        cases s.proxyOf? Key.httpsHost Key.httpsPort <;> simp [hhttp, hhttps]
    · cases s.proxyOf? Key.httpHost Key.httpPort <;>
        cases s.proxyOf? Key.httpsHost Key.httpsPort <;>
          simp [hhttp, hhttps, h, h', Ne.symm h, Ne.symm h']

theorem proxyFor?_of_not_isHttp {name : String} (h : Request.isHttp name = false) :
    (s.openerFor list e d).proxyFor? name = none := by
  rw [Request.isHttp, Bool.or_eq_false_iff, beq_eq_false_iff_ne, beq_eq_false_iff_ne] at h
  by_cases hn : Routing.Opener.isName name = true
  · rw [proxyFor?_eq hn, if_neg h.1, if_neg h.2]
  · rw [Routing.Opener.proxyFor?, if_neg hn]

theorem proxyFor?_default : (s.openerFor list e d).proxyFor? "default" = none :=
  proxyFor?_of_not_isHttp (by decide)

/-- a scheme of the table finds the proxy of its own keys -/
theorem proxyFor?_of_mem {scheme hostKey portKey : String}
    (h : (scheme, hostKey, portKey) ∈ Key.schemes) :
    (s.openerFor list e d).proxyFor? scheme = (s.proxyOf? hostKey portKey).map .text := by
  simp only [Key.schemes, List.mem_cons, Prod.mk.injEq, List.not_mem_nil, or_false] at h
  rcases h with ⟨rfl, rfl, rfl⟩ | ⟨rfl, rfl, rfl⟩
  · rw [proxyFor?_eq (by decide), if_pos rfl]
  · rw [proxyFor?_eq (by decide), if_neg (by decide), if_pos rfl]

theorem isHttp_of_mem {scheme hostKey portKey : String}
    (h : (scheme, hostKey, portKey) ∈ Key.schemes) : Request.isHttp scheme = true := by
  simp only [Key.schemes, List.mem_cons, Prod.mk.injEq, List.not_mem_nil, or_false] at h
  rcases h with ⟨rfl, -⟩ | ⟨rfl, -⟩
  · rfl
  · rfl

theorem ne_of_mem {scheme hostKey portKey : String} (h : (scheme, hostKey, portKey) ∈ Key.schemes) :
    scheme ≠ "" ∧ scheme ≠ "url" := by
  have hhttp := isHttp_of_mem h
  constructor
  · rintro rfl
    exact absurd hhttp (by decide)
  · rintro rfl
    exact absurd hhttp (by decide)

theorem isNetwork_of_mem {scheme hostKey portKey : String}
    (h : (scheme, hostKey, portKey) ∈ Key.schemes) : Routing.Opener.isNetwork scheme = true :=
  Routing.Opener.isNetwork_of_isHttp (isHttp_of_mem h)

/-! ## opening -/

section
variable {scheme url : String} {a : Url.Site} {r : Request}

theorem openUrl_of_through {r' : Request} (hr : Request.ofUrl url = .ok r) (hs : r.scheme = scheme)
    (hnames : r.namesHost = true) (hn : Routing.Opener.isNetwork scheme = true)
    (ht : (s.openerFor list e d).through scheme r = .ok (.on r')) :
    (s.openerFor list e d).openUrl url = .ok (.sent r') := by
  simp only [Routing.Opener.openUrl, hr]
  exact Routing.Opener.openRequest_of_through (by rwa [hs]) hnames proxyFor?_default (by rwa [hs])

theorem openUrl_direct (hr : Request.ofUrl url = .ok r) (ha : r.Asks scheme a)
    (hn : Routing.Opener.isNetwork scheme = true)
    (hnone : (s.openerFor list e d).proxyFor? scheme = none) :
    (s.openerFor list e d).openUrl url = .ok (.sent r) := by
  refine openUrl_of_through hr ha.scheme ha.namesHost hn ?_
  rw [Routing.Opener.through, hnone]

theorem spares_of_nameOf {host : String} {name : List Char} (hhost : r.host = some host)
    (hne : host ≠ "") (hname : Routing.nameOf host = .ok (Text.lowerFrom [] name)) :
    (s.openerFor list e d).spares r = .ok (Routing.listed list.toList name) := by
  simp only [Routing.Opener.spares, openerFor, Routing.Opener.exempting, hhost, if_neg hne,
    Routing.exempts, hname]
  rfl

theorem spares_eq (ha : r.Asks scheme a) :
    (s.openerFor list e d).spares r = .ok (Routing.listed list.toList a.name) :=
  spares_of_nameOf ha.host a.text_ne_empty (Routing.nameOf_site a)

variable {hostKey portKey host port : String}

theorem proxyFor?_of_ne (hk : (scheme, hostKey, portKey) ∈ Key.schemes)
    (hh : s.Reads hostKey host) (hp : s.Reads portKey port) (h : ¬ (host = "" ∨ port = "")) :
    (s.openerFor list e d).proxyFor? scheme
      = some (.text (Descriptor.urlPrefix ++ (host ++ ":" ++ port))) := by
  obtain ⟨hhost, hport⟩ := not_or.mp h
  rw [proxyFor?_of_mem hk, proxyOf?_of_ne hh hp hhost hport]
  rfl

/-- a request goes past a proxy that is not configured, and one for an exempt host past any -/
theorem openUrl_spared (hk : (scheme, hostKey, portKey) ∈ Key.schemes)
    (hh : s.Reads hostKey host) (hp : s.Reads portKey port) (hr : Request.ofUrl url = .ok r)
    (ha : r.Asks scheme a)
    (h : (host = "" ∨ port = "") ∨ Routing.listed list.toList a.name = true) :
    (s.openerFor list e d).openUrl url = .ok (.sent r) := by
  refine openUrl_of_through hr ha.scheme ha.namesHost (isNetwork_of_mem hk) ?_
  by_cases hempty : host = "" ∨ port = ""
  · have hnone : (s.openerFor list e d).proxyFor? scheme = none := by
      rw [proxyFor?_of_mem hk, proxyOf?_of_empty hh hp hempty]
      rfl
    rw [Routing.Opener.through, hnone]
  · have hlisted := h.resolve_left hempty
    exact Routing.Opener.through_of_spares (by rw [spares_eq ha, hlisted]) scheme

/-- the proxy gets every other request of its scheme -/
theorem openUrl_handed (hk : (scheme, hostKey, portKey) ∈ Key.schemes)
    (hh : s.Reads hostKey host) (hp : s.Reads portKey port) (he : Routing.NoProxyVariables e)
    (hr : Request.ofUrl url = .ok r) (ha : r.Asks scheme a) (h : ¬ (host = "" ∨ port = ""))
    (hlisted : Routing.listed list.toList a.name = false) {p : Routing.Proxy}
    (htext : Routing.Proxy.ofText (Descriptor.urlPrefix ++ (host ++ ":" ++ port)) = .ok p) :
    (s.openerFor list e d).openUrl url = .ok (.sent (r.handed p)) := by
  have hspares : (s.openerFor list e d).spares r = .ok false := by
    rw [spares_eq ha, hlisted]
  have hhttp : Request.isHttp r.scheme = true := by
    rw [ha.scheme]
    exact isHttp_of_mem hk
  refine openUrl_of_through hr ha.scheme ha.namesHost (isNetwork_of_mem hk) ?_
  simp only [Routing.Opener.through, proxyFor?_of_ne hk hh hp h]
  exact Routing.Opener.hand_eq hspares (Routing.Opener.environmentSpares_eq he) htext
    (Routing.Proxy.scheme_of_ofText_urlPrefix htext) hhttp ha.credentials

end

end Store

/-! ## the verdict -/

/-- what the proxy makes of a request to a site: over http it is sent the whole URL, and over
https it is asked for a tunnel to the site -/
structure Request.Forwarded (r : Request) (p : Routing.Proxy) (a : Url.Site) (r' : Request) :
    Prop where
  host : r'.host = some p.host
  credentials : r'.credentials = p.credentials?
  scheme : r'.scheme = r.scheme
  url : r'.url = r.url
  http : r.scheme = "http" → r'.selector = r.url ∧ r'.sendsUrl = true ∧ r'.tunnel = none
  https : r.scheme = "https" →
    r'.selector = r.selector ∧ r'.sendsUrl = false ∧ r'.tunnel = some a.text

theorem Request.Asks.forwarded {r : Request} {scheme : String} {a : Url.Site}
    (h : r.Asks scheme a) (hs : Request.isHttp scheme = true) (p : Routing.Proxy) :
    r.Forwarded p a (r.handed p) := by
  have hscheme : r.scheme = "http" ∨ r.scheme = "https" := by
    rw [h.scheme]
    exact isHttp_iff.mp hs
  rcases hscheme with hr | hr
  · have hvia : r.via p.host "http"
        = { r with scheme := "http", selector := r.url, host := some p.host } := by
      rw [Request.via, if_neg]
      rw [hr]
      exact fun hn => absurd hn.1 (by decide)
    rw [Request.handed, hvia]
    refine ⟨rfl, rfl, hr.symm, rfl, fun _ => ⟨rfl, beq_self_eq_true r.url, h.tunnel⟩, fun hn => ?_⟩
    rw [hr] at hn
    exact absurd hn (by decide)
  · have hvia : r.via p.host "http" = { r with tunnel := r.host, host := some p.host } := by
      rw [Request.via, if_pos]
      rw [h.tunnel]
      exact ⟨hr, rfl⟩
    rw [Request.handed, hvia]
    refine ⟨rfl, rfl, rfl, rfl, fun hn => ?_, fun _ => ⟨rfl, ?_, h.host⟩⟩
    · rw [hr] at hn
      exact absurd hn (by decide)
    · exact beq_eq_false_iff_ne.mpr h.selector

theorem Request.Forwarded.ne {r r' : Request} {p : Routing.Proxy} {a : Url.Site}
    (h : r.Forwarded p a r') {scheme : String} (ha : r.Asks scheme a)
    (hs : Request.isHttp scheme = true) : r' ≠ r := by
  have hscheme : r.scheme = "http" ∨ r.scheme = "https" := by
    rw [ha.scheme]
    exact isHttp_iff.mp hs
  rintro rfl
  rcases hscheme with hr | hr
  · exact ha.selector (h.http hr).1
  · have ht := (h.https hr).2.2
    rw [ha.tunnel] at ht
    cases ht

/-- the text under a key; nothing stands under a key that is missing -/
def Table.textAt (t : Table) (key : String) : String :=
  match t.get? (.text key) with
  | some (.text s) => s
  | _ => ""

theorem Table.isText_of_get? {t : Table} (h : ∀ entry ∈ t, entry.2.isText = true) {key v : Value}
    (hv : t.get? key = some v) : v.isText = true := by
  obtain ⟨entry, he, rfl⟩ := Option.map_eq_some_iff.mp hv
  exact h entry (List.mem_of_find?_eq_some he)

theorem Store.reads_textAt {t : Table} (h : ∀ entry ∈ t, entry.2.isText = true) (frozen : Bool)
    (key : String) : (Store.properties t frozen).Reads key (t.textAt key) := by
  have hlookup : (Store.properties t frozen).lookup key = (t.get? (.text key)).getD .null := rfl
  rw [Reads, hlookup, Table.textAt]
  cases hv : t.get? (.text key) with
  | none => exact .inr ⟨rfl, rfl⟩
  | some v =>
    cases v with
    | text s => exact .inl rfl
    | _ => exact absurd (Table.isText_of_get? h hv) Bool.false_ne_true

/-- requests for the name go past the proxy of the two keys: one of them is missing or empty, or
the name is exempt -/
def Table.Spares (t : Table) (hostKey portKey : String) (name : List Char) : Prop :=
  t.textAt hostKey = "" ∨ t.textAt portKey = ""
    ∨ Routing.Exempts (t.textAt "http.nonProxyHosts").toList name

/-- **The verdict of a store of texts.**  A request over http or https is sent as it is exactly
if the proxy of its own scheme is not configured or the list of exempt hosts has an entry for its
host; in all other cases that proxy gets it. -/
theorem Store.opener_verdict (t : Table) (frozen : Bool) (e : Environment) (d : Directory)
    (htexts : ∀ entry ∈ t, entry.2.isText = true) (he : Routing.NoProxyVariables e)
    (hplain : ∀ entry ∈ Text.segments '|' (t.textAt "http.nonProxyHosts").toList,
      '?' ∉ entry ∧ '[' ∉ entry)
    {scheme hostKey portKey : String}
    (hk : (scheme, hostKey, portKey) ∈ [("http", "http.proxyHost", "http.proxyPort"),
      ("https", "https.proxyHost", "https.proxyPort")])
    (u : Url.Plain scheme) :
    ∃ o r, (Store.properties t frozen).opener e d = .ok o ∧
      Request.ofUrl u.text = .ok r ∧ r.Asks scheme u.site ∧
      (o.openUrl u.text = .ok (.sent r) ↔ t.Spares hostKey portKey u.site.name) ∧
      (¬ t.Spares hostKey portKey u.site.name → ∃ p r',
        Routing.Proxy.ofText ("http://" ++ (t.textAt hostKey ++ ":" ++ t.textAt portKey)) = .ok p ∧
        r.Forwarded p u.site r' ∧ o.openUrl u.text = .ok (.sent r')) := by
  have hk : (scheme, hostKey, portKey) ∈ Key.schemes := hk
  have hhttp := isHttp_of_mem hk
  obtain ⟨r, hr, ha⟩ := u.ofUrl_eq (ne_of_mem hk).1 (ne_of_mem hk).2
  have hreads := Store.reads_textAt htexts frozen
  have hspares : t.Spares hostKey portKey u.site.name
      ↔ (t.textAt hostKey = "" ∨ t.textAt portKey = "")
        ∨ Routing.listed (t.textAt Key.exemptHosts).toList u.site.name = true := by
    have hlisted : Routing.listed (t.textAt Key.exemptHosts).toList u.site.name = true
        ↔ Routing.Exempts (t.textAt "http.nonProxyHosts").toList u.site.name :=
      Routing.listed_iff hplain u.site.name
    rw [Table.Spares, hlisted, or_assoc]
  have hhanded : ¬ t.Spares hostKey portKey u.site.name → ∃ p r',
      Routing.Proxy.ofText ("http://" ++ (t.textAt hostKey ++ ":" ++ t.textAt portKey)) = .ok p ∧
      r.Forwarded p u.site r' ∧
      ((Store.properties t frozen).openerFor (t.textAt Key.exemptHosts) e d).openUrl u.text
        = .ok (.sent r') := by
    intro hs
    rw [hspares, not_or, Bool.not_eq_true] at hs
    have htext := Routing.Proxy.ofText_urlPrefix (t.textAt hostKey ++ ":" ++ t.textAt portKey)
    exact ⟨_, _, htext, ha.forwarded hhttp _,
      openUrl_handed hk (hreads hostKey) (hreads portKey) he hr ha hs.1 hs.2 htext⟩
  refine ⟨_, r, opener_eq (hreads Key.exemptHosts) e d, hr, ha, ⟨fun hopen => ?_, fun hs => ?_⟩,
    hhanded⟩
  · by_cases hs : t.Spares hostKey portKey u.site.name
    · exact hs
    · obtain ⟨p, r', -, hforwarded, hopen'⟩ := hhanded hs
      have hsame := Routing.Delivery.sent.inj (Except.ok.inj (hopen.symm.trans hopen'))
      exact absurd hsame.symm (hforwarded.ne ha hhttp)
  · exact openUrl_spared hk (hreads hostKey) (hreads portKey) hr ha (hspares.mp hs)

/-- a proxy for https, and hosts that are exempt from it -/
def partly : Table := [(.text "https.proxyHost", .text "p"), (.text "https.proxyPort", .text "1"),
  (.text "http.nonProxyHosts", .text "localhost| b*c ")]

def shouted : Url.Plain "https" where
  word := "HTTPS".toList
  site := {
    name := "B.x.C".toList
    port := some "8443".toList
    name_ne_nil := by decide
    name_plain := List.all_eq_true.mp (by decide)
    port_digits := fun digits h => by
      rw [← Option.some.inj h]
      exact List.all_eq_true.mp (by decide) }
  rest := "/".toList
  word_alpha := List.all_eq_true.mp (by decide)
  word_lower := by decide
  rest_tail := rfl

theorem opener_verdict_partly :
    shouted.text = "HTTPS://B.x.C:8443/" ∧ ∃ o r,
      (Store.properties partly false).opener [("HOME", "/")] { path := "/" } = .ok o ∧
      Request.ofUrl shouted.text = .ok r ∧ o.openUrl shouted.text = .ok (.sent r) := by
  have htexts : ∀ entry ∈ partly, entry.2.isText = true := by decide
  have he : Routing.NoProxyVariables [("HOME", "/")] := by
    rw [Routing.NoProxyVariables]
    decide
  have hplain : ∀ entry ∈ Text.segments '|' (partly.textAt "http.nonProxyHosts").toList,
      '?' ∉ entry ∧ '[' ∉ entry := by decide
  have hk : ("https", "https.proxyHost", "https.proxyPort")
      ∈ [("http", "http.proxyHost", "http.proxyPort"),
        ("https", "https.proxyHost", "https.proxyPort")] := by decide
  have hspares : partly.Spares "https.proxyHost" "https.proxyPort" shouted.site.name := by
    refine .inr (.inr ⟨" b*c ".toList, by decide, by decide, ?_⟩)
    have hpattern : Text.lowerFrom [] (Text.trim " b*c ".toList) = ['b', '*', 'c'] := by decide
    have hname : Text.lowerFrom [] shouted.site.name = 'b' :: (".x.".toList ++ ['c']) := by decide
    rw [hpattern, hname]
    exact .one (by decide) (.run _ (.one (by decide) .nil))
  obtain ⟨o, r, ho, hr, -, hiff, -⟩ := Store.opener_verdict partly false [("HOME", "/")]
    { path := "/" } htexts he hplain hk shouted
  exact ⟨by decide, o, r, ho, hr, hiff.mpr hspares⟩

end ProxyInjector
