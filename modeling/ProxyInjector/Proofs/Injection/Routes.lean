import ProxyInjector.Proofs.Injection.Apply
import ProxyInjector.Proofs.Routing.Configured

/-!
# Where an injection sends requests

The writing side and the reading side meet: what an injection leaves in a store of properties is
what the opener of the session goes by.

* `Session.Injected`   the store reads the argument under the five keys, as `apply_injected` says
                       of an injection that meets no fault;
* `apply_routes`       requests over http and https end up at the proxy that was injected, and no
                       others do.
-/

namespace ProxyInjector.Session

/-! ## after the injection -/

/-- the session can be asked to open a URL and sends the request -/
def Sends (s : Session) (url : String) (r : Request) : Prop :=
  (s.perform (.route (.text url))).1 = .ok (.delivery (.ok (.sent r)))

/-- the request for the URL is sent as it is -/
def SendsAsIs (s : Session) (url : String) : Prop :=
  ∃ r, Request.ofUrl url = .ok r ∧ s.Sends url r

/-- the store says under its keys that `host` and `port` were injected -/
structure Injected (s : Session) (host port : String) : Prop where
  httpHost : s.store.Reads Key.httpHost host
  httpPort : s.store.Reads Key.httpPort port
  httpsHost : s.store.Reads Key.httpsHost host
  httpsPort : s.store.Reads Key.httpsPort port
  exemptHosts : s.store.Reads Key.exemptHosts ""
  environment : Routing.NoProxyVariables s.surroundings

section
variable {s : Session} {entries : Table} {host port : String}

/-- an entry that was written can be read -/
theorem Overlaid.reads {made rest : List (String × String)} {i : Injection} {cs : List Call}
    (h : s.Overlaid host port made rest i cs) {e : String × String} (he : e ∈ made) :
    (s.calls cs).store.Reads e.1 e.2 := by
  left
  rw [Store.lookup_eq, h.written e he]
  rfl

theorem apply_injected (hstore : s.store = .properties entries false)
    (hfaults : ∀ f ∈ s.faults, f.write < s.writes ∨ s.writes + 5 ≤ f.write)
    (he : Routing.NoProxyVariables s.environment) (hhost : ':' ∉ host.toList)
    (hport : ':' ∉ port.toList) :
    (s.apply (.text (host ++ ":" ++ port))).2.Injected host port := by
  have hd : Descriptor.parse? (host ++ ":" ++ port) = some ⟨host, port⟩ :=
    Descriptor.parse?_eq_some_iff.mpr ⟨rfl, hhost, hport⟩
  obtain ⟨i, cs, h, ho⟩ := exists_overlaid hstore hfaults hd
  have hread : ∀ e ∈ Descriptor.entries ⟨host, port⟩, (s.calls cs).store.Reads e.1 e.2 :=
    fun _ he => ho.reads he
  have hsurroundings : (s.calls cs).surroundings = s.environment := by
    rw [surroundings, ho.store, hstore]
    exact environment_calls s cs
  rw [h.outcome]
  simp only [Descriptor.entries, List.forall_mem_cons] at hread
  obtain ⟨h1, h2, h3, h4, h5, -⟩ := hread
  exact ⟨h1, h2, h3, h4, h5, by rwa [hsurroundings]⟩

end

/-! ## opening -/

namespace Injected

variable {s : Session} {host port : String}

theorem sends_of_openUrl (h : s.Injected host port) {url : String} {r : Request}
    (hopen : (s.store.openerFor "" s.surroundings s.console.directory).openUrl url = .ok (.sent r)) :
    s.Sends url r := by
  have hopener : s.opener = .ok (s.store.openerFor "" s.surroundings s.console.directory) :=
    Store.opener_eq h.exemptHosts _ _
  rw [Sends, perform, hopener, ← hopen]
  rfl

/-- the keys of a scheme have the host and the port -/
theorem reads_of_mem (h : s.Injected host port) {scheme hostKey portKey : String}
    (hk : (scheme, hostKey, portKey) ∈ Key.schemes) :
    s.store.Reads hostKey host ∧ s.store.Reads portKey port := by
  simp only [Key.schemes, List.mem_cons, Prod.mk.injEq, List.not_mem_nil, or_false] at hk
  rcases hk with ⟨-, rfl, rfl⟩ | ⟨-, rfl, rfl⟩
  · exact ⟨h.httpHost, h.httpPort⟩
  · exact ⟨h.httpsHost, h.httpsPort⟩

theorem sendsAsIs_ftp (h : s.Injected host port) (u : Url.Plain "ftp") : s.SendsAsIs u.text := by
  obtain ⟨r, hr, ha⟩ := u.ofUrl_eq (by decide) (by decide)
  refine ⟨r, hr, h.sends_of_openUrl (Store.openUrl_direct hr ha (by decide) ?_)⟩
  rw [Store.proxyFor?_eq (by decide), if_neg (by decide), if_neg (by decide)]

section
variable {scheme hostKey portKey : String} (hk : (scheme, hostKey, portKey) ∈ Key.schemes)
include hk

theorem sendsAsIs_of_empty (h : s.Injected host port) (hempty : host = "" ∨ port = "")
    (u : Url.Plain scheme) : s.SendsAsIs u.text := by
  obtain ⟨hhost, hport⟩ := h.reads_of_mem hk
  obtain ⟨r, hr, ha⟩ := u.ofUrl_eq (Store.ne_of_mem hk).1 (Store.ne_of_mem hk).2
  exact ⟨r, hr, h.sends_of_openUrl (Store.openUrl_spared hk hhost hport hr ha (.inl hempty))⟩

theorem sends_handed (h : s.Injected host port) (hne : ¬ (host = "" ∨ port = "")) {url : String}
    {a : Url.Site} {r : Request} (hr : Request.ofUrl url = .ok r) (ha : r.Asks scheme a)
    {p : Routing.Proxy}
    (htext : Routing.Proxy.ofText (Descriptor.urlPrefix ++ (host ++ ":" ++ port)) = .ok p) :
    s.Sends url (r.handed p) := by
  obtain ⟨hhost, hport⟩ := h.reads_of_mem hk
  have hlisted : Routing.listed "".toList a.name = false := Routing.listed_nil a.name
  exact h.sends_of_openUrl
    (Store.openUrl_handed hk hhost hport h.environment hr ha hne hlisted htext)

end

end Injected

/-- the session sends requests over http and https to the proxy at `address`, which is sent the
whole URL or asked for a tunnel to the site, and requests over ftp as they are -/
structure SendsTo (s : Session) (address : String) : Prop where
  http : ∀ (u : Url.Plain "http") (path : List Char), u.HasPath path →
    ∃ r, s.Sends u.text r ∧ r.sendsUrl = true ∧ r =
      { scheme := "http", host := some address, selector := u.text, url := u.text
        tunnel := none, credentials := none }
  https : ∀ (u : Url.Plain "https") (path : List Char), u.HasPath path →
    ∃ r, s.Sends u.text r ∧ r.sendsUrl = false ∧ r =
      { scheme := "https", host := some address, selector := String.ofList ('/' :: path)
        url := u.text, tunnel := some u.site.text, credentials := none }
  ftp : ∀ u : Url.Plain "ftp", s.SendsAsIs u.text

theorem Injected.sendsTo {s : Session} {host port : String} (h : s.Injected host port)
    (hne : ¬ (host = "" ∨ port = ""))
    (hplain : ∀ c ∈ host.toList ++ port.toList, c ≠ '/' ∧ c ≠ '@' ∧ c ≠ '%') :
    s.SendsTo (host ++ ":" ++ port) := by
  have hchars : ∀ c ∈ (host ++ ":" ++ port).toList, c ≠ '/' ∧ c ≠ '@' ∧ c ≠ '%' := by
    intro c hc
    simp only [String.toList_append, List.mem_append] at hc
    rcases hc with (hc | hc) | hc
    · exact hplain c (List.mem_append_left _ hc)
    · rw [List.mem_singleton.mp hc]
      decide
    · exact hplain c (List.mem_append_right _ hc)
  obtain ⟨p, htext, haddress, hcredentials⟩ := Routing.Proxy.host_ofText_urlPrefix
    (fun hm => (hchars _ hm).1 rfl) (fun hm => (hchars _ hm).2.1 rfl)
    (fun hm => (hchars _ hm).2.2 rfl)
  refine ⟨fun u path hpath => ?_, fun u path hpath => ?_, h.sendsAsIs_ftp⟩
  · have hr := u.ofUrl_path (by decide) (by decide) hpath
    have ha := u.asks_asked (by decide) (by decide) hpath
    have hforwarded := ha.forwarded (by decide) p
    refine ⟨_, h.sends_handed Key.http_mem hne hr ha htext,
      (hforwarded.http rfl).2.1, ?_⟩
    rw [Request.handed, haddress, hcredentials]
    rfl
  · have hr := u.ofUrl_path (by decide) (by decide) hpath
    have ha := u.asks_asked (by decide) (by decide) hpath
    have hforwarded := ha.forwarded (by decide) p
    refine ⟨_, h.sends_handed Key.https_mem hne hr ha htext, (hforwarded.https rfl).2.1, ?_⟩
    rw [Request.handed, haddress, hcredentials]
    rfl

/-- **The way of requests after an injection.**  After an injection into a store of properties that
meets no fault, requests over http and https go to the proxy that was injected, whatever the store
held before.  If its host or port is empty, they go past it. -/
theorem apply_routes {s : Session} {entries : Table} (hstore : s.store = .properties entries false)
    (hfaults : ∀ f ∈ s.faults, f.write < s.writes ∨ s.writes + 5 ≤ f.write)
    (he : Routing.NoProxyVariables s.environment) {host port : String} (hhost : ':' ∉ host.toList)
    (hport : ':' ∉ port.toList) :
    (host ≠ "" → port ≠ "" →
      (∀ c ∈ host.toList ++ port.toList, c ≠ '/' ∧ c ≠ '@' ∧ c ≠ '%') →
      (s.apply (.text (host ++ ":" ++ port))).2.SendsTo (host ++ ":" ++ port)) ∧
    (host = "" ∨ port = "" → ∀ scheme ∈ ["http", "https", "ftp"], ∀ u : Url.Plain scheme,
      (s.apply (.text (host ++ ":" ++ port))).2.SendsAsIs u.text) := by
  have h := apply_injected hstore hfaults he hhost hport
  refine ⟨fun hh hp hplain => h.sendsTo (not_or.mpr ⟨hh, hp⟩) hplain, fun hempty scheme hs u => ?_⟩
  simp only [List.mem_cons, List.not_mem_nil, or_false] at hs
  rcases hs with rfl | rfl | rfl
  · exact h.sendsAsIs_of_empty Key.http_mem hempty u
  · exact h.sendsAsIs_of_empty Key.https_mem hempty u
  · exact h.sendsAsIs_ftp u

/-- properties that exempt all hosts, and a fault that comes after an injection -/
def exempting : Session where
  store := .properties [(.text "http.nonProxyHosts", .text "*")] false
  console := { directory := { path := "/" } }
  faults := [{ write := 5, kind := .io, message := .null }]
  environment := [("HOME", "/")]

theorem apply_routes_exempting :
    (exempting.apply (.text ("h" ++ ":" ++ "1"))).2.SendsTo ("h" ++ ":" ++ "1") := by
  have hfaults : ∀ f ∈ exempting.faults,
      f.write < exempting.writes ∨ exempting.writes + 5 ≤ f.write := by decide
  have he : Routing.NoProxyVariables exempting.environment := by
    rw [Routing.NoProxyVariables]
    decide
  have hplain : ∀ c ∈ ['h', '1'], c ≠ '/' ∧ c ≠ '@' ∧ c ≠ '%' := by
    rw [List.forall_mem_cons, List.forall_mem_singleton]
    decide
  have hroutes := apply_routes (s := exempting) rfl hfaults he (show ':' ∉ "h".toList by decide)
    (show ':' ∉ "1".toList by decide)
  exact hroutes.1 (by decide) (by decide) hplain

end ProxyInjector.Session
