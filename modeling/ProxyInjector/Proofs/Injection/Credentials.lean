import ProxyInjector.Proofs.Injection.Routes
import ProxyInjector.Proofs.Routing.Surroundings

/-!
# Arguments that spell credentials

Host and port of a descriptor are glued together again where the injected proxy is read, and the
whole may then start with user and password.

* `Proxy.credentials?_ofAuthority_iff`   what an authority has to look like for that;
* `Descriptor.Tells`                     what the argument has to look like for that: its colon
                                         stands between user and password, and an at sign behind;
* `Session.apply_credentials`            a request that is sent after an injection has credentials
                                         exactly if the argument spells them, and its host is not
                                         exempt by the environment.
-/

namespace ProxyInjector

open Routing

namespace Routing.Proxy

/-! ## authorities with credentials -/

/-- user and password in the basic scheme of authentication -/
def basic (user word : List Char) : String :=
  "Basic " ++ String.ofList
    (Text.Base64.encode (Text.Utf8.encode (Url.unescape user ++ ':' :: Url.unescape word)))

theorem credentials?_eq_some_iff {p : Proxy} {c : String} :
    p.credentials? = some c ↔ ∃ user word, p.user = some user ∧ p.password = some word ∧
      user ≠ [] ∧ word ≠ [] ∧ c = basic user word := by
  constructor
  · intro h
    unfold credentials? at h
    split at h
    · next u user w word huser hword =>
      exact ⟨u :: user, w :: word, huser, hword, List.cons_ne_nil _ _, List.cons_ne_nil _ _,
        (Option.some.inj h).symm⟩
    · cases h
  · rintro ⟨user, word, huser, hword, hu, hw, rfl⟩
    obtain ⟨u, user, rfl⟩ := List.exists_cons_of_ne_nil hu
    obtain ⟨w, word, rfl⟩ := List.exists_cons_of_ne_nil hw
    rw [credentials?, huser, hword]
    rfl

/-- an authority has credentials if neither user nor password is empty -/
theorem credentials?_ofAuthority_iff {scheme : Option String} {cs : List Char} {c : String} :
    (ofAuthority scheme cs).credentials? = some c ↔
      ∃ user word address, cs = user ++ ':' :: (word ++ '@' :: address) ∧ ':' ∉ user ∧
        '@' ∉ address ∧ user ≠ [] ∧ word ≠ [] ∧ c = basic user word := by
  rw [credentials?_eq_some_iff]
  constructor
  · rintro ⟨user, word, huser, hword, hu, hw, hc⟩
    rw [ofAuthority] at huser hword
    cases hinfo : Text.cutLast? '@' cs with
    | none =>
      simp only [hinfo] at huser
      cases huser
    | some parts =>
      obtain ⟨info, address⟩ := parts
      simp only [hinfo] at huser hword
      cases hcut : Text.cut? ':' info with
      | none =>
        simp only [hcut] at hword
        cases hword
      | some pair =>
        simp only [hcut] at huser hword
        cases huser
        cases hword
        refine ⟨pair.1, pair.2, address, ?_, Text.not_mem_of_cut? hcut,
          Text.not_mem_of_cutLast? hinfo, hu, hw, hc⟩
        rw [Text.eq_of_cutLast? hinfo, Text.eq_of_cut? hcut, List.append_assoc, List.cons_append]
  · rintro ⟨user, word, address, rfl, huser, haddress, hu, hw, rfl⟩
    have hinfo : Text.cutLast? '@' (user ++ ':' :: (word ++ '@' :: address))
        = some (user ++ ':' :: word, address) := by
      rw [← List.cons_append, ← List.append_assoc, Text.cutLast?_append_cons haddress]
    have hparts : ofAuthority scheme (user ++ ':' :: (word ++ '@' :: address))
        = { scheme, user := some user, password := some word, address } := by
      rw [ofAuthority, hinfo]
      dsimp only
      rw [Text.cut?_append_cons huser]
    exact ⟨user, word, by rw [hparts], by rw [hparts], hu, hw, rfl⟩

/-- with an at sign in it, an authority ends at the first slash behind the first at sign -/
theorem authorityOf_append {cs rest : List Char} (hat : '@' ∈ cs)
    (hslash : '/' ∉ Text.afterFirst '@' cs) (hrest : ∀ c ∈ rest.head?, c = '/') :
    authorityOf (cs ++ rest) = cs := by
  cases hcut : Text.cut? '@' cs with
  | none => exact absurd hat (Text.cut?_eq_none_iff.mp hcut)
  | some parts =>
    obtain ⟨info, behind⟩ := parts
    have hinfo := Text.not_mem_of_cut? hcut
    obtain rfl := Text.eq_of_cut? hcut
    rw [Text.afterFirst_append_cons hinfo] at hslash
    have htake : (behind ++ rest).takeWhile (· != '/') = behind := by
      refine Text.takeWhile_append_of_head (fun c hc => bne_iff_ne.mpr fun h => hslash (h ▸ hc)) ?_
      cases rest with
      | nil => rfl
      | cons c rest => rw [hrest c rfl]; rfl
    rw [List.append_assoc, List.cons_append, authorityOf, Text.cut?_append_cons hinfo]
    dsimp only
    rw [htake]

theorem exists_authority {cs : List Char} (hat : '@' ∈ cs) :
    ∃ rest, cs = authorityOf cs ++ rest ∧ '@' ∈ authorityOf cs ∧
      '/' ∉ Text.afterFirst '@' (authorityOf cs) ∧ ∀ c ∈ rest.head?, c = '/' := by
  cases hcut : Text.cut? '@' cs with
  | none => exact absurd hat (Text.cut?_eq_none_iff.mp hcut)
  | some parts =>
    obtain ⟨info, behind⟩ := parts
    have hinfo := Text.not_mem_of_cut? hcut
    have hauthority : authorityOf cs = info ++ '@' :: behind.takeWhile (· != '/') := by
      rw [authorityOf, hcut]
    rw [hauthority, Text.afterFirst_append_cons hinfo]
    refine ⟨behind.dropWhile (· != '/'), ?_, by simp, ?_, ?_⟩
    · rw [List.append_assoc, List.cons_append, List.takeWhile_append_dropWhile]
      exact Text.eq_of_cut? hcut
    · intro hm
      have := List.mem_takeWhile_imp hm
      exact absurd this (by decide)
    · intro c hc
      have hhead := List.head?_dropWhile_not (· != '/') behind
      rw [Option.mem_def.mp hc] at hhead
      simpa using hhead

theorem not_mem_authorityOf {cs : List Char} (h : '@' ∉ cs) : '@' ∉ authorityOf cs := by
  rw [authorityOf, Text.cut?_eq_none_iff.mpr h]
  exact fun hm => h (List.takeWhile_subset _ hm)

end Routing.Proxy

/-! ## arguments with credentials -/

namespace Descriptor

/-- Host and port are user and password of an authority: the port starts with the password and an
at sign, and the address of the proxy comes behind.  It ends at the first slash behind the first
at sign of the whole. -/
structure Tells (d : Descriptor) (word : List Char) : Prop where
  host_ne : d.host ≠ ""
  word_ne : word ≠ []
  parts : ∃ address rest, d.port.toList = word ++ '@' :: (address ++ rest) ∧ '@' ∉ address ∧
    '/' ∉ Text.afterFirst '@' (d.host.toList ++ ':' :: (word ++ '@' :: address)) ∧
    ∀ c ∈ rest.head?, c = '/'

theorem toList_toString (d : Descriptor) :
    d.toString.toList = d.host.toList ++ ':' :: d.port.toList := by
  rw [Descriptor.toString, String.toList_append, String.toList_append, List.append_assoc]
  rfl

/-- the proxy that the URL of the descriptor names -/
def proxy (d : Descriptor) : Proxy :=
  Proxy.ofAuthority (some "http") (Proxy.authorityOf d.toString.toList)

theorem ofText_url (d : Descriptor) : Proxy.ofText (urlPrefix ++ d.toString) = .ok d.proxy :=
  Proxy.ofText_urlPrefix d.toString

/-- the proxy of a descriptor has the credentials that the descriptor tells -/
theorem credentials?_proxy_iff {d : Descriptor} (h : ':' ∉ d.host.toList) {c : String} :
    d.proxy.credentials? = some c ↔ ∃ word, d.Tells word ∧ c = Proxy.basic d.host.toList word := by
  rw [proxy, Proxy.credentials?_ofAuthority_iff, toList_toString]
  constructor
  · rintro ⟨user, word, address, hcs, huser, haddress, hu, hw, rfl⟩
    -- the colon of the argument is the one in front of the password
    have hat : '@' ∈ d.host.toList ++ ':' :: d.port.toList := by
      by_contra hn
      refine Proxy.not_mem_authorityOf hn ?_
      rw [hcs]
      simp
    obtain ⟨rest, hraw, -, hslash, hrest⟩ := Proxy.exists_authority hat
    rw [hcs] at hraw hslash
    have hparts : (d.host.toList, d.port.toList) = (user, word ++ '@' :: (address ++ rest)) := by
      have hcut := congrArg (Text.cut? ':') hraw
      rw [Text.cut?_append_cons h, List.append_assoc, List.cons_append,
        Text.cut?_append_cons huser, List.append_assoc] at hcut
      exact Option.some.inj hcut
    obtain ⟨rfl, hport⟩ := Prod.mk.inj hparts
    refine ⟨word, ⟨fun hempty => hu (by rw [hempty]; rfl), hw, address, rest, hport, haddress,
      hslash, hrest⟩, rfl⟩
  · rintro ⟨word, ⟨hu, hw, address, rest, hport, haddress, hslash, hrest⟩, rfl⟩
    have hraw : d.host.toList ++ ':' :: d.port.toList
        = (d.host.toList ++ ':' :: (word ++ '@' :: address)) ++ rest := by
      rw [hport]
      simp
    rw [hraw, Proxy.authorityOf_append (by simp) hslash hrest]
    exact ⟨d.host.toList, word, address, rfl, h, haddress, mt String.toList_eq_nil_iff.mp hu, hw,
      rfl⟩

end Descriptor

/-! ## requests after an injection -/

namespace Session

variable {s : Session} {raw : String} {d : Descriptor}

/-- an injection without a fault can be read back under all of its keys -/
theorem reads_of_ok (hd : Descriptor.parse? raw = some d) (h : (s.apply (.text raw)).1.ok = true) :
    ∀ e ∈ d.entries, (s.apply (.text raw)).2.store.Reads e.1 e.2 := by
  obtain ⟨i, cs, ha⟩ := s.exists_account (.text raw)
  obtain ⟨made, rest, hcut⟩ := s.exists_cut d.entries
  rw [ha.outcome] at h ⊢
  have hreason : i.reason? = none := by
    have hok : i.ok = true := h
    rwa [Injection.ok_eq, Option.isNone_iff_eq_none] at hok
  cases rest with
  | nil =>
    have ho := ha.overlaid hd hcut
    intro e he
    rw [hcut.eq, List.append_nil] at he
    exact ho.reads he
  | cons e rest =>
    -- a write that fails is the reason of the whole
    obtain ⟨f, hf⟩ := Option.isSome_iff_exists.mp (hcut.stops e rfl)
    rw [ha.reason, firstFault?_of_cut_cons hd hcut hf] at hreason
    cases hreason

end Session

namespace Store

variable {s : Store} {d : Descriptor} (hreads : ∀ e ∈ d.entries, s.Reads e.1 e.2) {url : String}
  {r : Request} (hr : Request.ofUrl url = .ok r) (hhttp : Request.isHttp r.scheme = true)
  (dir : Directory) (e : Environment)
include hreads

theorem opens_of_entries (url : String) :
    s.opens dir e url = .ok ((s.openerFor "" e dir).openUrl url) := by
  have hlist : s.Reads Key.exemptHosts "" :=
    hreads (Key.exemptHosts, "") (by simp [Descriptor.entries])
  rw [opens, opener_eq hlist]
  rfl

include hhttp

/-- the proxy of the descriptor has both schemes, unless its host or port is empty -/
theorem proxyFor?_of_entries :
    (s.openerFor "" e dir).proxyFor? r.scheme =
      if d.host = "" ∨ d.port = "" then none
      else some (.text (Descriptor.urlPrefix ++ d.toString)) := by
  have hkeys : ∃ hostKey portKey, (r.scheme, hostKey, portKey) ∈ Key.schemes ∧
      s.Reads hostKey d.host ∧ s.Reads portKey d.port := by
    simp only [Descriptor.entries, List.forall_mem_cons] at hreads
    obtain ⟨h1, h2, h3, h4, -⟩ := hreads
    rcases Request.isHttp_iff.mp hhttp with h | h
    · exact ⟨_, _, h ▸ Key.http_mem, h1, h2⟩
    · exact ⟨_, _, h ▸ Key.https_mem, h3, h4⟩
  obtain ⟨hostKey, portKey, hk, hhost, hport⟩ := hkeys
  split
  · next hempty =>
    rw [proxyFor?_of_mem hk, proxyOf?_of_empty hhost hport hempty]
    rfl
  · next hne => exact proxyFor?_of_ne hk hhost hport hne

include hr

/-- what the proxy makes of a request, if there is one: a host without a name is a fault -/
theorem through_injected {host : String} (hhost : r.host = some host) (hne : host ≠ "") :
    (∃ x, (s.openerFor "" e dir).through r.scheme r = .error x) ∧
      (∀ name, nameOf host ≠ .ok name) ∨
    (s.openerFor "" e dir).through r.scheme r = .ok (.on
      (if (d.host = "" ∨ d.port = "") ∨ environmentExemptsUrl e url = true then r
        else r.handed d.proxy)) := by
  have hproxy := proxyFor?_of_entries hreads hhttp dir e
  by_cases hempty : d.host = "" ∨ d.port = ""
  · rw [if_pos hempty] at hproxy
    rw [if_pos (.inl hempty), Opener.through_of_none hproxy]
    exact .inr rfl
  · rw [if_neg hempty] at hproxy
    have hspares : (s.openerFor "" e dir).spares r = (nameOf host).map (matchesAny []) := by
      simp only [Opener.spares, openerFor, Opener.exempting, hhost, if_neg hne]
      rfl
    cases hname : nameOf host with
    | error x =>
      rw [hname] at hspares
      refine .inl ⟨⟨x, ?_⟩, fun name hok => ?_⟩
      · rw [Opener.through, hproxy]
        simp only [Opener.hand, hspares]
        rfl
      · cases hok
    | ok name =>
      rw [hname] at hspares
      have htext := d.ofText_url
      have hexempts : environmentExemptsUrl e url = environmentExempts e host := by
        rw [environmentExemptsUrl_eq hr, hhost, Option.any_some]
      right
      rw [Opener.through, hproxy, hexempts]
      simp only [hempty, false_or]
      exact Opener.hand_of_not_spares hspares htext (Proxy.scheme_of_ofText_urlPrefix htext) hhttp
        (Request.credentials_of_ofUrl hr) hhost hne

/-- What becomes of a request after an injection: it is not sent if its host has no name; else the
proxy gets it, if there is one, unless the environment exempts its host. -/
theorem opens_injected :
    (∃ x, s.opens dir e url = .ok (.error x)) ∧
      (∀ host name, r.host = some host → host ≠ "" → nameOf host ≠ .ok name) ∨
    s.opens dir e url = .ok (.ok (.sent
      (if (d.host = "" ∨ d.port = "") ∨ environmentExemptsUrl e url = true then r
        else r.handed d.proxy))) := by
  rw [opens_of_entries hreads]
  cases hnames : r.namesHost with
  | false =>
    left
    refine ⟨⟨.noHost, ?_⟩, fun host name hhost hne => ?_⟩
    · simp only [Opener.openUrl, hr, Opener.openRequest, Opener.openFrom, hhttp, hnames]
      rfl
    · rw [Request.namesHost, hhost, Option.any_some, bne_eq_false_iff_eq] at hnames
      exact absurd hnames hne
  | true =>
    obtain ⟨host, hhost, hne⟩ := Request.exists_of_namesHost hnames
    rcases through_injected hreads hr hhttp dir e hhost hne with ⟨⟨x, hx⟩, hno⟩ | hon
    · refine .inl ⟨⟨x, ?_⟩, fun host' name hhost' _ => ?_⟩
      · simp only [Opener.openUrl, hr, Opener.openRequest_of_error proxyFor?_default hnames hx]
      · rw [hhost] at hhost'
        cases hhost'
        exact hno name
    · right
      rw [openUrl_of_through hr rfl hnames (Opener.isNetwork_of_isHttp hhttp) hon]

end Store

namespace Session

/-- **Credentials after an injection.**  A request over http or https whose host has a name is
sent.  It has credentials exactly if the argument spells them and the environment does not exempt
the host, and then they are the two of the argument. -/
theorem apply_credentials {s : Session} {host port : String} (hhost : ':' ∉ host.toList)
    (hport : ':' ∉ port.toList) (hok : (s.apply (.text (host ++ ":" ++ port))).1.ok = true)
    {url : String} {r : Request} (hr : Request.ofUrl url = .ok r)
    (hhttp : Request.isHttp r.scheme = true) (dir : Directory) (e : Environment) :
    let store := (s.apply (.text (host ++ ":" ++ port))).2.store
    ((∃ asked name, r.host = some asked ∧ asked ≠ "" ∧ nameOf asked = .ok name) →
      ∃ r', store.opens dir e url = .ok (.ok (.sent r'))) ∧
    ∀ r', store.opens dir e url = .ok (.ok (.sent r')) → ∀ c, r'.credentials = some c ↔
      environmentExemptsUrl e url = false ∧
        ∃ word, (⟨host, port⟩ : Descriptor).Tells word ∧ c = Proxy.basic host.toList word := by
  intro store
  have hd : Descriptor.parse? (host ++ ":" ++ port) = some ⟨host, port⟩ :=
    Descriptor.parse?_eq_some_iff.mpr ⟨rfl, hhost, hport⟩
  have hcredentials := Request.credentials_of_ofUrl hr
  rcases Store.opens_injected (reads_of_ok hd hok) hr hhttp dir e with ⟨⟨x, hx⟩, hno⟩ | hopens
  · refine ⟨fun ⟨asked, name, hasked, hne, hname⟩ => absurd hname (hno asked name hasked hne), ?_⟩
    intro r' hr'
    rw [hx] at hr'
    cases hr'
  · refine ⟨fun _ => ⟨_, hopens⟩, fun r' hr' c => ?_⟩
    have hsame := Delivery.sent.inj (Except.ok.inj (Except.ok.inj (hopens.symm.trans hr')))
    by_cases hpast : (host = "" ∨ port = "") ∨ environmentExemptsUrl e url = true
    · -- past the proxy, and an empty half tells nothing
      rw [if_pos hpast] at hsame
      rw [← hsame, hcredentials]
      refine ⟨nofun, fun ⟨hexempts, word, htells, _⟩ => ?_⟩
      rcases hpast with (h | h) | h
      · exact absurd h htells.host_ne
      · obtain ⟨address, rest, hparts, -⟩ := htells.parts
        subst h
        simp at hparts
      · rw [hexempts] at h
        cases h
    · rw [if_neg hpast] at hsame
      have hexempts := Bool.eq_false_iff.mpr (not_or.mp hpast).2
      rw [← hsame]
      show (Descriptor.proxy ⟨host, port⟩).credentials? = some c ↔ _
      rw [Descriptor.credentials?_proxy_iff hhost]
      exact ⟨fun h => ⟨hexempts, h⟩, fun h => h.2⟩

/-- the request for the site, as it is -/
def asked : Request :=
  { scheme := "https", host := some "a", selector := "/", url := "https://a/" }

theorem ofUrl_asked : Request.ofUrl "https://a/" = .ok asked := by decide +kernel

/-- the password has an escaped at sign in it, and the address ends at the slash -/
theorem apply_credentials_told :
    (exempting.apply (.text ("user" ++ ":" ++ "p%40@h/x"))).1.ok = true ∧
    Request.ofUrl "https://a/" = .ok asked ∧ ∃ r',
      (exempting.apply (.text ("user" ++ ":" ++ "p%40@h/x"))).2.store.opens { path := "/" }
        [("no_proxy", "b")] "https://a/" = .ok (.ok (.sent r')) ∧
      r'.credentials = some "Basic dXNlcjpwQA==" := by
  have hok : (exempting.apply (.text ("user" ++ ":" ++ "p%40@h/x"))).1.ok = true := by
    decide +kernel
  have htells : (⟨"user", "p%40@h/x"⟩ : Descriptor).Tells "p%40".toList :=
    ⟨by decide, by decide, ['h'], ['/', 'x'], rfl, by decide, by decide +kernel,
      fun _ hc => (Option.some.inj hc).symm⟩
  have hbasic : "Basic dXNlcjpwQA==" = Proxy.basic "user".toList "p%40".toList := by decide +kernel
  obtain ⟨hsent, hcredentials⟩ := apply_credentials (s := exempting)
    (show ':' ∉ "user".toList by decide) (show ':' ∉ "p%40@h/x".toList by decide) hok ofUrl_asked
    (by decide) { path := "/" } [("no_proxy", "b")]
  obtain ⟨r', hr'⟩ := hsent ⟨"a", ['a'], rfl, by decide, by decide +kernel⟩
  exact ⟨hok, ofUrl_asked, r', hr',
    (hcredentials r' hr' _).mpr ⟨by decide +kernel, _, htells, hbasic⟩⟩

/-- the two halves of an argument can be the two halves of credentials -/
theorem apply_tells :
    ¬ ∀ (s : Session) (host port url : String) (dir : Directory) (e : Environment)
      (r r' : Request), ':' ∉ host.toList → ':' ∉ port.toList →
      Request.ofUrl url = .ok r → Request.isHttp r.scheme = true →
      (s.apply (.text (host ++ ":" ++ port))).1.ok = true →
      (s.apply (.text (host ++ ":" ++ port))).2.store.opens dir e url = .ok (.ok (.sent r')) →
      r'.credentials = none := by
  intro h
  have hopens : (exempting.apply (.text ("user" ++ ":" ++ "pass@h"))).2.store.opens
      { path := "/" } [] "https://a/" = .ok (.ok (.sent { asked with
        host := some "h", tunnel := some "a", credentials := some "Basic dXNlcjpwYXNz" })) := by
    decide +kernel
  have hnone := h exempting "user" "pass@h" "https://a/" { path := "/" } [] asked _ (by decide)
    (by decide) ofUrl_asked (by decide) (by decide +kernel) hopens
  cases hnone

end Session

end ProxyInjector
