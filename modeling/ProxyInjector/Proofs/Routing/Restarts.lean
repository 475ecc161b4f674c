import ProxyInjector.Proofs.Routing.Surroundings
import ProxyInjector.Proofs.Routing.Unlisted

/-!
# Restarts

A proxy that speaks another scheme than a request makes the request start over, and proxies of two
schemes may hand it to each other for ever (`Opener.openFrom_crossed`).

The proxies that a store names never do.  Whatever stands under the keys, they speak http, and for
that an http request need not start over and an https request stays what it is
(`Store.through_http`).  So a request over http or https is opened once, and one proxy is asked
about it at most (`Store.opens_once`).
-/

namespace ProxyInjector

/-! ## faults -/

/-- a proxy cannot be read, or proxies hand a request to each other for ever -/
def UrlError.blamesProxies : UrlError → Bool
  | .proxyWithoutAuthority _ | .endless => true
  | _ => false

namespace Url

variable {x : UrlError}

theorem blamesProxies_of_checkHost {cs : List Char} (h : checkHost cs = .error x) :
    x.blamesProxies = false := by
  rw [checkHost] at h
  split at h
  · split at h
    · cases h
    · rw [← Except.error.inj h]
      rfl
  · split at h
    · rw [← Except.error.inj h]
      rfl
    · split at h
      · cases h
      · rw [← Except.error.inj h]
        rfl

theorem blamesProxies_of_checkBrackets {cs : List Char} (h : checkBrackets cs = .error x) :
    x.blamesProxies = false := by
  rw [checkBrackets] at h
  split at h
  · cases h
  · dsimp only at h
    split at h
    · exact blamesProxies_of_checkHost h
    · split at h
      · rw [← Except.error.inj h]
        rfl
      · split at h
        · rw [← Except.error.inj h]
          rfl
        · exact blamesProxies_of_checkHost h
  · rw [← Except.error.inj h]
    rfl

theorem blamesProxies_of_check {cs : List Char} (h : check cs = .error x) :
    x.blamesProxies = false := by
  rw [check] at h
  split at h
  · next hbrackets =>
    rw [← Except.error.inj h]
    exact blamesProxies_of_checkBrackets hbrackets
  · split at h
    · rw [← Except.error.inj h]
      rfl
    · cases h

end Url

theorem Request.blamesProxies_of_ofUrl {url : String} {x : UrlError} (h : ofUrl url = .error x) :
    x.blamesProxies = false := by
  unfold ofUrl at h
  dsimp only at h
  split at h
  · rw [← Except.error.inj h]
    rfl
  · split at h
    · next hcheck =>
      rw [← Except.error.inj h]
      exact Url.blamesProxies_of_check hcheck
    · cases h

theorem Request.tunnel_of_ofUrl {url : String} {r : Request} (h : ofUrl url = .ok r) :
    r.tunnel = none := by
  unfold ofUrl at h
  dsimp only at h
  split at h
  · cases h
  · split at h
    · cases h
    · rw [← Except.ok.inj h]

/-- a proxy of the injector leaves the scheme of a request alone -/
theorem Request.scheme_via {r : Request} (hhttp : isHttp r.scheme = true) (ht : r.tunnel = none)
    (host : String) : (r.via host "http").scheme = r.scheme := by
  rw [via, ht]
  rcases isHttp_iff.mp hhttp with hs | hs
  · rw [if_neg (fun h => absurd (hs.symm.trans h.1) (by decide)), hs]
  · rw [if_pos ⟨hs, rfl⟩]

namespace Routing

theorem blamesProxies_of_nameOf {host : String} {x : UrlError} (h : nameOf host = .error x) :
    x.blamesProxies = false := by
  rw [nameOf] at h
  split at h
  · next hcheck =>
    rw [← Except.error.inj h]
    exact Url.blamesProxies_of_check hcheck
  · cases h

namespace Opener

variable {o : Opener} {r : Request}

/-- the patterns have nothing to say where the host has no name -/
theorem nameOf_of_spares {x : UrlError} (h : o.spares r = .error x) :
    ∃ host, r.host = some host ∧ nameOf host = .error x := by
  unfold spares at h
  split at h
  · next patterns host _ hhost =>
    split at h
    · cases h
    · rw [exempts] at h
      refine ⟨host, hhost, ?_⟩
      cases hname : nameOf host with
      | error y =>
        rw [hname] at h
        exact congrArg _ (Except.error.inj h)
      | ok name =>
        rw [hname] at h
        cases h
  · cases h

/-- a request that does not start over goes on, if it is not refused -/
theorem exists_of_on {name : String} (hon : ∀ r', o.through name r ≠ .ok (.over r')) :
    (∃ x, o.through name r = .error x) ∨ ∃ r', o.through name r = .ok (.on r') := by
  rcases hthrough : o.through name r with x | (r' | r')
  · exact .inl ⟨x, rfl⟩
  · exact .inr ⟨r', rfl⟩
  · exact absurd hthrough (hon r')

/-- **One opening.**  A request over http or https that no proxy makes start over is decided by the
proxy of its scheme alone, and nothing is left to do for another opening. -/
theorem openFrom_succ_of_on (hd : o.proxyFor? "default" = none)
    (hhttp : Request.isHttp r.scheme = true)
    (hon : ∀ r', o.through r.scheme r ≠ .ok (.over r')) (fuel : Nat) :
    o.openFrom (fuel + 1) r = if r.namesHost then (o.through r.scheme r).map (.sent ·.request)
      else .error .noHost := by
  rw [openFrom, hhttp]
  cases r.namesHost with
  | false => rfl
  | true =>
    rcases exists_of_on hon with ⟨x, ht⟩ | ⟨r', ht⟩
    · simp only [through_of_none hd, ht]
      rfl
    · simp only [through_of_none hd, ht, isNetwork_of_isHttp hhttp]
      rfl

theorem length_asks_le (name : String) : (o.asks name r).length ≤ 1 := by
  rw [asks]
  split
  · exact le_rfl
  · exact Nat.zero_le 1

theorem length_asked_of_on (hd : o.proxyFor? "default" = none)
    (hhttp : Request.isHttp r.scheme = true)
    (hon : ∀ r', o.through r.scheme r ≠ .ok (.over r')) (fuel : Nat) :
    (o.asked fuel r).length ≤ 1 := by
  have hasks : o.asks "default" r = [] := by rw [asks, hd]; rfl
  cases fuel with
  | zero => exact Nat.zero_le 1
  | succ fuel =>
    rw [asked]
    split
    · exact Nat.zero_le 1
    · simp only [through_of_none hd, hasks, andThen, List.nil_append, Except.toOption,
        Option.elim_some]
      rcases exists_of_on hon with ⟨x, ht⟩ | ⟨r', ht⟩
      · simpa [ht] using length_asks_le r.scheme
      · simpa [ht, isNetwork_of_isHttp hhttp] using length_asks_le r.scheme

/-! ## two proxies that cross -/

/-- the proxy of each scheme speaks the other -/
def crossed (d : Directory) : Opener :=
  exempting [("http", .text "ftp://p"), ("ftp", .text "http://p")] [] [] d

/-- a request on its way between the two -/
def crossing (scheme host selector : String) : Request :=
  { scheme, host := some host, selector, url := "http://a/" }

theorem through_crossed (d : Directory) {scheme other host selector : String}
    (h : (scheme, other) ∈ [("http", "ftp"), ("ftp", "http")]) (hhost : host ∈ ["a", "p"]) :
    (crossed d).through scheme (crossing scheme host selector)
      = .ok (.over (crossing other "p" "http://a/")) := by
  simp only [List.mem_cons, List.not_mem_nil, or_false, Prod.mk.injEq] at h hhost
  rcases h with ⟨rfl, rfl⟩ | ⟨rfl, rfl⟩ <;> rcases hhost with rfl | rfl
  all_goals rfl

/-- **For ever.**  However many restarts there are, another one follows. -/
theorem openFrom_crossed (d : Directory) {scheme other host : String}
    (h : (scheme, other) ∈ [("http", "ftp"), ("ftp", "http")]) (hhost : host ∈ ["a", "p"])
    (selector : String) (fuel : Nat) :
    (crossed d).openFrom fuel (crossing scheme host selector) = .error .endless := by
  have hnames : ∀ scheme selector : String, ∀ host ∈ ["a", "p"],
      (crossing scheme host selector).namesHost = true := by
    intro scheme selector host hhost
    simp only [List.mem_cons, List.not_mem_nil, or_false] at hhost
    rcases hhost with rfl | rfl
    all_goals rfl
  have hback : ∀ {scheme other : String}, (scheme, other) ∈ [("http", "ftp"), ("ftp", "http")] →
      (other, scheme) ∈ [("http", "ftp"), ("ftp", "http")] := by
    intro scheme other h
    simp only [List.mem_cons, List.not_mem_nil, or_false, Prod.mk.injEq] at h ⊢
    exact h.symm.imp And.symm And.symm
  have hdefault : ∀ r, (crossed d).through "default" r = .ok (.on r) := fun _ => rfl
  induction fuel generalizing scheme other host selector with
  | zero => rfl
  | succ fuel ih =>
    have hthrough : (crossed d).through (crossing scheme host selector).scheme
        (crossing scheme host selector) = .ok (.over (crossing other "p" "http://a/")) :=
      through_crossed d h hhost
    rw [openFrom, hnames scheme selector host hhost, Bool.not_true, Bool.and_false,
      if_neg Bool.false_ne_true]
    have hagain : (crossed d).openFrom fuel (crossing other "p" "http://a/") = .error .endless :=
      ih (hback h) (by decide) _
    simp only [hdefault, hthrough, hagain]

end Opener

end Routing

open Routing (Opener Proxy nameOf)

namespace Store

variable {s : Store} {list : String} {e : Environment} {d : Directory} {r : Request}

/-- **The proxies of a store.**  Whatever they are, a request over http or https goes on in its own
scheme, unless patterns cannot say whether they exempt its host. -/
theorem through_http (hhttp : Request.isHttp r.scheme = true) (ht : r.tunnel = none) :
    (∃ r', (s.openerFor list e d).through r.scheme r = .ok (.on r') ∧ r'.scheme = r.scheme) ∨
    ∃ x host, (s.openerFor list e d).through r.scheme r = .error x ∧ r.host = some host ∧
      nameOf host = .error x := by
  rw [Opener.through]
  split
  · next v hproxy =>
    obtain ⟨-, t, rfl⟩ := proxyFor?_eq_some hproxy
    rw [Opener.hand]
    split
    · next x hspares =>
      obtain ⟨host, hhost, hname⟩ := Opener.nameOf_of_spares hspares
      exact .inr ⟨x, host, rfl, hhost, hname⟩
    · exact .inl ⟨r, rfl, rfl⟩
    · simp only [Proxy.ofValue, Proxy.ofText_urlPrefix, Proxy.scheme_ofAuthority,
        Option.getD_some, if_pos (Request.isHttp_iff.mp hhttp)]
      split
      · exact .inl ⟨r, rfl, rfl⟩
      · exact .inl ⟨_, rfl, Request.scheme_via hhttp ht _⟩
  · exact .inl ⟨r, rfl, rfl⟩

theorem on_of_http (hhttp : Request.isHttp r.scheme = true) (ht : r.tunnel = none) (r' : Request) :
    (s.openerFor list e d).through r.scheme r ≠ .ok (.over r') := by
  intro hover
  rcases through_http hhttp ht with ⟨r'', hon, -⟩ | ⟨x, host, herror, -⟩
  · rw [hon] at hover
    cases hover
  · rw [herror] at hover
    cases hover

section
variable {url : String}

/-- the first opening is the last -/
theorem openFrom_succ_of_http (hr : Request.ofUrl url = .ok r)
    (hhttp : Request.isHttp r.scheme = true) (fuel : Nat) :
    (s.openerFor list e d).openFrom (fuel + 1) r = (s.openerFor list e d).openUrl url := by
  have hon : ∀ r', (s.openerFor list e d).through r.scheme r ≠ .ok (.over r') :=
    on_of_http hhttp (Request.tunnel_of_ofUrl hr)
  simp only [Opener.openUrl, hr, Opener.openRequest]
  rw [Opener.openFrom_succ_of_on proxyFor?_default hhttp hon,
    Opener.openFrom_succ_of_on proxyFor?_default hhttp hon]

/-- What becomes of a URL over http or https: a request for it is sent in its own scheme, or it
names no host, or a host that patterns do not know. -/
theorem openUrl_http (hr : Request.ofUrl url = .ok r) (hhttp : Request.isHttp r.scheme = true) :
    (∃ r', (s.openerFor list e d).openUrl url = .ok (.sent r') ∧ r'.scheme = r.scheme) ∨
    (s.openerFor list e d).openUrl url = .error .noHost ∨
    ∃ x host, (s.openerFor list e d).openUrl url = .error x ∧ r.host = some host ∧
      nameOf host = .error x := by
  have ht := Request.tunnel_of_ofUrl hr
  rw [← openFrom_succ_of_http hr hhttp 0,
    Opener.openFrom_succ_of_on proxyFor?_default hhttp (on_of_http hhttp ht)]
  split
  · rcases through_http hhttp ht with ⟨r', hon, hscheme⟩ | ⟨x, host, herror, hname⟩
    · rw [hon]
      exact .inl ⟨r', rfl, hscheme⟩
    · rw [herror]
      exact .inr (.inr ⟨x, host, rfl, hname⟩)
  · exact .inr (.inl rfl)

theorem blamesProxies_of_openUrl
    (hurl : ∀ r, Request.ofUrl url = .ok r → Request.isHttp r.scheme = true) {x : UrlError}
    (hx : (s.openerFor list e d).openUrl url = .error x) : x.blamesProxies = false := by
  cases hr : Request.ofUrl url with
  | error y =>
    simp only [Opener.openUrl, hr] at hx
    rw [← Except.error.inj hx]
    exact Request.blamesProxies_of_ofUrl hr
  | ok r =>
    rcases openUrl_http hr (hurl r hr) with ⟨r', hsent, -⟩ | hnone | ⟨y, host, hy, -, hname⟩
    · rw [hsent] at hx
      cases hx
    · rw [hnone] at hx
      rw [← Except.error.inj hx]
      rfl
    · rw [hy] at hx
      rw [← Except.error.inj hx]
      exact Routing.blamesProxies_of_nameOf hname

end

/-- **No restarts.**  Opening a URL over http or https by the proxies of a store never fails for a
proxy that cannot be read, or for want of an end.  One proxy is asked about it at most, and the
first opening is the last, whatever number is allowed; what is sent is sent in the scheme of the
URL, and if nothing is, the URL names no host or one that patterns do not know.

Other tables can hand a request on for ever. -/
theorem opens_once (s : Store) (e : Environment) (d : Directory) {url : String}
    (hurl : ∀ r, Request.ofUrl url = .ok r → Request.isHttp r.scheme = true) :
    (∀ x, s.opens d e url = .ok (.error x) →
      x ≠ .endless ∧ ∀ proxy, x ≠ .proxyWithoutAuthority proxy) ∧
    (∀ o r, s.opener e d = .ok o → Request.ofUrl url = .ok r →
      (∀ fuel, (o.asked fuel r).length ≤ 1 ∧ o.openFrom (fuel + 1) r = o.openUrl url) ∧
      ((∃ r', o.openUrl url = .ok (.sent r') ∧ r'.scheme = r.scheme) ∨
        o.openUrl url = .error .noHost ∨
        ∃ x host, o.openUrl url = .error x ∧ r.host = some host ∧ nameOf host = .error x)) ∧
    ∃ proxies r, Request.ofUrl "http://a/" = .ok r ∧
      ∀ fuel, (Opener.exempting proxies [] [] d).openFrom fuel r = .error .endless := by
  have hcrossing : Request.ofUrl "http://a/" = .ok (Opener.crossing "http" "a" "/") := by
    decide +kernel
  have hcrossed : ∀ fuel,
      (Opener.crossed d).openFrom fuel (Opener.crossing "http" "a" "/") = .error .endless :=
    Opener.openFrom_crossed d (List.mem_cons_self : ("http", "ftp") ∈ _) (by decide) "/"
  rcases opener_eq_or s with ⟨list, hlist⟩ | ⟨m, hnone⟩
  · refine ⟨fun x hx => ?_, fun o r ho hr => ?_, _, _, hcrossing, hcrossed⟩
    · rw [opens, hlist] at hx
      have hblames := blamesProxies_of_openUrl hurl (Except.ok.inj hx)
      refine ⟨?_, fun proxy => ?_⟩
      · rintro rfl
        cases hblames
      · rintro rfl
        cases hblames
    · obtain rfl := Except.ok.inj ((hlist e d).symm.trans ho)
      have hhttp := hurl r hr
      have hon : ∀ r', (s.openerFor list e d).through r.scheme r ≠ .ok (.over r') :=
        on_of_http hhttp (Request.tunnel_of_ofUrl hr)
      exact ⟨fun fuel => ⟨Opener.length_asked_of_on proxyFor?_default hhttp hon fuel,
        openFrom_succ_of_http hr hhttp fuel⟩, openUrl_http hr hhttp⟩
  · -- no opener can be had, and nothing is opened
    refine ⟨fun x hx => ?_, fun o r ho => ?_, _, _, hcrossing, hcrossed⟩
    · rw [opens, hnone] at hx
      cases hx
    · rw [hnone] at ho
      cases ho

/-- whatever the text of a proxy may hold, and a port that is no text -/
def unreadable : Store :=
  .properties [(.text "https.proxyHost", .text "/a@b\n%2F"), (.text "https.proxyPort", .int 1)]
    false

theorem opens_once_unreadable :
    (∀ r, Request.ofUrl "https://a/" = .ok r → Request.isHttp r.scheme = true) ∧
    ∃ o r r', unreadable.opener [("no_proxy", "b")] { path := "/" } = .ok o ∧
      Request.ofUrl "https://a/" = .ok r ∧ r'.scheme = "https" ∧
      o.openUrl "https://a/" = .ok (.sent r') ∧
      ∀ fuel, (o.asked fuel r).length ≤ 1 ∧ o.openFrom (fuel + 1) r = .ok (.sent r') := by
  have hasked : Request.ofUrl "https://a/" = .ok
      { scheme := "https", host := some "a", selector := "/", url := "https://a/" } := by
    decide +kernel
  have hurl : ∀ r, Request.ofUrl "https://a/" = .ok r → Request.isHttp r.scheme = true := by
    rintro r hr
    obtain rfl := Except.ok.inj (hasked.symm.trans hr)
    decide
  have ho : unreadable.opener [("no_proxy", "b")] { path := "/" }
      = .ok (unreadable.openerFor "" [("no_proxy", "b")] { path := "/" }) := rfl
  obtain ⟨-, honce, -⟩ := opens_once unreadable [("no_proxy", "b")] { path := "/" } hurl
  obtain ⟨hfuel, hbecomes⟩ := honce _ _ ho hasked
  rcases hbecomes with ⟨r', hsent, hscheme⟩ | hnone | ⟨x, host, -, hhost, hname⟩
  · exact ⟨hurl, _, _, r', ho, hasked, hscheme, hsent,
      fun fuel => ⟨(hfuel fuel).1, (hfuel fuel).2.trans hsent⟩⟩
  · have hnames : (unreadable.openerFor "" [("no_proxy", "b")] { path := "/" }).openUrl "https://a/"
        ≠ .error .noHost := by decide +kernel
    exact absurd hnone hnames
  · obtain rfl := Option.some.inj hhost
    have hok : nameOf "a" = .ok ['a'] := by decide +kernel
    rw [hok] at hname
    cases hname

end Store

end ProxyInjector
