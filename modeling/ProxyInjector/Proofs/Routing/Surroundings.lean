import ProxyInjector.Proofs.Routing.Configured

/-!
# What the environment has to say about requests

The opener of a store takes its proxies and its patterns from the store alone, but a request that
it is about to hand to a proxy goes past it all the same if the environment exempts the host.

* `Opener.direct`             the answer to a request that meets no proxy;
* `Store.openUrl_settled_or`  a store settles what becomes of a URL in every environment, unless it
                              has a proxy for it; then that proxy gets the request exactly in those
                              environments that do not exempt its host;
* `Store.opens_eq`            so an environment that exempts the host replaces what the store sends
                              by the request as it is, and any other changes nothing;
* `Store.opens_eq_iff`        when two environments make the same of a URL.
-/

namespace ProxyInjector

namespace Routing

/-- the environment exempts the host that the URL names -/
def environmentExemptsUrl (e : Environment) (url : String) : Bool :=
  match Request.ofUrl url with
  | .ok r => r.host.any (environmentExempts e)
  | .error _ => false

theorem environmentExempts_nil (host : String) : environmentExempts [] host = false := rfl

theorem environmentExemptsUrl_eq {url : String} {r : Request} (h : Request.ofUrl url = .ok r)
    (e : Environment) : environmentExemptsUrl e url = r.host.any (environmentExempts e) := by
  rw [environmentExemptsUrl, h]

/-- the delivery with `r` in the place of what is sent -/
def Delivery.sending (r : Request) : Delivery → Delivery
  | .sent _ => .sent r
  | .answered source => .answered source

/-- what is delivered stays the same under `sending r` exactly if nothing but `r` is sent -/
theorem map_sending_eq_iff (x : Except Misuse (Except UrlError Delivery)) (r : Request) :
    x.map (·.map (Delivery.sending r)) = x ↔ ∀ r', x = .ok (.ok (.sent r')) → r = r' := by
  match x with
  | .error _ => simp [Except.map]
  | .ok (.error _) => simp [Except.map]
  | .ok (.ok (.answered _)) => simp [Except.map, Delivery.sending]
  | .ok (.ok (.sent _)) => simp [Except.map, Delivery.sending]

/-! ## past all proxies -/

namespace Opener

/-- the answer to a request that meets no proxy -/
def direct (d : Directory) (r : Request) : Except UrlError Delivery :=
  if Request.isHttp r.scheme && !r.namesHost then .error .noHost
  else if isNetwork r.scheme then .ok (.sent r)
  else match Local.answer d r.scheme r with
  | .error e => .error e
  | .ok (some source) => .ok (.answered source)
  | .ok none => .error (.unknownScheme r.scheme)

theorem eq_of_direct {d : Directory} {r r' : Request} (h : direct d r = .ok (.sent r')) : r' = r := by
  unfold direct at h
  split at h
  · cases h
  · split at h
    · exact (Delivery.sent.inj (Except.ok.inj h)).symm
    · split at h <;> cases h

theorem isHttp_of_not_isNetwork {scheme : String} (h : isNetwork scheme = false) :
    Request.isHttp scheme = false := (Bool.or_eq_false_iff.mp h).1

variable {o : Opener} {r : Request}

/-- a request that meets no proxy under any name is answered directly -/
theorem openRequest_of_on (hd : o.proxyFor? "default" = none) (hu : o.proxyFor? "unknown" = none)
    (ht : o.through r.scheme r = .ok (.on r)) : o.openRequest r = direct o.directory r := by
  rw [openRequest, openFrom, direct]
  split
  · rfl
  · simp only [through_of_none hd, ht, through_of_none hu]
    cases hn : isNetwork r.scheme with
    | true => simp [receive]
    | false =>
      have hhttp := isHttp_of_not_isNetwork hn
      cases hl : Local.answer o.directory r.scheme r with
      | error x => simp
      | ok found =>
        cases found with
        | some source => simp [receive, hhttp]
        | none => simp

theorem openRequest_of_error {x : UrlError} (hd : o.proxyFor? "default" = none)
    (hh : r.namesHost = true) (ht : o.through r.scheme r = .error x) : o.openRequest r = .error x := by
  rw [openRequest, openFrom, hh, Bool.not_true, Bool.and_false, if_neg Bool.false_ne_true]
  simp only [through_of_none hd, ht]

end Opener

end Routing

open Routing

namespace Request

theorem credentials_of_ofUrl {url : String} {r : Request} (h : ofUrl url = .ok r) :
    r.credentials = none := by
  unfold ofUrl at h
  dsimp only at h
  split at h
  · cases h
  · split at h
    · cases h
    · rw [← Except.ok.inj h]

theorem exists_of_namesHost {r : Request} (h : r.namesHost = true) :
    ∃ host, r.host = some host ∧ host ≠ "" := by
  rw [namesHost] at h
  cases hhost : r.host with
  | none => simp [hhost] at h
  | some host => exact ⟨host, rfl, by simpa [hhost] using h⟩

end Request

/-! ## the opener of a store -/

namespace Store

/-- what the opener of the store makes of a URL in an environment -/
def opens (s : Store) (d : Directory) (e : Environment) (url : String) :
    Except Misuse (Except UrlError Delivery) :=
  (s.opener e d).map (·.openUrl url)

variable {s : Store} {list : String} {d : Directory} {e : Environment}

/-- what stands under the key of the exempt hosts is a list, or no opener can be had -/
theorem opener_eq_or (s : Store) :
    (∃ list, ∀ e d, s.opener e d = .ok (s.openerFor list e d)) ∨
      ∃ m, ∀ e d, s.opener e d = .error m := by
  cases hl : s.exemptHosts with
  | error m =>
    right
    refine ⟨m, fun e d => ?_⟩
    rw [opener, hl]
    rfl
  | ok patterns =>
    left
    have hlist : ∃ list : String, patterns = (patternsIn list.toList).map String.ofList := by
      simp only [exemptHosts] at hl
      split at hl
      · exact ⟨"", (Except.ok.inj hl).symm⟩
      · cases hv : s.lookup Key.exemptHosts with
        | text list =>
          rw [hv] at hl
          exact ⟨list, (Except.ok.inj hl).symm⟩
        | _ => rw [hv] at hl; cases hl
    obtain ⟨list, rfl⟩ := hlist
    refine ⟨list, fun e d => ?_⟩
    rw [opener, hl]
    rfl

theorem proxyOf?_eq_some {hostKey portKey proxy : String}
    (h : s.proxyOf? hostKey portKey = some proxy) : ∃ t, proxy = Descriptor.urlPrefix ++ t := by
  obtain ⟨-, h⟩ := Option.ite_none_right_eq_some.mp h
  obtain rfl := Option.some.inj h
  exact ⟨_, by rw [String.append_assoc, String.append_assoc]⟩

/-- a proxy of the store is written with the scheme of the injector -/
theorem proxyFor?_eq_some {name : String} {v : Value}
    (h : (s.openerFor list e d).proxyFor? name = some v) :
    Request.isHttp name = true ∧ ∃ t, v = .text (Descriptor.urlPrefix ++ t) := by
  have hhttp : Request.isHttp name = true := by
    by_contra hn
    rw [proxyFor?_of_not_isHttp (Bool.not_eq_true _ ▸ hn)] at h
    cases h
  have hproxy : ∃ hostKey portKey proxy,
      s.proxyOf? hostKey portKey = some proxy ∧ .text proxy = v := by
    rcases Request.isHttp_iff.mp hhttp with rfl | rfl
    · rw [proxyFor?_of_mem Key.http_mem] at h
      exact ⟨_, _, Option.map_eq_some_iff.mp h⟩
    · rw [proxyFor?_of_mem Key.https_mem] at h
      exact ⟨_, _, Option.map_eq_some_iff.mp h⟩
  obtain ⟨_, _, proxy, hp, rfl⟩ := hproxy
  obtain ⟨t, rfl⟩ := proxyOf?_eq_some hp
  exact ⟨hhttp, t, rfl⟩

/-- what a proxy makes of a request does not depend on the environment, unless it hands it on -/
theorem through_settled_or (s : Store) (list : String) (d : Directory) {r : Request} {host : String}
    (hc : r.credentials = none) (hhost : r.host = some host) (hne : host ≠ "") :
    (∃ x, ∀ e, (s.openerFor list e d).through r.scheme r = .error x) ∨
    (∀ e, (s.openerFor list e d).through r.scheme r = .ok (.on r)) ∨
    ∃ p, ∀ e, (s.openerFor list e d).through r.scheme r
      = .ok (.on (if environmentExempts e host then r else r.handed p)) := by
  cases hp : (s.openerFor list [] d).proxyFor? r.scheme with
  | none =>
    have hnone : ∀ e, (s.openerFor list e d).proxyFor? r.scheme = none := fun _ => hp
    exact .inr (.inl fun e => Opener.through_of_none (hnone e))
  | some v =>
    have hsome : ∀ e, (s.openerFor list e d).proxyFor? r.scheme = some v := fun _ => hp
    obtain ⟨hhttp, t, rfl⟩ := proxyFor?_eq_some hp
    cases hs : (s.openerFor list [] d).spares r with
    | error x =>
      have hspares : ∀ e, (s.openerFor list e d).spares r = .error x := fun _ => hs
      exact .inl ⟨x, fun e => by simp only [Opener.through, hsome, Opener.hand, hspares]⟩
    | ok spared =>
      have hspares : ∀ e, (s.openerFor list e d).spares r = .ok spared := fun _ => hs
      cases spared with
      | true => exact .inr (.inl fun e => Opener.through_of_spares (hspares e) _)
      | false =>
        have htext := Proxy.ofText_urlPrefix t
        refine .inr (.inr ⟨Proxy.ofAuthority (some "http") (Proxy.authorityOf t.toList), fun e => ?_⟩)
        simp only [Opener.through, hsome]
        exact Opener.hand_of_not_spares (hspares e) htext (Proxy.scheme_of_ofText_urlPrefix htext)
          hhttp hc hhost hne

/-- What becomes of a URL is settled by the store, and is not sent to any proxy; or a proxy gets
the request in just those environments that do not exempt its host. -/
theorem openUrl_settled_or {url : String} {r : Request} (hr : Request.ofUrl url = .ok r)
    (s : Store) (list : String) (d : Directory) :
    (∃ x, (∀ r', x = .ok (.sent r') → r' = r) ∧ ∀ e, (s.openerFor list e d).openUrl url = x) ∨
    ∃ p host, r.host = some host ∧ ∀ e, (s.openerFor list e d).openUrl url
      = .ok (.sent (if environmentExempts e host then r else r.handed p)) := by
  have hunknown : ∀ e, (s.openerFor list e d).proxyFor? "unknown" = none :=
    fun _ => proxyFor?_of_not_isHttp (by decide)
  have hdirect : (∀ e, (s.openerFor list e d).through r.scheme r = .ok (.on r)) →
      ∀ e, (s.openerFor list e d).openUrl url = Opener.direct d r := by
    intro ht e
    simp only [Opener.openUrl, hr]
    exact Opener.openRequest_of_on proxyFor?_default (hunknown e) (ht e)
  cases hhttp : Request.isHttp r.scheme with
  | false =>
    have ht : ∀ e, (s.openerFor list e d).through r.scheme r = .ok (.on r) :=
      fun e => Opener.through_of_none (proxyFor?_of_not_isHttp hhttp)
    exact .inl ⟨_, fun _ => Opener.eq_of_direct, hdirect ht⟩
  | true =>
    cases hh : r.namesHost with
    | false =>
      refine .inl ⟨.error .noHost, by simp, fun e => ?_⟩
      simp only [Opener.openUrl, hr, Opener.openRequest, Opener.openFrom, hhttp, hh]
      rfl
    | true =>
      obtain ⟨host, hhost, hne⟩ := Request.exists_of_namesHost hh
      have hcredentials := Request.credentials_of_ofUrl hr
      rcases through_settled_or s list d hcredentials hhost hne with ⟨x, ht⟩ | ht | ⟨p, ht⟩
      · refine .inl ⟨.error x, by simp, fun e => ?_⟩
        simp only [Opener.openUrl, hr]
        exact Opener.openRequest_of_error proxyFor?_default hh (ht e)
      · exact .inl ⟨_, fun _ => Opener.eq_of_direct, hdirect ht⟩
      · refine .inr ⟨p, host, hhost, fun e => ?_⟩
        simp only [Opener.openUrl, hr]
        exact Opener.openRequest_of_through (Opener.isNetwork_of_isHttp hhttp) hh
          proxyFor?_default (ht e)

/-- An environment that exempts the host lets the request go as it is where the store would send
it to a proxy, and any other environment changes nothing. -/
theorem opens_eq {url : String} {r : Request} (hr : Request.ofUrl url = .ok r) (s : Store)
    (d : Directory) (e : Environment) :
    s.opens d e url =
      if environmentExemptsUrl e url then (s.opens d [] url).map (·.map (Delivery.sending r))
      else s.opens d [] url := by
  rw [environmentExemptsUrl_eq hr]
  rcases opener_eq_or s with ⟨list, ho⟩ | ⟨m, ho⟩
  · simp only [opens, ho, Except.map]
    rcases openUrl_settled_or hr s list d with ⟨x, hx, hopen⟩ | ⟨p, host, hhost, hopen⟩
    · rw [hopen, hopen]
      split
      · match x, hx with
        | .error _, _ => rfl
        | .ok (.answered _), _ => rfl
        | .ok (.sent r'), hx => rw [hx r' rfl]; rfl
      · rfl
    · rw [hopen, hopen, hhost, Option.any_some, environmentExempts_nil]
      cases environmentExempts e host <;> rfl
  · simp only [opens, ho, Except.map]
    split <;> rfl

/-- **Two environments.**  They make the same of a URL exactly if both exempt its host or neither
does, or if the store on its own sends the request as it is or not at all. -/
theorem opens_eq_iff (s : Store) (d : Directory) (url : String) (e e' : Environment) :
    s.opens d e url = s.opens d e' url ↔
      environmentExemptsUrl e url = environmentExemptsUrl e' url ∨
        ∀ r', s.opens d [] url = .ok (.ok (.sent r')) → Request.ofUrl url = .ok r' := by
  cases hr : Request.ofUrl url with
  | error x =>
    have hopens : s.opens d e url = s.opens d e' url := by
      rcases opener_eq_or s with ⟨list, ho⟩ | ⟨m, ho⟩
      · simp only [opens, ho, Except.map, Opener.openUrl, hr]
      · simp only [opens, ho, Except.map]
    have hexempts : environmentExemptsUrl e url = environmentExemptsUrl e' url := by
      simp only [environmentExemptsUrl, hr]
    exact ⟨fun _ => .inl hexempts, fun _ => hopens⟩
  | ok r =>
    have hsent := map_sending_eq_iff (s.opens d [] url) r
    rw [opens_eq hr s d e, opens_eq hr s d e']
    cases environmentExemptsUrl e url <;> cases environmentExemptsUrl e' url
    · simp
    · simpa using eq_comm.trans hsent
    · simpa using hsent
    · simp

/-- one proxy for both schemes, and nobody exempt -/
def single : Table :=
  [(.text "http.proxyHost", .text "p"), (.text "http.proxyPort", .text "1"),
    (.text "https.proxyHost", .text "p"), (.text "https.proxyPort", .text "1"),
    (.text "http.nonProxyHosts", .text "")]

/-- a variable lets a request go past the one proxy that properties have for it -/
theorem opens_exempted :
    ¬ ∀ (t : Table) (frozen : Bool) (d : Directory) (url : String) (r : Request)
      (e e' : Environment), Request.ofUrl url = .ok r → Request.isHttp r.scheme = true →
      (properties t frozen).opens d e url = (properties t frozen).opens d e' url := by
  intro h
  let r : Request :=
    { scheme := "http", host := some "a", selector := "/", url := "http://a/" }
  have hr : Request.ofUrl "http://a/" = .ok r := by decide +kernel
  have hopens := h single false { path := "/" } "http://a/" r [("no_proxy", "*")] [] hr (by decide)
  revert hopens
  decide +kernel

end Store

end ProxyInjector
