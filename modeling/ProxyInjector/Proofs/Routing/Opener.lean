import ProxyInjector.Proofs.Routing.Exemption

/-!
# Requests that go over the network

A request over the network is sent as soon as the table has no entry `default` and lets it go on
(`Opener.openRequest_of_through`).  A proxy that is written with the scheme of the injector can
always be read (`Proxy.ofText_urlPrefix`), and makes of a request over http or https what
`Request.handed` says (`Opener.hand_eq`).
-/

namespace ProxyInjector

/-- the request as a proxy of the injector sends it on -/
def Request.handed (r : Request) (p : Routing.Proxy) : Request :=
  { r.via p.host "http" with credentials := p.credentials? }

theorem Request.isHttp_iff {scheme : String} :
    Request.isHttp scheme = true ↔ scheme = "http" ∨ scheme = "https" := by
  rw [Request.isHttp, Bool.or_eq_true, beq_iff_eq, beq_iff_eq]

namespace Routing

/-! ## proxies -/

namespace Proxy

theorem scheme_ofAuthority (scheme : Option String) (cs : List Char) :
    (ofAuthority scheme cs).scheme = scheme := by
  rw [ofAuthority]
  split
  · rfl
  · split <;> rfl

theorem ofText_urlPrefix (t : String) :
    ofText (Descriptor.urlPrefix ++ t) = .ok (ofAuthority (some "http") (authorityOf t.toList)) := by
  have hchars : (Descriptor.urlPrefix ++ t).toList = "http://".toList ++ t.toList :=
    String.toList_append
  have hscheme : Url.scheme? ("http://".toList ++ t.toList)
      = some ("http".toList, '/' :: '/' :: t.toList) := rfl
  simp only [ofText, hchars, hscheme]
  rfl

theorem scheme_of_ofText_urlPrefix {t : String} {p : Proxy}
    (h : ofText (Descriptor.urlPrefix ++ t) = .ok p) : p.scheme = some "http" := by
  rw [ofText_urlPrefix] at h
  rw [← Except.ok.inj h, scheme_ofAuthority]

/-- an authority without user information and escapes is the address of the proxy -/
theorem host_ofText_urlPrefix {t : String} (hslash : '/' ∉ t.toList) (hat : '@' ∉ t.toList)
    (hpercent : '%' ∉ t.toList) :
    ∃ p, ofText (Descriptor.urlPrefix ++ t) = .ok p ∧ p.host = t ∧ p.credentials? = none := by
  have hauthority : authorityOf t.toList = t.toList := by
    have htake : (t.toList ++ []).takeWhile (· != '/') = t.toList :=
      Text.takeWhile_append_of_head (fun c hc => bne_iff_ne.mpr fun h => hslash (h ▸ hc)) rfl
    rw [List.append_nil] at htake
    rw [authorityOf, Text.cut?_eq_none_iff.mpr hat]
    exact htake
  have hparts : ofAuthority (some "http") t.toList = { scheme := some "http", address := t.toList } := by
    rw [ofAuthority, Text.cutLast?_eq_none_iff.mpr hat]
  rw [ofText_urlPrefix, hauthority, hparts]
  refine ⟨_, rfl, ?_, rfl⟩
  show String.ofList (Url.unescape t.toList) = t
  rw [Url.unescape_of_not_mem hpercent, String.ofList_toList]

end Proxy

/-! ## openers -/

namespace Opener

variable {o : Opener} {r : Request}

theorem isNetwork_of_isHttp {scheme : String} (h : Request.isHttp scheme = true) :
    isNetwork scheme = true := by
  rw [isNetwork, h, Bool.true_or]

theorem through_of_none {name : String} (h : o.proxyFor? name = none) :
    o.through name r = .ok (.on r) := by
  rw [through, h]

theorem openRequest_of_through {r' : Request} (hn : isNetwork r.scheme = true)
    (hh : r.namesHost = true) (hd : o.proxyFor? "default" = none)
    (ht : o.through r.scheme r = .ok (.on r')) : o.openRequest r = .ok (.sent r') := by
  rw [openRequest, openFrom, hh, Bool.not_true, Bool.and_false, if_neg Bool.false_ne_true]
  simp only [through_of_none hd, ht, hn, if_pos]
  rfl

theorem environmentSpares_eq (he : NoProxyVariables o.environment) :
    o.environmentSpares r = false := by
  rw [environmentSpares]
  cases r.host with
  | none => rfl
  | some host =>
    rw [Option.any_some, environmentExempts_eq he, Bool.and_false]

/-- an exempt host goes past any proxy -/
theorem through_of_spares (hs : o.spares r = .ok true) (name : String) :
    o.through name r = .ok (.on r) := by
  rw [through]
  split
  · simp only [hand, hs]
  · rfl

theorem hand_eq {p : Proxy} {t : String} (hs : o.spares r = .ok false)
    (he : o.environmentSpares r = false) (hp : Proxy.ofText t = .ok p)
    (hscheme : p.scheme = some "http") (hr : Request.isHttp r.scheme = true)
    (hc : r.credentials = none) : o.hand (.text t) r = .ok (.on (r.handed p)) := by
  have hon := Request.isHttp_iff.mp hr
  simp only [hand, hs, Proxy.ofValue, hp, he, hscheme, Option.getD_some, if_pos hon]
  rw [Request.handed]
  cases p.credentials? with
  | some c => rfl
  | none =>
    rw [hc]
    rfl

/-- the environment has the last word -/
theorem hand_of_not_spares {p : Proxy} {t host : String} (hs : o.spares r = .ok false)
    (hp : Proxy.ofText t = .ok p) (hscheme : p.scheme = some "http")
    (hr : Request.isHttp r.scheme = true) (hc : r.credentials = none) (hhost : r.host = some host)
    (hne : host ≠ "") : o.hand (.text t) r
      = .ok (.on (if environmentExempts o.environment host then r else r.handed p)) := by
  have henv : o.environmentSpares r = environmentExempts o.environment host := by
    rw [environmentSpares, hhost, Option.any_some, bne_iff_ne.mpr hne, Bool.true_and]
  cases hx : environmentExempts o.environment host with
  | true =>
    rw [if_pos rfl]
    simp only [hand, hs, Proxy.ofValue, hp, henv, hx, if_pos]
  | false =>
    rw [if_neg Bool.false_ne_true]
    exact hand_eq hs (henv.trans hx) hp hscheme hr hc

end Opener

end Routing

end ProxyInjector
