import ProxyInjector.Proofs.Url.Written

/-!
# Requests for plain URLs

`Url.Plain scheme` is a written URL with a site as its authority.

* `Plain.ofUrl_eq`      the request for the URL asks the site (`Request.Asks`);
* `Plain.ofUrl_path`    a path without blanks and number signs is the selector as it stands.
-/

namespace ProxyInjector

/-- the request asks a site in a scheme, and no proxy has had it yet -/
structure Request.Asks (r : Request) (scheme : String) (a : Url.Site) : Prop where
  scheme : r.scheme = scheme
  host : r.host = some a.text
  tunnel : r.tunnel = none
  credentials : r.credentials = none
  selector : r.selector ≠ r.url

theorem Request.AsksHost.asks {r : Request} {scheme : String} {a : Url.Site}
    (h : r.AsksHost scheme a.text) : r.Asks scheme a :=
  ⟨h.scheme, h.host, h.tunnel, h.credentials, h.selector⟩

theorem Request.Asks.namesHost {r : Request} {scheme : String} {a : Url.Site}
    (h : r.Asks scheme a) : r.namesHost = true := by
  rw [Request.namesHost, h.host]
  exact bne_iff_ne.mpr a.text_ne_empty

namespace Url

theorem Place.legible (a : Place) : Legible a.chars where
  ascii := fun _ => a.toNat_of_mem
  plain := by
    intro c hc
    refine ⟨isDelimiter_of_isSiteChar (a.isSiteChar_of_mem hc), ?_⟩
    rintro rfl
    exact a.not_mem_chars rfl hc
  check := check_of_isOrdinary a.isOrdinary

theorem Site.legible (a : Site) : Legible a.chars := a.place.legible

/-! ## plain URLs -/

structure Plain (scheme : String) where
  /-- the scheme as it is spelled -/
  word : List Char
  site : Site
  rest : List Char
  word_alpha : ∀ c ∈ word, c.isAlpha = true
  word_lower : String.ofList (Text.lowerFrom [] word) = scheme
  rest_tail : isTail rest = true

namespace Plain

variable {scheme : String} (u : Plain scheme)

/-- the URL up to its authority -/
def front : List Char := u.word ++ ':' :: '/' :: '/' :: u.site.chars

def text : String := String.ofList (u.front ++ u.rest)

/-- the same URL, with the site as any other authority -/
def written : Written scheme where
  word := u.word
  authority := u.site.chars
  rest := u.rest
  word_alpha := u.word_alpha
  word_lower := u.word_lower
  legible := u.site.legible
  rest_tail := u.rest_tail

/-! ## the request -/

theorem ofUrl_eq (hs : scheme ≠ "") (hurl : scheme ≠ "url") :
    ∃ r, Request.ofUrl u.text = .ok r ∧ r.Asks scheme u.site := by
  obtain ⟨r, hr, h⟩ := u.written.ofUrl_eq hs hurl
  exact ⟨r, hr, h.asks⟩

/-- the path goes into the selector as it stands -/
structure HasPath (path : List Char) : Prop where
  rest : u.rest = '/' :: path
  plain : ∀ c ∈ path, Text.isBlank c = false ∧ c ≠ '#'

/-- the request for a URL with that path -/
def asked (path : List Char) : Request where
  scheme := scheme
  host := some u.site.text
  selector := String.ofList ('/' :: path)
  url := u.text

theorem ofUrl_path (hs : scheme ≠ "") (hurl : scheme ≠ "url") {path : List Char}
    (h : u.HasPath path) : Request.ofUrl u.text = .ok (u.asked path) :=
  u.written.ofUrl_path hs hurl h.rest h.plain

theorem asks_asked (hs : scheme ≠ "") (hurl : scheme ≠ "url") {path : List Char}
    (h : u.HasPath path) : (u.asked path).Asks scheme u.site := by
  obtain ⟨r, hr, ha⟩ := u.ofUrl_eq hs hurl
  rw [u.ofUrl_path hs hurl h] at hr
  rwa [Except.ok.inj hr]

end Plain

end Url

end ProxyInjector
