import ProxyInjector.Proofs.Url.Written
import ProxyInjector.Routing.Opener

/-!
# Openers without patterns

An opener with an empty list of patterns exempts no host, but still asks for the name by which
patterns know the host, and some hosts have none.

* `Request.nameFault?`   why the host of a request has no such name;
* `Opener.asked`         the requests for which an opener looks at one of its proxies, in order and
                         over all restarts.  Their hosts are that of the first request and those of
                         proxies (`host_of_mem_asked`);
* `Opener.openFrom_nil`  two openers of the same proxies, one with an empty list and one with none,
                         go the same way until the first stops (`Stops`);
* `Opener.openUrl_nil`   the empty list stops at the first of these requests whose host has no
                         name, and else makes no difference.  `Opener.openUrl_escaped` is a URL that
                         is stopped.
-/

namespace ProxyInjector

/-- the host of the request has no name -/
def Request.nameFault? (r : Request) : Option UrlError :=
  match r.host with
  | some host =>
    if host = "" then none
    else match Routing.nameOf host with
      | .error x => some x
      | .ok _ => none
  | none => none

namespace Routing

/-- the request that is handed on -/
def Handed.request : Handed → Request
  | .on r => r
  | .over r => r

/-! ## one opening beside another -/

/-- `a` is the fault of the first of the requests whose host has no name, and `b` if there is none -/
def Stops {α : Type} (rs : List Request) (a b : Except UrlError α) : Prop :=
  a = (rs.findSome? Request.nameFault?).elim b .error

/-- requests that one step meets, and then those of the next step if it is taken -/
def andThen {α : Type} (rs : List Request) (a : Except UrlError α) (next : α → List Request) :
    List Request :=
  rs ++ a.toOption.elim [] next

theorem mem_andThen {α : Type} {rs : List Request} {a : Except UrlError α}
    {next : α → List Request} {q : Request} :
    q ∈ andThen rs a next ↔ q ∈ rs ∨ ∃ x, a = .ok x ∧ q ∈ next x := by
  rw [andThen, List.mem_append]
  cases a <;> simp [Except.toOption]

namespace Stops

variable {rs : List Request}

theorem refl {α : Type} (a : Except UrlError α) : Stops [] a a := rfl

/-- **A proxy is asked.**  Openings that stop together behind it stop together from here on. -/
theorem met {a b : Except UrlError Handed} {next : Handed → List Request}
    {again again' further further' : Request → Except UrlError Delivery}
    (hagain : ∀ r, Stops (next (.over r)) (again r) (again' r))
    (hfurther : ∀ r, Stops (next (.on r)) (further r) (further' r)) : Stops rs a b →
    Stops (andThen rs b next)
      (match a with
        | .error e => .error e
        | .ok (.over r) => again r
        | .ok (.on r) => further r)
      (match b with
        | .error e => .error e
        | .ok (.over r) => again' r
        | .ok (.on r) => further' r) := by
  intro h
  rw [Stops] at h
  rw [Stops, andThen, List.findSome?_append, h]
  cases rs.findSome? Request.nameFault? with
  | some x => rfl
  | none =>
    rw [Option.none_or, Option.elim_none]
    match b with
    | .error x => rfl
    | .ok (.over r) => exact hagain r
    | .ok (.on r) => exact hfurther r

/-- an error stays what it is when an answer is looked at -/
theorem received {a b : Except UrlError Delivery} (scheme : String) : Stops rs a b → Stops rs
      (match a with
        | .error e => .error e
        | .ok delivery => Opener.receive scheme delivery)
      (match b with
        | .error e => .error e
        | .ok delivery => Opener.receive scheme delivery) := by
  intro h
  rw [Stops] at h ⊢
  rw [h]
  cases rs.findSome? Request.nameFault? <;> rfl

end Stops

namespace Opener

/-! ## the requests that proxies are asked about -/

/-- the request, if there is an entry of that name -/
def asks (o : Opener) (name : String) (r : Request) : List Request :=
  if (o.proxyFor? name).isSome then [r] else []

/-- the requests that a proxy is asked about while the opener opens `r` -/
def asked (o : Opener) : (fuel : Nat) → Request → List Request
  | 0, _ => []
  | fuel + 1, r =>
    if Request.isHttp r.scheme && !r.namesHost then []
    else andThen (o.asks "default" r) (o.through "default" r) fun
      | .over r => o.asked fuel r
      | .on r => andThen (o.asks r.scheme r) (o.through r.scheme r) fun
        | .over r => o.asked fuel r
        | .on r' =>
          if isNetwork r.scheme then []
          else match Local.answer o.directory r.scheme r' with
          | .ok none =>
            if r.scheme = "unknown" then []
            else andThen (o.asks "unknown" r') (o.through "unknown" r') fun
              | .over r => o.asked fuel r
              | .on _ => []
          | _ => []

/-- the same for a URL -/
def askedFor (o : Opener) (url : String) : List Request :=
  match Request.ofUrl url with
  | .error _ => []
  | .ok r => o.asked (o.proxies.length + 1) r

/-- the host of one of the proxies -/
def IsProxyHost (o : Opener) (host : Option String) : Prop :=
  ∃ entry ∈ o.proxies, ∃ p, Proxy.ofValue entry.2 = .ok p ∧ host = some p.host

/-- the host is that of the request, or that of a proxy -/
def Meets (o : Opener) (r : Request) (host : Option String) : Prop :=
  host = r.host ∨ o.IsProxyHost host

theorem Meets.trans {o : Opener} {r r' : Request} {host : Option String}
    (h : o.Meets r r'.host) (h' : o.Meets r' host) : o.Meets r host := by
  rcases h' with rfl | h'
  · exact h
  · exact .inr h'

theorem host_of_hand {o : Opener} {proxy : Value} {r : Request} {handed : Handed}
    (h : o.hand proxy r = .ok handed) : handed.request.host = r.host ∨
      ∃ p, Proxy.ofValue proxy = .ok p ∧ handed.request.host = some p.host := by
  have hvia : ∀ host scheme, (r.via host scheme).host = some host := by
    intro host scheme
    rw [Request.via]
    split <;> rfl
  rw [hand] at h
  split at h
  · cases h
  · rw [← Except.ok.inj h]
    exact .inl rfl
  · split at h
    · cases h
    · next p hp =>
      dsimp only at h
      split at h
      · rw [← Except.ok.inj h]
        exact .inl rfl
      · right
        refine ⟨p, hp, ?_⟩
        split at h <;> rw [← Except.ok.inj h] <;> exact hvia _ _

theorem host_of_through {o : Opener} {name : String} {r : Request} {handed : Handed}
    (h : o.through name r = .ok handed) : o.Meets r handed.request.host := by
  rw [through] at h
  split at h
  · next proxy hproxy =>
    obtain ⟨-, hproxy⟩ := Option.ite_none_right_eq_some.mp hproxy
    obtain ⟨entry, he, rfl⟩ := Option.map_eq_some_iff.mp hproxy
    have hentry : entry ∈ o.proxies := List.mem_reverse.mp (List.mem_of_find?_eq_some he)
    refine (host_of_hand h).imp_right ?_
    rintro ⟨p, hp, hhost⟩
    exact ⟨entry, hentry, p, hp, hhost⟩
  · rw [← Except.ok.inj h]
    exact .inl rfl

/-- one proxy on the way to a request -/
theorem Meets.of_mem {o : Opener} {name : String} {r q : Request} {next : Handed → List Request}
    (h : q ∈ andThen (o.asks name r) (o.through name r) next)
    (hover : ∀ r', q ∈ next (.over r') → o.Meets r' q.host)
    (hon : ∀ r', q ∈ next (.on r') → o.Meets r' q.host) : o.Meets r q.host := by
  rcases mem_andThen.mp h with h | ⟨handed, hthrough, h⟩
  · rw [asks] at h
    split at h
    · rw [List.mem_singleton.mp h]
      exact .inl rfl
    · exact absurd h List.not_mem_nil
  · refine (host_of_through hthrough).trans ?_
    obtain r' | r' := handed
    · exact hon r' h
    · exact hover r' h

/-- **The hosts that count.**  A request that a proxy is asked about is for the host of the first
request or for that of a proxy. -/
theorem host_of_mem_asked {o : Opener} {fuel : Nat} {r q : Request} (h : q ∈ o.asked fuel r) :
    o.Meets r q.host := by
  induction fuel generalizing r with
  | zero => exact absurd h List.not_mem_nil
  | succ fuel ih =>
    rw [asked] at h
    split at h
    · exact absurd h List.not_mem_nil
    refine Meets.of_mem h (fun _ => ih) fun r h => ?_
    refine Meets.of_mem h (fun _ => ih) fun r' h => ?_
    dsimp only at h
    split at h
    · exact absurd h List.not_mem_nil
    split at h
    · split at h
      · exact absurd h List.not_mem_nil
      · exact Meets.of_mem h (fun _ => ih) fun _ h => absurd h List.not_mem_nil
    · exact absurd h List.not_mem_nil

/-! ## what an empty list of patterns does -/

section
variable {proxies : List (String × Value)} {e : Environment} {d : Directory}

theorem hand_nil (proxy : Value) (r : Request) :
    (exempting proxies [] e d).hand proxy r
      = r.nameFault?.elim ((plain proxies e d).hand proxy r) .error := by
  have hspares : (exempting proxies [] e d).spares r = r.nameFault?.elim (.ok false) .error := by
    rw [Request.nameFault?, spares]
    cases r.host with
    | none => rfl
    | some host =>
      show (if host = "" then .ok false else exempts [] host) = _
      by_cases hh : host = ""
      · simp only [hh, if_pos, Option.elim_none]
      · rw [if_neg hh, exempts]
        cases hn : nameOf host <;> simp only [hh, if_false, hn] <;> rfl
  have hplain : (plain proxies e d).spares r = .ok false := rfl
  rw [hand, hspares, hand, hplain]
  cases r.nameFault? <;> rfl

theorem through_nil (name : String) (r : Request) :
    Stops ((plain proxies e d).asks name r) ((exempting proxies [] e d).through name r)
      ((plain proxies e d).through name r) := by
  have hproxy : (exempting proxies [] e d).proxyFor? name = (plain proxies e d).proxyFor? name := rfl
  rw [Stops, through, through, asks, hproxy]
  cases (plain proxies e d).proxyFor? name with
  | none => rfl
  | some proxy =>
    show (exempting proxies [] e d).hand proxy r = _
    rw [hand_nil, if_pos Option.isSome_some, List.findSome?_singleton]

/-- **The restarts.**  With an empty list of patterns a request is opened as with none, unless the
host of a request that a proxy is asked about has no name. -/
theorem openFrom_nil (fuel : Nat) (r : Request) :
    Stops ((plain proxies e d).asked fuel r) ((exempting proxies [] e d).openFrom fuel r)
      ((plain proxies e d).openFrom fuel r) := by
  have hdirectory : (exempting proxies [] e d).directory = (plain proxies e d).directory := rfl
  induction fuel generalizing r with
  | zero => exact .refl _
  | succ fuel ih =>
    rw [openFrom, openFrom, asked]
    split
    · exact .refl _
    · refine .received r.scheme (.met ih (fun r => ?_) (through_nil "default" r))
      refine .met ih (fun r' => ?_) (through_nil r.scheme r)
      dsimp only
      split
      · exact .refl _
      · rw [hdirectory]
        cases Local.answer (plain proxies e d).directory r.scheme r' with
        | error x => exact .refl _
        | ok source =>
          cases source with
          | some source => exact .refl _
          | none =>
            dsimp only
            split
            · exact .refl _
            · exact .met ih (fun r => .refl _) (through_nil "unknown" r')

end

/-- **The empty list.**  An opener with an empty list of patterns makes of a URL what one without
a list makes of it, unless it stops at the first request whose host has no name.  The requests in
question are those that a proxy is asked about, for the host of the URL or that of a proxy. -/
theorem openUrl_nil (proxies : List (String × Value)) (e : Environment) (d : Directory)
    (url : String) :
    (exempting proxies [] e d).openUrl url
        = (((plain proxies e d).askedFor url).findSome? Request.nameFault?).elim
          ((plain proxies e d).openUrl url) .error ∧
      ∀ r, Request.ofUrl url = .ok r →
        ∀ q ∈ (plain proxies e d).askedFor url, (plain proxies e d).Meets r q.host := by
  rw [openUrl, openUrl, askedFor]
  cases Request.ofUrl url with
  | error x => exact ⟨rfl, fun _ h => nomatch h⟩
  | ok r =>
    refine ⟨openFrom_nil _ r, ?_⟩
    rintro _ ⟨⟩ q hq
    exact host_of_mem_asked hq

/-- an escape of a bracket makes a host that has no name -/
theorem openUrl_escaped :
    ¬ ∀ (proxies : List (String × Value)) (e : Environment) (d : Directory) (url : String),
      (exempting proxies [] e d).openUrl url = (plain proxies e d).openUrl url := by
  intro h
  have hopen := h [("http", .text "http://p:1")] [] { path := "/" } "http://%5B/"
  revert hopen
  decide +kernel

end Opener

end Routing

end ProxyInjector
