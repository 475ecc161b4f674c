import ProxyInjector.Proofs.Injection.Apply
import ProxyInjector.Proofs.Routing.Configured

/-!
# What an unfinished injection leaves to route by

An injection that is stopped half way takes nothing back.  The reading side pairs host and port
scheme by scheme, so that it may find the two halves of different injections.

* `Overlaid.lookup_eq`     a key of the injection reads what was written, if it was, and what it
                           read before if not;
* `Overlaid.proxyOf?_eq`   the proxy of a scheme is that of the argument once the port of the
                           scheme is written, and that of the store before as long as its host is
                           not.  In between, where the write of the port is the one that failed,
                           the new host stands beside the old port;
* `apply_unfinished`       the same for the table of proxies, and `proxies_mixed` that such a pair
                           can be neither of the two.
-/

namespace ProxyInjector

/-- the proxy that a host and a port name, if both are there and not empty -/
def Value.proxyAt? (host port : Value) : Option String :=
  if host.truthy && port.truthy then some ("http://" ++ host.shown ++ ":" ++ port.shown) else none

theorem Store.proxyOf?_eq (s : Store) (hostKey portKey : String) :
    s.proxyOf? hostKey portKey = Value.proxyAt? (s.lookup hostKey) (s.lookup portKey) := rfl

/-- the table of proxies has the proxy of each scheme under its name -/
theorem Store.lookup_proxies (s : Store) {scheme hostKey portKey : String}
    (h : (scheme, hostKey, portKey) ∈ Key.schemes) :
    s.proxies.lookup scheme = s.proxyOf? hostKey portKey := by
  simp only [Key.schemes, List.mem_cons, Prod.mk.injEq, List.not_mem_nil, or_false] at h
  rw [proxies_eq]
  rcases h with ⟨rfl, rfl, rfl⟩ | ⟨rfl, rfl, rfl⟩
  · cases s.proxyOf? Key.httpHost Key.httpPort <;>
      cases s.proxyOf? Key.httpsHost Key.httpsPort <;> rfl
  · cases s.proxyOf? Key.httpHost Key.httpPort <;>
      cases s.proxyOf? Key.httpsHost Key.httpsPort <;> rfl

/-! ## where a list is cut -/

/-- a list cut in front of `f`: of two neighbours `x` and `y` neither is in the first part, or both
are, or `f` is `y` and only `x` is -/
theorem neighbours_of_cut {α : Type} {before behind made rest : List α} {x y f : α}
    (hn : (before ++ x :: y :: behind).Nodup)
    (h : before ++ x :: y :: behind = made ++ f :: rest) :
    x ∉ made ∧ y ∉ made ∧ f ≠ y ∨ x ∈ made ∧ y ∉ made ∧ f = y ∨ x ∈ made ∧ y ∈ made := by
  rcases List.append_eq_append_iff.mp h with ⟨as, rfl, hrest⟩ | ⟨as, rfl, hrest⟩
  · match as, hrest with
    | [], hrest =>
      obtain ⟨rfl, -⟩ := List.cons.inj hrest
      left
      grind
    | [_], hrest =>
      simp only [List.cons_append, List.nil_append, List.cons.injEq] at hrest
      obtain ⟨rfl, rfl, -⟩ := hrest
      right
      left
      grind
    | _ :: _ :: as, hrest =>
      simp only [List.cons_append, List.cons.injEq] at hrest
      obtain ⟨rfl, rfl, -⟩ := hrest
      exact .inr (.inr ⟨by simp, by simp⟩)
  · -- the cut is in front of both
    left
    cases as <;> grind

namespace Session

open Injection

/-- an injection writes the host of each scheme right before its port -/
theorem entries_of_mem (d : Descriptor) {scheme hostKey portKey : String}
    (h : (scheme, hostKey, portKey) ∈ Key.schemes) :
    ∃ before behind, d.entries = before ++ (hostKey, d.host) :: (portKey, d.port) :: behind := by
  simp only [Key.schemes, List.mem_cons, Prod.mk.injEq, List.not_mem_nil, or_false] at h
  rcases h with ⟨-, rfl, rfl⟩ | ⟨-, rfl, rfl⟩
  · exact ⟨[], _, rfl⟩
  · exact ⟨[(Key.httpHost, d.host), (Key.httpPort, d.port)], _, rfl⟩

section
variable {s : Session} {host port : String} {made rest : List (String × String)} {i : Injection}
  {cs : List Call}

theorem Overlaid.lookup_eq (h : s.Overlaid host port made rest i cs) {e : String × String}
    (he : e ∈ Descriptor.entries ⟨host, port⟩) :
    (s.calls cs).store.lookup e.1 = if e ∈ made then .text e.2 else s.store.lookup e.1 := by
  rw [Store.lookup_eq, Store.lookup_eq]
  by_cases hm : e ∈ made
  · rw [if_pos hm, h.written e hm]
    rfl
  · rw [if_neg hm, h.kept]
    intro e' he' hkey
    -- `e` is among the entries that were not written, and no two entries have one key
    have hn := nodup_keys ⟨host, port⟩
    have hrest : e ∈ rest := by
      have hmem : e ∈ made ++ rest := h.cut.eq ▸ he
      exact (List.mem_append.mp hmem).resolve_left hm
    have heq : Descriptor.entries ⟨host, port⟩ = made ++ rest := h.cut.eq
    rw [heq, List.map_append] at hn
    exact (List.nodup_append.mp hn).2.2 e'.1 (List.mem_map_of_mem he') e.1
      (List.mem_map_of_mem hrest) (Value.text.inj hkey).symm

theorem Overlaid.proxyOf?_eq {failing : String × String} {scheme hostKey portKey : String}
    (h : s.Overlaid host port made (failing :: rest) i cs)
    (hk : (scheme, hostKey, portKey) ∈ Key.schemes) :
    (s.calls cs).store.proxyOf? hostKey portKey =
      if (portKey, port) ∈ made then Value.proxyAt? (.text host) (.text port)
      else if failing = (portKey, port) then
        Value.proxyAt? (.text host) (s.store.lookup portKey)
      else s.store.proxyOf? hostKey portKey := by
  obtain ⟨before, behind, heq⟩ := entries_of_mem ⟨host, port⟩ hk
  have hhost : (s.calls cs).store.lookup hostKey
      = if (hostKey, host) ∈ made then .text host else s.store.lookup hostKey :=
    h.lookup_eq (e := (hostKey, host)) (by simp [heq])
  have hport : (s.calls cs).store.lookup portKey
      = if (portKey, port) ∈ made then .text port else s.store.lookup portKey :=
    h.lookup_eq (e := (portKey, port)) (by simp [heq])
  have hn : (before ++ (hostKey, host) :: (portKey, port) :: behind).Nodup :=
    heq ▸ (nodup_keys ⟨host, port⟩).of_map
  have hcut : before ++ (hostKey, host) :: (portKey, port) :: behind = made ++ failing :: rest :=
    heq.symm.trans h.cut.eq
  rw [Store.proxyOf?_eq, Store.proxyOf?_eq, hhost, hport]
  rcases neighbours_of_cut hn hcut with ⟨hx, hy, hf⟩ | ⟨hx, hy, hf⟩ | ⟨hx, hy⟩
  · rw [if_neg hx, if_neg hy, if_neg hy, if_neg hf]
  · rw [if_pos hx, if_neg hy, if_neg hy, if_pos hf]
  · rw [if_pos hx, if_pos hy, if_pos hy]

end

/-- an injection of `host` and `port` that got the entries `made` into the store before the write
of `failing` failed, and the proxies of the schemes in the session `t` that it left -/
structure Unfinished (s t : Session) (host port : String) (made rest : List (String × String))
    (failing : String × String) : Prop where
  cut : s.Cut [("http.proxyHost", host), ("http.proxyPort", port), ("https.proxyHost", host),
    ("https.proxyPort", port), ("http.nonProxyHosts", "")] made (failing :: rest)
  proxies : ∀ scheme hostKey portKey, (scheme, hostKey, portKey) ∈
      [("http", "http.proxyHost", "http.proxyPort"),
        ("https", "https.proxyHost", "https.proxyPort")] →
    t.store.proxies.lookup scheme =
      if (portKey, port) ∈ made then Value.proxyAt? (.text host) (.text port)
      else if failing = (portKey, port) then Value.proxyAt? (.text host) (s.store.lookup portKey)
      else s.store.proxies.lookup scheme

/-- **The proxies behind an unfinished injection.**  If a write fails, the proxy of each scheme is
that of the argument where the port of the scheme was written before, and what it was before the
injection elsewhere, except for the scheme whose port failed to be written: it is left with the
new host and with the port from before. -/
theorem apply_unfinished {s : Session} {raw reason : String}
    (h : (s.apply (.text raw)).1 = .failed none reason) :
    ∃ host port made rest failing, raw = host ++ ":" ++ port ∧
      s.Unfinished (s.apply (.text raw)).2 host port made rest failing := by
  obtain ⟨i, cs, ha⟩ := s.exists_account (.text raw)
  rw [ha.outcome] at h ⊢
  have hi : i = .failed none reason := h
  cases hd : Descriptor.parse? raw with
  | none =>
    -- a text that is no descriptor is skipped
    have hreason := ha.reason
    rw [hi, firstFault?, obstacles, hd] at hreason
    cases hreason
  | some d =>
    obtain ⟨made, rest, hcut⟩ := s.exists_cut d.entries
    have ho := ha.overlaid hd hcut
    cases rest with
    | nil =>
      have hdesc := ho.descriptor
      rw [hi, if_pos rfl] at hdesc
      cases hdesc
    | cons failing rest =>
      refine ⟨d.host, d.port, made, rest, failing, (Descriptor.parse?_eq_some_iff.mp hd).1, hcut,
        fun scheme hostKey portKey hk => ?_⟩
      rw [Store.lookup_proxies _ hk, Store.lookup_proxies _ hk]
      exact ho.proxyOf?_eq hk

/-- an environment that names a proxy for http -/
def routed : Session where
  store := .environment [("http.proxyHost", "old"), ("http.proxyPort", "80")]
  console := { directory := { path := "/" } }

theorem apply_unfinished_routed :
    (routed.apply (.text "new:\x00")).1 = .failed none "http.proxyPort embedded null byte" ∧
    ∃ host port made rest failing, "new:\x00" = host ++ ":" ++ port ∧
      routed.Unfinished (routed.apply (.text "new:\x00")).2 host port made rest failing := by
  have h : (routed.apply (.text "new:\x00")).1
      = .failed none "http.proxyPort embedded null byte" := by decide +kernel
  exact ⟨h, apply_unfinished h⟩

/-- the environment does not take the port, and http is left with a proxy that nobody named -/
theorem proxies_mixed :
    ¬ ∀ (s : Session) (host port reason : String),
      (s.apply (.text (host ++ ":" ++ port))).1 = .failed none reason →
      ∀ scheme ∈ ["http", "https"],
        let left := (s.apply (.text (host ++ ":" ++ port))).2.store.proxies.lookup scheme
        left = s.store.proxies.lookup scheme ∨
          left = Value.proxyAt? (.text host) (.text port) := by
  intro h
  have hmixed := h routed "new" "\x00" "http.proxyPort embedded null byte" (by decide +kernel)
    "http" (by decide)
  have hleft : (routed.apply (.text ("new" ++ ":" ++ "\x00"))).2.store.proxies.lookup "http"
      = some "http://new:80" := by decide +kernel
  have hbefore : routed.store.proxies.lookup "http" = some "http://old:80" := by decide +kernel
  have hown : Value.proxyAt? (.text "new") (.text "\x00") = some "http://new:\x00" := by
    decide +kernel
  dsimp only at hmixed
  rw [hleft, hbefore, hown] at hmixed
  revert hmixed
  decide

end Session

end ProxyInjector
