import ProxyInjector.Proofs.Injection.Apply
import ProxyInjector.Proofs.Routing.Configured

/-!
# Injections in a row

A session is asked for one injection after the other.  Some arguments are skipped, some are no
texts, and the report of others fails when their entries are written already.

* `Step.named?`          the descriptor that a step injects into the session's store;
* `Session.Open`         no write of texts can fail, which stays so whatever is called;
* `Open.perform_store`   in an open session a step overlays the store with the entries of the
                         descriptor it names, and so does a run with those of all of them
                         (`Open.after_store`);
* `after_injections`     of all these only the last are there in the end, since every descriptor
                         is written under the same keys.
-/

namespace ProxyInjector.Session

open Injection

/-! ## steps that inject -/

namespace Step

/-- the step injects, with a report or without -/
def Injects : Step → Prop
  | .apply _ | .inject _ | .applyOnce _ _ => True
  | _ => False

/-- What a step injects into the session's store.  Where no store is given, that is the session's
if it stands in for one itself. -/
def argument? (standsIn : Bool) : Step → Option Value
  | .apply argument | .inject argument => some argument
  | .applyOnce argument given => if given || standsIn then some argument else none
  | _ => none

def named? (standsIn : Bool) (step : Step) : Option Descriptor :=
  (step.argument? standsIn).bind Value.descriptor?

/-- the argument of the step is a text with exactly one colon -/
def HasColon (standsIn : Bool) (step : Step) : Prop :=
  ∃ raw, step.argument? standsIn = some (.text raw) ∧ raw.toList.count ':' = 1

theorem named?_eq_none_iff {standsIn : Bool} {step : Step} :
    step.named? standsIn = none ↔ ¬ step.HasColon standsIn := by
  unfold named? HasColon
  cases step.argument? standsIn with
  | none => simp
  | some v =>
    cases v with
    | text raw => simpa [Value.descriptor?] using Descriptor.parse?_eq_none_iff
    | _ => simp [Value.descriptor?]

end Step

/-- the session's store stands in where none is given -/
def standsIn (s : Session) : Bool := s.standard?.isNone

/-- no write of an entry fails, the next one or any other -/
def Open (s : Session) : Prop := ∀ n e, s.faultAt? n e = none

theorem open_of_properties {s : Session} {entries : Table}
    (hstore : s.store = .properties entries false) (hfaults : s.faults = []) : s.Open := by
  intro n e
  have hnone : s.scheduled? n = none := by
    rw [scheduled?, hfaults]
    rfl
  simp only [faultAt?, hnone, hstore]
  rfl

namespace Open

variable {s : Session}

theorem calls (h : s.Open) (cs : List Call) : (s.calls cs).Open := by
  intro n e
  rw [faultAt?_calls]
  exact h n e

theorem cut (h : s.Open) (es : List (String × String)) : s.Cut es es [] :=
  ⟨(List.append_nil es).symm, fun x _ => h x.2 x.1, by simp⟩

/-- in an open session all that an injection attempts is taken -/
theorem taken_attempts (h : s.Open) (raw : Value) :
    s.taken (s.attempts raw) = raw.descriptor?.elim [] Descriptor.entries := by
  cases hd : raw.descriptor? with
  | none =>
    rw [attempts, hd]
    rfl
  | some d =>
    cases raw with
    | text text =>
      have hcut := h.cut d.entries
      rw [attempts_of_cut hd hcut, hcut.taken_eq]
      rfl
    | _ => cases hd

/-- **One step.**  Whether it is reported or not, an injection in an open session gets the entries
of its descriptor into the store, and leaves the session open.  One into another store leaves this
one as it is. -/
theorem perform_store (h : s.Open) {step : Step} (hstep : step.Injects) :
    let t := (s.perform step).2
    t.store = s.store.overlay ((step.named? s.standsIn).elim [] Descriptor.entries) ∧ t.Open ∧
      t.standsIn = s.standsIn := by
  have hcases : (∃ raw cs, step.argument? s.standsIn = some raw ∧
      (s.perform step).2 = s.calls cs ∧ Call.sets cs = s.attempts raw) ∨
      step.argument? s.standsIn = none ∧ ∃ console store,
        (s.perform step).2 = { s with console, standard? := some store } ∧ s.standsIn = false := by
    cases step with
    | apply raw =>
      obtain ⟨i, cs, ha⟩ := s.exists_account raw
      exact .inl ⟨raw, cs, rfl, by rw [perform, ha.outcome], ha.sets⟩
    | inject raw =>
      obtain ⟨i, cs, hi, hsets⟩ := s.exists_inject_calls raw
      exact .inl ⟨raw, cs, rfl, by rw [perform, hi], hsets⟩
    | applyOnce raw given =>
      cases given with
      | true =>
        obtain ⟨i, cs, ha⟩ := s.exists_account raw
        exact .inl ⟨raw, cs, rfl, by rw [perform, if_pos rfl, ha.outcome], ha.sets⟩
      | false =>
        cases hstandard : s.standard? with
        | none =>
          obtain ⟨i, cs, ha⟩ := s.exists_account raw
          refine .inl ⟨raw, cs, ?_, ?_, ha.sets⟩
          · rw [standsIn, hstandard]
            rfl
          · rw [perform, if_neg Bool.false_ne_true, applyStandard, hstandard]
            exact congrArg Prod.snd ha.outcome
        | some store =>
          let u := (Session.apply { store, console := s.console } raw).2
          refine .inr ⟨?_, u.console, u.store, ?_, ?_⟩
          · rw [standsIn, hstandard]
            rfl
          · rw [perform, if_neg Bool.false_ne_true, applyStandard, hstandard]
          · rw [standsIn, hstandard]
            rfl
    | _ => cases hstep
  intro t
  rcases hcases with ⟨raw, cs, hraw, ht, hsets⟩ | ⟨hnone, console, store, ht, hs⟩
  · have hstands : (s.calls cs).standsIn = s.standsIn := congrArg Option.isNone (s.standard?_calls cs)
    rw [show t = _ from ht, store_calls, hsets, h.taken_attempts, Step.named?, hraw]
    exact ⟨rfl, h.calls cs, hstands⟩
  · rw [show t = _ from ht, Step.named?, hnone, hs]
    exact ⟨rfl, h, rfl⟩

end Open

/-! ## runs -/

/-- the session that the last of the steps leaves -/
def after (s : Session) (steps : List Step) : Session :=
  ((s.trace steps).getLast?.map (·.2)).getD s

theorem after_cons (s : Session) (step : Step) (steps : List Step) :
    s.after (step :: steps) = (s.perform step).2.after steps := by
  rw [after, after, trace, List.getLast?_cons]
  cases ((s.perform step).2.trace steps).getLast? <;> rfl

/-- **A run of steps** overlays the store with the entries of all descriptors that they name. -/
theorem Open.after_store {s : Session} (h : s.Open) {steps : List Step}
    (hsteps : ∀ step ∈ steps, step.Injects) :
    (s.after steps).store = s.store.overlay
      ((steps.filterMap (Step.named? s.standsIn)).flatMap Descriptor.entries) := by
  induction steps generalizing s with
  | nil => rfl
  | cons step steps ih =>
    obtain ⟨hstep, hsteps⟩ := List.forall_mem_cons.mp hsteps
    obtain ⟨hstore, hopen, hstands⟩ := h.perform_store hstep
    rw [after_cons, ih hopen hsteps, hstore, hstands, ← Store.overlay_append]
    cases hn : step.named? s.standsIn with
    | none => rw [List.filterMap_cons_none hn]; rfl
    | some d => rw [List.filterMap_cons_some hn]; rfl

theorem keys_entries (c d : Descriptor) : c.entries.map (·.1) = d.entries.map (·.1) := rfl

/-- the entries of the last descriptor stand in the place of all others -/
theorem overlay_flatMap_entries (t : Table) (ds : List Descriptor) (d : Descriptor) :
    (t.overlay (ds.flatMap Descriptor.entries)).overlay d.entries = t.overlay d.entries := by
  induction ds generalizing t with
  | nil => rfl
  | cons c ds ih =>
    rw [List.flatMap_cons, Table.overlay_append, ih,
      Table.overlay_overlay (keys_entries c d) (nodup_keys d)]

/-! ## what is left -/

/-- the store of `t` is that of `s` with the five keys set to `host` and `port`, and both schemes
have that proxy, if it is one, and no host is exempt from it -/
structure Settled (s t : Session) (host port : String) : Prop where
  store : t.store = s.store.overlay [("http.proxyHost", host), ("http.proxyPort", port),
    ("https.proxyHost", host), ("https.proxyPort", port), ("http.nonProxyHosts", "")]
  written : ∀ e ∈ [("http.proxyHost", host), ("http.proxyPort", port), ("https.proxyHost", host),
    ("https.proxyPort", port), ("http.nonProxyHosts", "")],
    t.store.entries.get? (.text e.1) = some (.text e.2)
  kept : ∀ key, (∀ name ∈ ["http.proxyHost", "http.proxyPort", "https.proxyHost",
    "https.proxyPort", "http.nonProxyHosts"], key ≠ .text name) →
    t.store.entries.get? key = s.store.entries.get? key
  proxies : t.store.proxies = if host = "" ∨ port = "" then [] else
    [("http", "http://" ++ host ++ ":" ++ port), ("https", "http://" ++ host ++ ":" ++ port)]
  exemptHosts : t.store.exemptHosts = .ok []

theorem settled_of_overlay {s t : Session} (d : Descriptor)
    (h : t.store = s.store.overlay d.entries) : s.Settled t d.host d.port := by
  have hwritten : ∀ e ∈ d.entries, t.store.entries.get? (.text e.1) = some (.text e.2) := by
    intro e he
    rw [h]
    exact Store.get?_overlay_of_mem (nodup_keys d) he s.store
  have hreads : ∀ e ∈ d.entries, t.store.Reads e.1 e.2 := by
    intro e he
    left
    rw [Store.lookup_eq, hwritten e he]
    rfl
  refine ⟨h, hwritten, fun key hkey => ?_, ?_, ?_⟩
  · rw [h]
    refine Store.get?_overlay_of_ne (fun e he => ?_) s.store
    exact hkey e.1 (List.mem_map_of_mem (f := Prod.fst) he)
  · simp only [Descriptor.entries, List.forall_mem_cons] at hreads
    obtain ⟨hhost, hport, hhost', hport', -⟩ := hreads
    rw [Store.proxies_eq]
    by_cases hempty : d.host = "" ∨ d.port = ""
    · rw [if_pos hempty, Store.proxyOf?_of_empty hhost hport hempty,
        Store.proxyOf?_of_empty hhost' hport' hempty]
      rfl
    · obtain ⟨hh, hp⟩ := not_or.mp hempty
      rw [if_neg hempty, Store.proxyOf?_of_ne hhost hport hh hp,
        Store.proxyOf?_of_ne hhost' hport' hh hp, String.append_assoc, String.append_assoc]
      rfl
  · have hexempt : t.store.Reads Key.exemptHosts "" := hreads (Key.exemptHosts, "") (by
      simp [Descriptor.entries])
    rw [Store.exemptHosts_eq hexempt]
    rfl

/-- **The last injection counts.**  After any injections of any arguments into properties that take
every write, whatever the streams do, the store is as before if no argument was a text with exactly
one colon, and else it is that from before the first of them with the last of them in it. -/
theorem after_injections {s : Session} {entries : Table}
    (hstore : s.store = .properties entries false) (hfaults : s.faults = []) {steps : List Step}
    (hsteps : ∀ step ∈ steps, step.Injects) :
    ((∀ step ∈ steps, ¬ step.HasColon s.standsIn) → (s.after steps).store = s.store) ∧
    ∀ before step behind host port, steps = before ++ step :: behind →
      step.argument? s.standsIn = some (.text (host ++ ":" ++ port)) →
      ':' ∉ host.toList → ':' ∉ port.toList →
      (∀ later ∈ behind, ¬ later.HasColon s.standsIn) → s.Settled (s.after steps) host port := by
  have hnone : ∀ steps : List Step, (∀ step ∈ steps, ¬ step.HasColon s.standsIn) →
      steps.filterMap (Step.named? s.standsIn) = [] := by
    intro steps h
    rw [List.filterMap_eq_nil_iff]
    exact fun step hstep => Step.named?_eq_none_iff.mpr (h step hstep)
  have hafter := (open_of_properties hstore hfaults).after_store hsteps
  refine ⟨fun h => ?_, fun before step behind host port heq hstep hhost hport hbehind => ?_⟩
  · rw [hafter, hnone steps h]
    rfl
  · have hnamed : step.named? s.standsIn = some ⟨host, port⟩ := by
      rw [Step.named?, hstep]
      exact Descriptor.parse?_eq_some_iff.mpr ⟨rfl, hhost, hport⟩
    have hlist : (steps.filterMap (Step.named? s.standsIn)).flatMap Descriptor.entries
        = (before.filterMap (Step.named? s.standsIn)).flatMap Descriptor.entries
          ++ Descriptor.entries ⟨host, port⟩ := by
      rw [heq, List.filterMap_append, List.filterMap_cons_some hnamed, hnone behind hbehind,
        List.flatMap_append, List.flatMap_singleton]
    refine settled_of_overlay ⟨host, port⟩ ?_
    rw [hafter, hlist, Store.overlay_append, hstore, Store.overlay_properties,
      Store.overlay_properties, Store.overlay_properties, overlay_flatMap_entries]

/-- properties with an exempt host and an entry under a number, others that stand in where none are
given, and an output stream that fails -/
def littered : Session where
  store := .properties [(.text "http.nonProxyHosts", .text "*"), (.int 1, .null)] false
  console := { directory := { path := "/" }, out := { faults := { writes := [0, 1] } } }
  standard? := some (.properties [] false)

/-- one argument is written over, one is written but not reported, one is no text, one has too many
colons, and the last goes elsewhere -/
theorem after_injections_littered :
    let steps : List Step := [.inject (.text "a:1"), .applyOnce (.text "b:") true, .apply .null,
      .inject (.text "c:2:3"), .applyOnce (.text "d:4") false]
    littered.store = .properties [(.text "http.nonProxyHosts", .text "*"), (.int 1, .null)] false ∧
      littered.faults = [] ∧ (∀ step ∈ steps, step.Injects) ∧
      littered.Settled (littered.after steps) "b" "" := by
  intro steps
  have hsteps : ∀ step ∈ steps, step.Injects := by simp [steps, Step.Injects]
  have hbehind : ∀ later ∈ [Step.apply .null, .inject (.text "c:2:3"),
      .applyOnce (.text "d:4") false], ¬ later.HasColon littered.standsIn := by
    simp only [List.forall_mem_cons, List.not_mem_nil, false_implies, implies_true, and_true,
      ← Step.named?_eq_none_iff]
    exact ⟨rfl, by decide, rfl⟩
  refine ⟨rfl, rfl, hsteps, ?_⟩
  exact (after_injections (s := littered) rfl rfl hsteps).2 [.inject (.text "a:1")]
    (.applyOnce (.text "b:") true) _ "b" "" rfl rfl (by decide) (by decide) hbehind

end ProxyInjector.Session
