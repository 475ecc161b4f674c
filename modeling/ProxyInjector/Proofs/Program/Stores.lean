import ProxyInjector.Proofs.Program.Run

/-!
# What runs do to the stores

A run touches at most the store that it names, and there at most the five keys of an injection.

* `Session.exists_overlay`       an injection overlays its store with entries under those keys;
* `ProcessState.Untouched`       both stores are as they were;
* `ProcessState.Touches`         all but the entries under the five keys of one store is as it was,
                                 and of those none is gone;
* `ProcessState.main_touches`    one run;
* `ProcessState.after_keeps`     runs one after the other;
* `ProcessState.runAll_touches`  each of them, on what those before it left.
-/

namespace ProxyInjector

/-- the keys that an injection writes -/
def proxyKeys : List String :=
  ["http.proxyHost", "http.proxyPort", "https.proxyHost", "https.proxyPort", "http.nonProxyHosts"]

/-! ## the store of an injection -/

namespace Store

/-- no key is gone -/
theorem isSome_get?_overlay {s : Store} {key : Value} (h : (s.entries.get? key).isSome)
    (es : List (String × String)) : ((s.overlay es).entries.get? key).isSome := by
  induction es generalizing s with
  | nil => exact h
  | cons e es ih =>
    refine ih ?_
    rw [entries_write, Table.get?_put_text]
    split
    · rfl
    · exact h

theorem overlay_environment (v : Environment) (es : List (String × String)) :
    ∃ w, (environment v).overlay es = .environment w := by
  induction es generalizing v with
  | nil => exact ⟨v, rfl⟩
  | cons e es ih => exact ih _

end Store

namespace Session

theorem mem_proxyKeys_of_attempts {s : Session} {raw : Value} {e : String × String}
    (h : e ∈ s.attempts raw) : e.1 ∈ proxyKeys := by
  unfold attempts at h
  split at h
  · cases h
  · next d _ => exact List.mem_map_of_mem (f := Prod.fst) (List.mem_of_mem_take h)

theorem mem_of_mem_taken {s : Session} {es : List (String × String)} {e : String × String}
    (h : e ∈ s.taken es) : e ∈ es := by
  obtain ⟨x, hx, rfl⟩ := List.mem_map.mp h
  exact List.fst_mem_of_mem_zipIdx (List.mem_filter.mp hx).1

theorem exists_overlay (s : Session) (raw : Value) :
    ∃ es, (∀ e ∈ es, e.1 ∈ proxyKeys) ∧ (s.apply raw).2.store = s.store.overlay es := by
  obtain ⟨i, cs, h⟩ := s.exists_account raw
  refine ⟨s.taken (Call.sets cs), fun e he => ?_, ?_⟩
  · have hset := mem_of_mem_taken he
    rw [h.sets] at hset
    exact mem_proxyKeys_of_attempts hset
  · rw [h.outcome]
    exact store_calls s cs

end Session

namespace Program.ProcessState

/-! ## one run -/

structure Untouched (p q : ProcessState) : Prop where
  properties : q.properties = p.properties
  frozen : q.frozen = p.frozen
  environment : q.environment = p.environment

/-- the entries of one of the stores -/
def table (p : ProcessState) : Target → Table
  | .properties => p.properties
  | .environment => p.environment.table

theorem entries_session (p : ProcessState) (target : Target) :
    (p.session target).store.entries = p.table target := by
  cases target <;> rfl

/-- the five keys of one store apart, everything is as it was, and none of the five is gone -/
structure Touches (p q : ProcessState) (target : Target) : Prop where
  properties : target ≠ .properties → q.properties = p.properties
  environment : target ≠ .environment → q.environment = p.environment
  frozen : q.frozen = p.frozen
  kept : ∀ key, (∀ k ∈ proxyKeys, key ≠ .text k) →
    (q.table target).get? key = (p.table target).get? key
  present : ∀ key, ((p.table target).get? key).isSome → ((q.table target).get? key).isSome

/-- a session that overlays the store with entries under the five keys touches no more than that -/
theorem touches_adopt (p : ProcessState) (target : Target) {s : Session}
    {es : List (String × String)} (hkeys : ∀ e ∈ es, e.1 ∈ proxyKeys)
    (hstore : s.store = (p.session target).store.overlay es) : p.Touches (p.adopt s) target := by
  have hkept (key : Value) (hkey : ∀ k ∈ proxyKeys, key ≠ .text k) :
      s.store.entries.get? key = (p.table target).get? key := by
    rw [hstore, ← entries_session]
    exact Store.get?_overlay_of_ne (fun e he => hkey e.1 (hkeys e he)) _
  have hpresent (key : Value) (hkey : ((p.table target).get? key).isSome) :
      (s.store.entries.get? key).isSome := by
    rw [hstore]
    rw [← entries_session] at hkey
    exact Store.isSome_get?_overlay hkey es
  cases target with
  | properties =>
    have hs : s.store = .properties (p.properties.overlay es) p.frozen :=
      hstore.trans (Store.overlay_properties _ _ _)
    rw [hs] at hkept hpresent
    rw [adopt_of_properties p hs]
    exact ⟨fun h => absurd rfl h, fun _ => rfl, rfl, hkept, hpresent⟩
  | environment =>
    obtain ⟨environment, he⟩ := Store.overlay_environment p.environment es
    have hs : s.store = .environment environment := hstore.trans he
    rw [hs] at hkept hpresent
    rw [adopt_of_environment p hs]
    exact ⟨fun _ => rfl, fun h => absurd rfl h, rfl, hkept, hpresent⟩

/-- a run that does not get to an injection leaves both stores alone, whatever it ends with -/
theorem untouched_of_no_attempt {p : ProcessState} {call : Invocation}
    (h : p.attempt? call = none) : p.Untouched (p.main call).2 := by
  have hends := p.main_eq call
  rw [h] at hends
  obtain ⟨e, console, hmain⟩ := hends
  rw [hmain]
  exact ⟨rfl, rfl, rfl⟩

/-- One run: it leaves both stores alone, or it names one and touches that.  If it ends neither
with an outcome nor with the fault of a stream, it leaves them alone. -/
theorem main_touches (p : ProcessState) (call : Invocation) :
    (p.Untouched (p.main call).2 ∨
      ∃ target, p.Names call target ∧ p.Touches (p.main call).2 target) ∧
    ∀ e, (p.main call).1 = .error e → (∀ x, e ≠ .fault (.stream x)) →
      p.Untouched (p.main call).2 := by
  cases ha : p.attempt? call with
  | none => exact ⟨.inl (untouched_of_no_attempt ha), fun _ _ _ => untouched_of_no_attempt ha⟩
  | some a =>
    obtain ⟨o, c, hprepares, haim⟩ := prepares_of_attempt? ha
    obtain ⟨-, proxy, console, target, -, htarget, rfl⟩ := aim?_eq_some_iff.mp haim
    rw [main_of_attempt? ha]
    constructor
    · obtain ⟨es, hkeys, hstore⟩ := ({ p with console }.session target).exists_overlay proxy
      have htouches := touches_adopt { p with console } target
        (s := Attempt.finished ⟨{ p with console }, target, proxy, o.shell⟩) hkeys hstore
      exact .inr ⟨target, hprepares.names htarget, htouches.properties, htouches.environment,
        htouches.frozen, htouches.kept, htouches.present⟩
    · intro e he hstream
      obtain ⟨x, hx⟩ := Attempt.exists_of_ending_error he
      exact absurd hx (hstream x)

/-! ## one run after the other -/

/-- what runs leave of the stores, whatever they are asked to do -/
structure Keeps (p q : ProcessState) : Prop where
  frozen : q.frozen = p.frozen
  kept : ∀ target key, (∀ k ∈ proxyKeys, key ≠ .text k) →
    (q.table target).get? key = (p.table target).get? key
  present : ∀ target key, ((p.table target).get? key).isSome → ((q.table target).get? key).isSome

theorem Untouched.table {p q : ProcessState} (h : p.Untouched q) (target : Target) :
    q.table target = p.table target := by
  cases target with
  | properties => exact h.properties
  | environment => exact congrArg Environment.table h.environment

theorem Untouched.keeps {p q : ProcessState} (h : p.Untouched q) : p.Keeps q where
  frozen := h.frozen
  kept target key _ := by rw [h.table]
  present target key hkey := by rwa [h.table]

theorem Touches.table {p q : ProcessState} {target other : Target} (h : p.Touches q target)
    (hne : target ≠ other) : q.table other = p.table other := by
  cases other with
  | properties => exact h.properties hne
  | environment => exact congrArg Environment.table (h.environment hne)

theorem Touches.keeps {p q : ProcessState} {target : Target} (h : p.Touches q target) :
    p.Keeps q where
  frozen := h.frozen
  kept other key hkey := by
    by_cases hne : target = other
    · exact hne ▸ h.kept key hkey
    · rw [h.table hne]
  present other key hkey := by
    by_cases hne : target = other
    · subst hne
      exact h.present key hkey
    · rwa [h.table hne]

theorem Keeps.trans {p q r : ProcessState} (h : p.Keeps q) (h' : q.Keeps r) : p.Keeps r where
  frozen := h'.frozen.trans h.frozen
  kept target key hkey := (h'.kept target key hkey).trans (h.kept target key hkey)
  present target key hkey := h'.present target key (h.present target key hkey)

theorem main_keeps (p : ProcessState) (call : Invocation) : p.Keeps (p.main call).2 := by
  rcases (p.main_touches call).1 with h | ⟨target, -, h⟩
  · exact h.keeps
  · exact h.keeps

theorem after_keeps (p : ProcessState) (calls : List Invocation) : p.Keeps (p.after calls) := by
  induction calls generalizing p with
  | nil => exact ⟨rfl, fun _ _ _ => rfl, fun _ _ => id⟩
  | cons call calls ih => exact (p.main_keeps call).trans (ih (p.main call).2)

/-- **Runs and stores.**  Each of the runs of a process leaves both stores as the run before it left
them, or it names one of them and changes at most its entries under the five keys, of which none is
taken away.  A run leaves both alone if it does not get to an injection, whatever it ends with, and
if it ends otherwise than with an outcome or the fault of a stream, be it by an exit status, on the
set-up of logging or for want of the store.  So no other key changes and none is taken away however
many runs there are. -/
theorem runAll_touches (p : ProcessState) (before : List Invocation) (call : Invocation)
    (rest : List Invocation) :
    ∃ outcome q, (p.runAll (before ++ call :: rest))[before.length]? = some (outcome, q) ∧
      ((p.after before).Untouched q ∨
        ∃ target, (p.after before).Names call target ∧ (p.after before).Touches q target) ∧
      ((p.after before).attempt? call = none → (p.after before).Untouched q) ∧
      (∀ e, outcome = .error e → (∀ x, e ≠ .fault (.stream x)) → (p.after before).Untouched q) ∧
      p.Keeps q := by
  obtain ⟨htouches, herror⟩ := (p.after before).main_touches call
  have hkeeps := (p.after_keeps before).trans ((p.after before).main_keeps call)
  exact ⟨_, _, getElem?_runAll p before call rest, htouches, untouched_of_no_attempt, herror, hkeeps⟩

end Program.ProcessState

end ProxyInjector
