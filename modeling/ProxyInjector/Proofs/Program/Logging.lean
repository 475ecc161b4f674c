import ProxyInjector.Proofs.Program.Listening

/-!
# Logging does not reach the injection

Records are emitted between the writes of an injection and on each of its error paths, and those
that get out share the error stream with its failure line.  None of that makes a difference to how
a run ends, to its output stream or to either store.

* `Session.apply_of_out`         of the console, an injection looks at the output stream alone;
* `ProcessState.UpToLog`         two states of a process differ in the error stream, the logger, the
                                 files and the journal at most;
* `Options.UpToLog`              two runs are asked for the same, differently logged;
* `ProcessState.main_logging`    such runs end alike, and leave such states behind.
-/

namespace ProxyInjector

namespace Session

open Injection

/-- of the console an injection looks at the output stream alone: no log and no fault of the error
stream makes a difference to anything else -/
theorem apply_of_out (s : Session) {c : Console} (hc : c.out = s.console.out) (raw : Value) :
    let t := { s with console := c }
    (t.apply raw).1 = (s.apply raw).1 ∧ (t.apply raw).2.store = (s.apply raw).2.store ∧
      (t.apply raw).2.console.out = (s.apply raw).2.console.out := by
  obtain ⟨out, err, logger, directory, journal, manner⟩ := c
  obtain rfl : out = s.console.out := hc
  -- the accounts of both say the same, since none of their parts looks at the rest of the console
  obtain ⟨i, cs, h⟩ := s.exists_account raw
  obtain ⟨j, ds, h'⟩ := exists_account
    { s with console := { s.console with err, logger, directory, journal, manner } } raw
  have hdesc : j.descriptor? = i.descriptor? := h'.descriptor.trans h.descriptor.symm
  have hreason : j.reason? = i.reason? := h'.reason.trans h.reason.symm
  have hsets : Call.sets ds = Call.sets cs := h'.sets.trans h.sets.symm
  have hsaid : Call.said ds = Call.said cs := by rw [h'.said, h.said, hdesc]
  intro t
  have ht : t.apply raw = _ := h'.outcome
  rw [ht, h.outcome]
  refine ⟨ext_parts hdesc hreason, ?_, ?_⟩
  · rw [store_calls, store_calls, hsets]
    rfl
  · rw [out_calls, out_calls, hsaid]

end Session

namespace Program

/-! ## what may differ -/

/-- the same options, but for the settings of the log -/
structure Options.UpToLog (o o' : Options) : Prop where
  proxy : o'.proxy = o.proxy
  version : o'.version = o.version
  store : o'.store = o.store
  fromAddress : o'.fromAddress = o.fromAddress
  shell : o'.shell = o.shell

namespace ProcessState

/-- the same stores and the same output stream -/
structure UpToLog (p q : ProcessState) : Prop where
  properties : q.properties = p.properties
  frozen : q.frozen = p.frozen
  environment : q.environment = p.environment
  out : q.console.out = p.console.out

theorem UpToLog.eq_with {p q : ProcessState} (h : p.UpToLog q) :
    q = { p with console := q.console } := by
  obtain ⟨properties, frozen, environment, console⟩ := q
  obtain ⟨rfl, rfl, rfl, -⟩ := h
  rfl

theorem UpToLog.with_console {p q : ProcessState} (h : p.UpToLog q) {c c' : Console}
    (hout : c'.out = c.out) : { p with console := c }.UpToLog { q with console := c' } :=
  ⟨h.properties, h.frozen, h.environment, hout⟩

/-- sessions with the same store and output stream leave states behind that agree again -/
theorem UpToLog.adopt {p q : ProcessState} (h : p.UpToLog q) {s t : Session}
    (hstore : t.store = s.store) (hout : t.console.out = s.console.out) :
    (p.adopt s).UpToLog (q.adopt t) := by
  unfold ProcessState.adopt
  rw [hstore]
  cases s.store with
  | properties entries frozen => exact ⟨rfl, rfl, h.environment, hout⟩
  | environment environment => exact ⟨h.properties, h.frozen, rfl, hout⟩
  | mapping entries => exact ⟨h.properties, h.frozen, h.environment, hout⟩

end ProcessState

/-! ## injections -/

/-- attempts at the same injection, in processes that agree -/
theorem Attempt.ending_upToLog {p q : ProcessState} (h : p.UpToLog q) (target : Target)
    (proxy shell : Value) :
    let a : Attempt := ⟨p, target, proxy, shell⟩
    let b : Attempt := ⟨q, target, proxy, shell⟩
    b.ending = a.ending ∧ (a.process.adopt a.finished).UpToLog (b.process.adopt b.finished) := by
  intro a b
  have hsession : b.session = { a.session with console := q.console } := by
    show q.session target = { p.session target with console := q.console }
    rw [h.eq_with]
    cases target <;> rfl
  have hconsole : q.console.out = a.session.console.out := by
    show q.console.out = (p.session target).console.out
    rw [h.out, ProcessState.console_session]
  obtain ⟨happly, hstore, hout⟩ := a.session.apply_of_out hconsole proxy
  rw [← hsession] at happly hstore hout
  have hresult : b.result = a.result := happly
  have hleft : b.left.console.out = a.left.console.out := hout
  have hscript : b.script? = a.script? := by
    unfold Attempt.script?
    rw [hresult]
  have hfault : b.scriptFault? = a.scriptFault? := by
    rw [Attempt.scriptFault?, Attempt.scriptFault?, hscript, hleft]
  refine ⟨?_, h.adopt hstore ?_⟩
  · rw [Attempt.ending, Attempt.ending, hfault, hresult]
  · show b.script?.elim b.left.console.out _ = a.script?.elim a.left.console.out _
    rw [hscript, hleft]

namespace ProcessState

theorem inject_upToLog {p q : ProcessState} {o o' : Options} (h : p.UpToLog q) (ho : o.UpToLog o')
    (hproxy : o.proxy ≠ .null) :
    (q.inject o').1 = (p.inject o).1 ∧ (p.inject o).2.UpToLog (q.inject o').2 := by
  have hproxy' : o'.proxy ≠ .null := by rwa [ho.proxy]
  have hout : (proxyOf o' q.console).2.out = (proxyOf o p.console).2.out := by
    rw [proxyOf_out, proxyOf_out, h.out]
  rw [inject_of_proxy p hproxy, inject_of_proxy q hproxy',
    proxyOf_fst ho.proxy ho.fromAddress p.console q.console, ho.store, ho.shell]
  cases (proxyOf o p.console).1 with
  | error f => exact ⟨rfl, h.with_console hout⟩
  | ok proxy =>
    cases Target.resolve o.store with
    | error f => exact ⟨rfl, h.with_console hout⟩
    | ok target => exact Attempt.ending_upToLog (h.with_console hout) target proxy o.shell

/-- **Logging and injection.**  Two runs from states that agree up to the log, that are given a
proxy and whose options differ in the settings of the log alone, end alike once these are set up:
with the same outcome or fault, the same output stream, and the same stores.  That is so whatever
the error streams do, whatever is logged, and whether or not it can be rendered. -/
theorem main_logging {p q : ProcessState} {call call' : Invocation} {o o' : Options}
    {c c' : Console} (h : p.UpToLog q) (hp : p.Prepares call o c) (hq : q.Prepares call' o' c')
    (ho : o.UpToLog o') (hproxy : o.proxy ≠ .null) :
    (q.main call').1 = (p.main call).1 ∧ (p.main call).2.UpToLog (q.main call').2 := by
  rw [main_of_prepares hp, main_of_prepares hq]
  refine inject_upToLog (h.with_console ?_) ho hproxy
  rw [hp.out_eq, hq.out_eq, h.out]

/-- the same machine with an error stream that breaks at its second write -/
def disturbed : ProcessState :=
  { relayed with console := { relayed.console with err := { faults := { writes := [1] } } } }

/-- everything is logged, in lines for which the name of a logger would have to be a number -/
def unrenderable : List (String × Value) :=
  [("log_level", .text "debug"), ("log_format", .text "%(name)d")]

theorem main_logging_unrenderable :
    let call : Invocation := { args := listeningWords "[::]:8899" }
    let call' : Invocation := { call with overrides := unrenderable }
    relayed.UpToLog disturbed ∧
    (Injection.doneRecord ⟨"127.0.0.1", "8899"⟩).render? {} "%(name)d" = none ∧
    ∃ o c o' c', relayed.Prepares call o c ∧ disturbed.Prepares call' o' c' ∧ o.UpToLog o' ∧
      o.proxy ≠ .null ∧ (disturbed.main call').1 = (relayed.main call).1 ∧
      (relayed.main call).2.UpToLog (disturbed.main call').2 := by
  intro call call'
  let o : Options := Options.ofValues (settled "[::]:8899").entries.fields
  have h : relayed.UpToLog disturbed := ⟨rfl, rfl, rfl, rfl⟩
  have ho : o.UpToLog (o.override unrenderable) := ⟨rfl, rfl, rfl, rfl, rfl⟩
  obtain ⟨c, hp⟩ : ∃ c, relayed.Prepares call o c :=
    ⟨_, prepares_of_readOptions (readOptions_listening _ _) nofun rfl⟩
  obtain ⟨c', hq⟩ : ∃ c', disturbed.Prepares call' (o.override unrenderable) c' :=
    ⟨_, prepares_of_readOptions (readOptions_listening _ _) (by decide) rfl⟩
  exact ⟨h, by decide +kernel, o, c, _, c', hp, hq, ho, nofun, main_logging h hp hq ho nofun⟩

end ProcessState

end Program

end ProxyInjector
