import ProxyInjector.Proofs.Injection.Apply
import ProxyInjector.Proofs.Program.Options

/-!
# How runs end

A run that gets as far as an injection ends with its outcome, whatever the streams do, with one
exception: the shell script that may be due behind the outcome is written without a net.

* `Attempt`                     an injection that a run is about to make, and what comes of it;
* `ProcessState.attempt?`       the injection that a run gets to, if its words, its options and its
                                store let it;
* `ProcessState.main_eq`        a run makes that injection, or it ends early and leaves both stores
                                as they were;
* `ProcessState.main_injects`, `ProcessState.main_skips`
                                what a text does to the properties where nothing stands in its way;
* `ProcessState.runAll_attempt` how each of the runs of a process ends, and when the exception
                                occurs.
-/

namespace ProxyInjector.Program

/-! ## the proxy -/

/-- the proxy depends on two options and on nothing else -/
theorem proxyOf_fst {o o' : Options} (hproxy : o'.proxy = o.proxy)
    (hfrom : o'.fromAddress = o.fromAddress) (c c' : Console) :
    (proxyOf o' c').1 = (proxyOf o c).1 := by
  unfold proxyOf
  rw [hproxy, hfrom]
  split
  · rfl
  · split <;> rfl

theorem proxyOf_out (o : Options) (c : Console) : (proxyOf o c).2.out = c.out := by
  unfold proxyOf
  split
  · rfl
  · split
    · rfl
    · exact Console.out_emit c _ _

/-! ## sessions of a process -/

namespace ProcessState

theorem console_session (p : ProcessState) (target : Target) :
    (p.session target).console = p.console := by
  cases target <;> rfl

theorem console_adopt (p : ProcessState) (s : Session) : (p.adopt s).console = s.console := by
  unfold adopt
  split <;> rfl

theorem adopt_of_properties (p : ProcessState) {s : Session} {entries : Table} {frozen : Bool}
    (h : s.store = .properties entries frozen) :
    p.adopt s = { p with properties := entries, frozen, console := s.console } := by
  unfold adopt
  rw [h]

theorem adopt_of_environment (p : ProcessState) {s : Session} {environment : Environment}
    (h : s.store = .environment environment) :
    p.adopt s = { p with environment, console := s.console } := by
  unfold adopt
  rw [h]

end ProcessState

/-! ## attempts -/

/-- an injection that a run is about to make -/
structure Attempt where
  /-- what the run has made of the process by then -/
  process : ProcessState
  target : Target
  proxy : Value
  shell : Value

namespace Attempt

def session (a : Attempt) : Session := a.process.session a.target

/-- the outcome of the injection -/
def result (a : Attempt) : Injection := (a.session.apply a.proxy).1

/-- the session that the injection leaves behind -/
def left (a : Attempt) : Session := (a.session.apply a.proxy).2

/-- the script that is due behind the outcome -/
def script? (a : Attempt) : Option String :=
  match a.shell.truthy && a.result.ok, a.result.descriptor? with
  | true, some d => some (Shell.script d)
  | _, _ => none

def scriptFault? (a : Attempt) : Option StreamError :=
  a.script?.bind fun _ => a.left.console.out.lineFault?

/-- how the run ends -/
def ending (a : Attempt) : Except Ending Injection :=
  a.scriptFault?.elim (.ok a.result) fun e => .error (.fault (.stream e))

theorem exists_of_ending_error {a : Attempt} {e : Ending} (h : a.ending = .error e) :
    ∃ x, e = .fault (.stream x) := by
  rw [ending] at h
  cases hf : a.scriptFault? with
  | none =>
    rw [hf] at h
    cases h
  | some x =>
    rw [hf] at h
    cases h
    exact ⟨x, rfl⟩

theorem script?_isSome_iff {a : Attempt} :
    a.script?.isSome ↔ a.shell.truthy = true ∧ ∃ d, a.result = .done d := by
  unfold script?
  cases a.shell.truthy with
  | false => simp
  | true => cases a.result with
    | skipped => simp [Injection.ok, Injection.descriptor?]
    | done d => simp [Injection.ok, Injection.descriptor?]
    | failed d reason => simp [Injection.ok]

/-- the session once the script is written -/
def finished (a : Attempt) : Session :=
  { a.left with console := { a.left.console with
      out := a.script?.elim a.left.console.out fun script =>
        a.left.console.out.put (script ++ "\n") } }

theorem reportScript_eq (a : Attempt) :
    ProcessState.reportScript a.left a.result a.shell
      = (a.scriptFault?.elim (.ok ()) fun e => .error (.stream e), a.finished) := by
  unfold ProcessState.reportScript finished scriptFault? script?
  cases a.shell.truthy && a.result.ok with
  | false => rfl
  | true =>
    cases a.result.descriptor? with
    | none => rfl
    | some d => exact a.left.report_eq (Shell.script d)

/-- The script cannot be written exactly if the stream fails at the second line from before the
injection, at its write or at its flush. -/
theorem scriptFault?_isSome_iff {a : Attempt} :
    a.scriptFault?.isSome ↔ a.shell.truthy = true ∧ (∃ d, a.result = .done d) ∧
      (a.process.console.out.writes + 1 ∈ a.process.console.out.faults.writes ∨
        a.process.console.out.flushes + 1 ∈ a.process.console.out.faults.flushes) := by
  rw [scriptFault?, ← and_assoc, ← script?_isSome_iff]
  cases hs : a.script? with
  | none => simp
  | some line =>
    obtain ⟨-, d, hd⟩ := script?_isSome_iff.mp (Option.isSome_of_eq_some hs)
    have hout : a.session.console.out = a.process.console.out :=
      congrArg Console.out (a.process.console_session a.target)
    have hclear := Session.lineFault?_of_done hd
    have hleft : a.left.console.out = _ := Session.out_of_done hd
    rw [Stream.put_of_lineFault?_eq_none hclear, hout] at hleft
    rw [Option.bind_some, hleft, Stream.lineFault?_isSome_iff]
    simp

theorem ending_of_healthy {a : Attempt} (h : a.process.console.out.Healthy) :
    a.ending = .ok a.result := by
  have hnone : a.scriptFault? = none := by
    rw [← Option.not_isSome_iff_eq_none, scriptFault?_isSome_iff, h.1, h.2]
    simp
  rw [ending, hnone]
  rfl

end Attempt

namespace ProcessState

/-- the injection that a run gets to once its options are known -/
def aim? (p : ProcessState) (o : Options) : Option Attempt :=
  match o.proxy with
  | .null => none
  | _ =>
    match proxyOf o p.console with
    | (.error _, _) => none
    | (.ok proxy, console) =>
      match Target.resolve o.store with
      | .error _ => none
      | .ok target => some ⟨{ p with console }, target, proxy, o.shell⟩

/-- the injection that a run gets to, if it gets so far -/
def attempt? (p : ProcessState) (call : Invocation) : Option Attempt :=
  match call.words with
  | .error _ => none
  | .ok words =>
    match prepare words call.values p.console with
    | (.error _, _) => none
    | (.ok o, console) => { p with console }.aim? o

/-- the run makes the injection `a`, or it ends early and leaves both stores as they were -/
def EndsAt (p : ProcessState) (outcome : Except Ending Injection × ProcessState) :
    Option Attempt → Prop
  | some a => ∃ out, outcome
      = (a.ending, a.process.adopt { a.left with console := { a.left.console with out } })
  | none => ∃ e console, outcome = (.error e, { p with console })

theorem aim?_eq_some_iff {p : ProcessState} {o : Options} {a : Attempt} :
    p.aim? o = some a ↔ o.proxy ≠ .null ∧ ∃ proxy console target,
      proxyOf o p.console = (.ok proxy, console) ∧ Target.resolve o.store = .ok target ∧
      a = ⟨{ p with console }, target, proxy, o.shell⟩ := by
  unfold aim?
  split
  · next hnull => simp [hnull]
  · next hproxy =>
    split
    · next herror => simp [herror]
    · next proxy console hproxyOf =>
      cases htarget : Target.resolve o.store with
      | error f => simp [hproxyOf]
      | ok target =>
        refine ⟨fun h =>
          ⟨hproxy, proxy, console, target, hproxyOf, rfl, (Option.some.inj h).symm⟩, ?_⟩
        rintro ⟨-, proxy', console', target', hproxyOf', htarget', rfl⟩
        rw [hproxyOf, Prod.mk.injEq, Except.ok.injEq] at hproxyOf'
        obtain ⟨rfl, rfl⟩ := hproxyOf'
        obtain rfl := Except.ok.inj htarget'
        rfl

theorem inject_of_null (p : ProcessState) {o : Options} (h : o.proxy = .null) :
    p.inject o = (.error (parser.complain noProxy p.console).1,
      { p with console := (parser.complain noProxy p.console).2 }) := by
  unfold inject
  rw [h]

/-- how a run ends that is given a proxy: on a listen address that is no text, on a store that is
not there, or with the injection -/
theorem inject_of_proxy (p : ProcessState) {o : Options} (h : o.proxy ≠ .null) :
    p.inject o =
      match (proxyOf o p.console).1, Target.resolve o.store with
      | .error f, _ => (.error (.fault f), { p with console := (proxyOf o p.console).2 })
      | .ok _, .error f => (.error (.fault f), { p with console := (proxyOf o p.console).2 })
      | .ok proxy, .ok target =>
        let a : Attempt := ⟨{ p with console := (proxyOf o p.console).2 }, target, proxy, o.shell⟩
        (a.ending, a.process.adopt a.finished) := by
  unfold inject
  split
  · next hnull => exact absurd hnull h
  · rcases proxyOf o p.console with ⟨_ | proxy, console⟩
    · rfl
    · cases Target.resolve o.store with
      | error => rfl
      | ok target =>
        let a : Attempt := ⟨{ p with console }, target, proxy, o.shell⟩
        have hscript : reportScript (({ p with console }.session target).apply proxy).2
            (({ p with console }.session target).apply proxy).1 o.shell
            = (a.scriptFault?.elim (.ok ()) fun e => .error (.stream e), a.finished) :=
          a.reportScript_eq
        dsimp only
        rw [hscript, Attempt.ending]
        cases a.scriptFault? <;> rfl

theorem inject_of_aim? {p : ProcessState} {o : Options} {a : Attempt} (h : p.aim? o = some a) :
    p.inject o = (a.ending, a.process.adopt a.finished) := by
  obtain ⟨hproxy, proxy, console, target, hproxyOf, htarget, rfl⟩ := aim?_eq_some_iff.mp h
  rw [inject_of_proxy p hproxy, hproxyOf, htarget]

theorem inject_eq (p : ProcessState) (o : Options) : p.EndsAt (p.inject o) (p.aim? o) := by
  cases ha : p.aim? o with
  | some a => exact ⟨_, inject_of_aim? ha⟩
  | none =>
    by_cases hproxy : o.proxy = .null
    · rw [inject_of_null p hproxy]
      exact ⟨_, _, rfl⟩
    · rw [inject_of_proxy p hproxy]
      rcases hproxyOf : proxyOf o p.console with ⟨_ | proxy, console⟩
      · exact ⟨_, _, rfl⟩
      · cases htarget : Target.resolve o.store with
        | error => exact ⟨_, _, rfl⟩
        | ok target =>
          rw [aim?_eq_some_iff.mpr ⟨hproxy, proxy, console, target, hproxyOf, htarget, rfl⟩] at ha
          cases ha

theorem main_eq (p : ProcessState) (call : Invocation) :
    p.EndsAt (p.main call) (p.attempt? call) := by
  unfold main attempt?
  cases call.words with
  | error => exact ⟨_, p.console, rfl⟩
  | ok words =>
    dsimp only
    rcases prepare words call.values p.console with ⟨_ | o, console⟩
    · exact ⟨_, _, rfl⟩
    · show p.EndsAt ({ p with console }.inject o) ({ p with console }.aim? o)
      have hinject := { p with console }.inject_eq o
      revert hinject
      cases { p with console }.aim? o <;> exact id

section
variable {p : ProcessState} {call : Invocation} {a : Attempt}

theorem prepares_of_attempt? (h : p.attempt? call = some a) :
    ∃ o c, p.Prepares call o c ∧ { p with console := c }.aim? o = some a := by
  unfold attempt? at h
  split at h
  · cases h
  · next words hwords =>
    split at h
    · cases h
    · next o c hprepare => exact ⟨o, c, ⟨words, hwords, hprepare⟩, h⟩

theorem attempt?_of_prepares {o : Options} {c : Console} (h : p.Prepares call o c) :
    p.attempt? call = { p with console := c }.aim? o := by
  obtain ⟨words, hwords, hprepare⟩ := h
  rw [attempt?, hwords]
  dsimp only
  rw [hprepare]

theorem main_of_attempt? (h : p.attempt? call = some a) :
    p.main call = (a.ending, a.process.adopt a.finished) := by
  obtain ⟨o, c, hprepares, haim⟩ := prepares_of_attempt? h
  rw [main_of_prepares hprepares, inject_of_aim? haim]

theorem main_eq_of_attempt? (h : p.attempt? call = some a) :
    ∃ out, p.main call
      = (a.ending, a.process.adopt { a.left with console := { a.left.console with out } }) :=
  ⟨_, main_of_attempt? h⟩

/-- up to the injection, a run has not touched the stores or the output stream -/
theorem process_of_attempt? (h : p.attempt? call = some a) :
    ∃ console, a.process = { p with console } ∧ console.out = p.console.out := by
  obtain ⟨o, c, hprepares, haim⟩ := prepares_of_attempt? h
  obtain ⟨-, proxy, console, target, hproxyOf, -, rfl⟩ := aim?_eq_some_iff.mp haim
  refine ⟨console, rfl, ?_⟩
  have hout := proxyOf_out o c
  rw [show proxyOf o c = _ from hproxyOf] at hout
  exact hout.trans hprepares.out_eq

/-! ## runs that nothing stands in the way of -/

theorem main_of_healthy (h : p.attempt? call = some a) (hout : p.console.out.Healthy) :
    ∃ q, p.main call = (.ok a.result, q) ∧
      ∀ t frozen, a.left.store = .properties t frozen → q.properties = t := by
  obtain ⟨console, hprocess, hconsole⟩ := process_of_attempt? h
  have hends := main_of_attempt? h
  have hhealthy : a.process.console.out.Healthy := by
    rw [hprocess]
    exact hconsole ▸ hout
  rw [Attempt.ending_of_healthy hhealthy] at hends
  refine ⟨_, hends, fun t frozen hstore => ?_⟩
  have hstore' : a.finished.store = .properties t frozen := hstore
  rw [adopt_of_properties _ hstore']

variable {raw : String} (h : p.attempt? call = some a) (htarget : a.target = .properties)
  (hfrozen : p.frozen = false) (hout : p.console.out.Healthy) (hproxy : a.proxy = .text raw)
include h htarget hfrozen

theorem session_of_attempt? :
    a.session.store = .properties p.properties false ∧ a.session.faults = [] ∧
      a.session.console.out = p.console.out := by
  obtain ⟨console, hprocess, hconsole⟩ := process_of_attempt? h
  rw [Attempt.session, htarget, hprocess, ← hfrozen]
  exact ⟨rfl, rfl, hconsole⟩

include hout hproxy

/-- A text that names a descriptor gets its entries into the properties. -/
theorem main_injects {d : Descriptor} (hd : Descriptor.parse? raw = some d) :
    ∃ q, p.main call = (.ok (.done d), q) ∧
      (∀ e ∈ d.entries, q.properties.get? (.text e.1) = some (.text e.2)) ∧
      ∀ key, (∀ e ∈ d.entries, key ≠ .text e.1) →
        q.properties.get? key = p.properties.get? key := by
  obtain ⟨q, hmain, hq⟩ := main_of_healthy h hout
  obtain ⟨hstore, hfaults, hline⟩ := session_of_attempt? h htarget hfrozen
  obtain ⟨cs, happly, ho⟩ := Session.apply_eq_done hstore (by simp [hfaults]) hd
    (by rw [hline, Stream.lineFault?_of_healthy hout])
  rw [← hproxy] at happly
  have hresult : a.result = .done d := congrArg Prod.fst happly
  have hleft : a.left.store = a.session.store.overlay d.entries :=
    (congrArg (·.2.store) happly).trans ho.store
  obtain ⟨t, ht⟩ : ∃ t, a.left.store = .properties t false := by
    rw [hleft, hstore]
    exact ⟨_, rfl⟩
  have hentries : q.properties = (a.session.calls cs).store.entries := by
    rw [hq t false ht, ho.store, ← hleft, ht]
    rfl
  rw [hresult] at hmain
  refine ⟨q, hmain, ?_⟩
  rw [hentries]
  refine ⟨ho.written, fun key hkey => ?_⟩
  rw [ho.kept key hkey, hstore]
  rfl

/-- Any other text leaves them as they are. -/
theorem main_skips (hd : Descriptor.parse? raw = none) :
    ∃ q, p.main call = (.ok .skipped, q) ∧ q.properties = p.properties := by
  obtain ⟨q, hmain, hq⟩ := main_of_healthy h hout
  obtain ⟨hstore, -, -⟩ := session_of_attempt? h htarget hfrozen
  have happly := (Session.account_of_skipped a.session hd).outcome
  rw [← hproxy] at happly
  have hresult : a.result = .skipped := congrArg Prod.fst happly
  have hleft : a.left.store = a.session.store := congrArg (·.2.store) happly
  rw [hresult] at hmain
  exact ⟨q, hmain, hq _ _ (hleft.trans hstore)⟩

end

/-! ## one run after the other -/

/-- the state that runs leave behind, one after the other -/
def after (p : ProcessState) (calls : List Invocation) : ProcessState :=
  calls.foldl (fun p call => (p.main call).2) p

theorem getElem?_runAll (p : ProcessState) (before : List Invocation) (call : Invocation)
    (rest : List Invocation) :
    (p.runAll (before ++ call :: rest))[before.length]? = some ((p.after before).main call) := by
  induction before generalizing p with
  | nil => rfl
  | cons first before ih => exact ih (p.main first).2

/-- **Ends of runs.**  Whatever runs came before and whatever the streams do, a run that gets to an
injection ends with its outcome, unless the script that is due behind it cannot be written, and
leaves behind the stores that the injection left.  The script is the second line of the run on the
output stream. -/
theorem runAll_attempt {p : ProcessState} {before : List Invocation} {call : Invocation}
    {a : Attempt} (h : (p.after before).attempt? call = some a) (rest : List Invocation) :
    (∃ out, (p.runAll (before ++ call :: rest))[before.length]? = some
      (a.scriptFault?.elim (.ok a.result) fun e => .error (.fault (.stream e)),
        a.process.adopt { a.left with console := { a.left.console with out } })) ∧
    let out := (p.after before).console.out
    (a.scriptFault?.isSome ↔ a.shell.truthy = true ∧ (∃ d, a.result = .done d) ∧
      (out.writes + 1 ∈ out.faults.writes ∨ out.flushes + 1 ∈ out.faults.flushes)) := by
  obtain ⟨out, hmain⟩ := main_eq_of_attempt? h
  obtain ⟨console, hprocess, hconsole⟩ := process_of_attempt? h
  refine ⟨⟨out, by rw [getElem?_runAll, hmain]; rfl⟩, ?_⟩
  have hfault := Attempt.scriptFault?_isSome_iff (a := a)
  rw [hprocess] at hfault
  rwa [hconsole] at hfault

/-- an output stream that breaks at its third write -/
def piped : ProcessState :=
  { console := { out := { faults := { writes := [2] } }, directory := { path := "/" } } }

def plain : Invocation := { args := .list [.text "x:2"] }
def scripted : Invocation := { args := .list [.text "--shell", .text "h:1"] }

theorem runAll_attempt_piped :
    ∃ a, (piped.after [plain]).attempt? scripted = some a ∧
    ∃ out, (piped.runAll ([plain] ++ scripted :: [plain]))[1]? = some
      (.error (.fault (.stream ⟨"broken pipe"⟩)),
        a.process.adopt { a.left with console := { a.left.console with out } }) := by
  have hfault : ((piped.after [plain]).attempt? scripted).bind Attempt.scriptFault?
      = some ⟨"broken pipe"⟩ := by decide +kernel
  obtain ⟨a, ha, hfault⟩ := Option.bind_eq_some_iff.mp hfault
  obtain ⟨⟨out, h⟩, -⟩ := runAll_attempt ha [plain]
  rw [hfault] at h
  exact ⟨a, ha, out, h⟩

/-- the third write is that of the script -/
theorem runAll_script_fault :
    ¬ ∀ (p : ProcessState) (before : List Invocation) (call : Invocation) (rest : List Invocation)
      (a : Attempt), (p.after before).attempt? call = some a →
      ∃ q, (p.runAll (before ++ call :: rest))[before.length]? = some (.ok a.result, q) := by
  intro h
  have hattempt : ((piped.after [plain]).attempt? scripted).isSome := by decide +kernel
  obtain ⟨a, ha⟩ := Option.isSome_iff_exists.mp hattempt
  obtain ⟨q, hq⟩ := h piped [plain] scripted [] a ha
  have hends : ((piped.runAll ([plain] ++ [scripted]))[1]?.map (·.1.isOk)) = some false := by
    decide +kernel
  rw [show [plain].length = 1 from rfl] at hq
  rw [hq] at hends
  cases hends

end ProcessState

end ProxyInjector.Program
