import ProxyInjector.Proofs.Injection.Apply
import ProxyInjector.Proofs.Program.Listening

/-!
# Quiet runs

A run that logs warnings at most is heard only by what it says of its injection.  Whatever handlers
earlier runs left, the set-up of logging replaces them, and no record of the program is a warning.

* `Injection.printed`, `Injection.complaint`   what is said of an injection on the two streams;
* `Session.apply_silently`        an injection says that, where nothing is in the way;
* `Attempt.silent`                so does the rest of the run;
* `ProcessState.main_quiet`       and the run as a whole.
-/

namespace ProxyInjector

/-! ## streams -/

namespace Stream

/-- no call fails from here on -/
def Recovered (s : Stream) : Prop :=
  (∀ n ∈ s.faults.writes, n < s.writes) ∧ ∀ n ∈ s.faults.flushes, n < s.flushes

theorem Recovered.lineFault?_eq_none {s : Stream} (h : s.Recovered) : s.lineFault? = none := by
  rw [← Option.not_isSome_iff_eq_none, lineFault?_isSome_iff]
  rintro (hwrite | hflush)
  · exact Nat.lt_irrefl _ (h.1 _ hwrite)
  · exact Nat.lt_irrefl _ (h.2 _ hflush)

theorem Recovered.put {s : Stream} (h : s.Recovered) (text : String) :
    (s.put text).Recovered ∧ (s.put text).text = s.text ++ text := by
  rw [put_of_lineFault?_eq_none h.lineFault?_eq_none]
  exact ⟨⟨fun n hn => Nat.lt_succ_of_lt (h.1 n hn), fun n hn => Nat.lt_succ_of_lt (h.2 n hn)⟩, rfl⟩

end Stream

/-! ## injections -/

namespace Injection

/-- what is printed about an injection, with or without a script behind it -/
def printed (script : Bool) : Injection → String
  | .done d => "[AgentProxy] Successfully injected proxy: " ++ d.host ++ ":" ++ d.port ++ "\n"
      ++ if script then Shell.script d ++ "\n" else ""
  | _ => ""

def complaint : Injection → String
  | .failed _ reason => "[AgentProxy] Error injecting proxy: " ++ reason ++ "\n"
  | _ => ""

theorem printed_done (d : Descriptor) (script : Bool) : (done d).printed script
    = successLine d ++ "\n" ++ if script then Shell.script d ++ "\n" else "" := by
  have hmark : tag ++ " Successfully injected proxy: "
      = "[AgentProxy] Successfully injected proxy: " := rfl
  rw [successLine, hmark]
  rfl

theorem complaint_failed (d : Option Descriptor) (reason : String) :
    (failed d reason).complaint = failureLine (.text reason) ++ "\n" := rfl

end Injection

namespace Session

open Injection

/-- On streams that do not fail, an injection that stays out of the log says what came of it, and
changes no file. -/
theorem apply_silently {s : Session} (hl : s.console.logger.Silent)
    (hout : s.console.out.Recovered) (herr : s.console.err.Recovered) (raw : Value) :
    let i := (s.apply raw).1
    let c := (s.apply raw).2.console
    c.out.Recovered ∧ c.out.text = s.console.out.text ++ i.printed false ∧
      c.err.text = s.console.err.text ++ i.complaint ∧ c.directory = s.console.directory := by
  obtain ⟨i, cs, h⟩ := s.exists_account raw
  obtain ⟨journal, hconsole⟩ := console_calls hl h.quiet
  rw [h.outcome]
  dsimp only
  rw [hconsole, h.said, h.complaints]
  cases i with
  | skipped => exact ⟨hout, String.append_empty.symm, String.append_empty.symm, rfl⟩
  | done d =>
    obtain ⟨hput, htext⟩ := hout.put (successLine d ++ "\n")
    refine ⟨hput, ?_, String.append_empty.symm, rfl⟩
    rw [printed_done, if_neg Bool.false_ne_true, String.append_empty]
    exact htext
  | failed d? reason =>
    -- all lines get onto the stream, so what failed is a write
    obtain rfl : d? = none := by
      cases d? with
      | none => rfl
      | some d =>
        have hreason := (h.reason_of_descriptor (d := d) rfl).2
        rw [hout.lineFault?_eq_none] at hreason
        cases hreason
    refine ⟨hout, String.append_empty.symm, ?_, rfl⟩
    rw [complaint_failed]
    exact (herr.put _).2

end Session

namespace Program

/-- the script behind the injection -/
theorem Attempt.script?_eq (a : Attempt) : a.script? =
    match a.result with
    | .done d => if a.shell.truthy then some (Shell.script d) else none
    | _ => none := by
  unfold script?
  cases a.shell.truthy <;> cases a.result <;> rfl

theorem Attempt.ending_of_recovered {a : Attempt} (h : a.process.console.out.Recovered) :
    a.ending = .ok a.result := by
  have hnone : a.scriptFault? = none := by
    rw [← Option.not_isSome_iff_eq_none, scriptFault?_isSome_iff]
    rintro ⟨-, -, hwrite | hflush⟩
    · have := h.1 _ hwrite
      omega
    · have := h.2 _ hflush
      omega
  rw [ending, hnone]
  rfl

/-- the same of the injection of a run and what comes behind it -/
theorem Attempt.silent {a : Attempt} (hl : a.process.console.logger.Silent)
    (hout : a.process.console.out.Recovered) (herr : a.process.console.err.Recovered) :
    let c := (a.process.adopt a.finished).console
    c.out.text = a.process.console.out.text ++ a.result.printed a.shell.truthy ∧
      c.err.text = a.process.console.err.text ++ a.result.complaint ∧
      c.directory = a.process.console.directory := by
  have hsession : a.session.console = a.process.console := a.process.console_session a.target
  rw [← hsession] at hl hout herr ⊢
  obtain ⟨hrecovered, htext, herror, hdirectory⟩ := a.session.apply_silently hl hout herr a.proxy
  rw [ProcessState.console_adopt]
  refine ⟨?_, herror, hdirectory⟩
  have hleft : a.left.console.out.text = a.session.console.out.text ++ a.result.printed false := htext
  have hfinished : a.finished.console.out
      = a.script?.elim a.left.console.out fun script => a.left.console.out.put (script ++ "\n") := rfl
  rw [hfinished, script?_eq]
  cases hresult : a.result with
  | skipped =>
    rw [hresult] at hleft
    exact hleft
  | failed d? reason =>
    rw [hresult] at hleft
    exact hleft
  | done d =>
    rw [hresult, Injection.printed_done, if_neg Bool.false_ne_true, String.append_empty] at hleft
    rw [Injection.printed_done]
    cases a.shell.truthy with
    | false => simpa using hleft
    | true =>
      have hput : (a.left.console.out.put (Shell.script d ++ "\n")).text
          = a.left.console.out.text ++ (Shell.script d ++ "\n") := (hrecovered.put _).2
      simp only [if_true, Option.elim_some, hput, hleft, String.append_assoc]

theorem proxyOf_silently (o : Options) {c : Console} (hl : c.logger.Silent) :
    ∃ journal, (proxyOf o c).2 = { c with journal } := by
  unfold proxyOf
  split
  · exact ⟨c.journal, rfl⟩
  · split
    · exact ⟨c.journal, rfl⟩
    · next address _ =>
      have hquiet (descriptor : String) : (derivedRecord descriptor address).Quiet :=
        ⟨show Log.isOwn "agentproxy.cli" = true by decide +kernel,
          show Log.Level.debug < Log.Level.warning by decide⟩
      exact ⟨_, Console.emit_of_silent hl (hquiet _) _⟩

namespace ProcessState

/-- the levels at which only warnings and worse are logged -/
def quietLevels : List Log.Level := [Log.Level.warning, Log.Level.error, Log.Level.critical]

theorem silent_of_mem_quietLevels {level : Log.Level} (h : level ∈ quietLevels) (propagate : Bool)
    (handlers : List Log.Handler) : Log.LoggerState.Silent ⟨level, propagate, handlers⟩ := by
  have hlevels : ∀ l ∈ quietLevels,
      Log.Level.warning ≤ if l = Log.Level.unset then Log.Level.warning else l := by decide
  exact .inr (hlevels level h)

/-- **Quiet runs.**  On streams that do not fail, a run that gets to its injection and logs warnings
at most says what came of the injection and nothing else, be it the line of the failure, or that of
the success with the script behind it if that is asked for, and a newline behind the script.  No
file gains any content, and whatever the logger was before makes no difference. -/
theorem main_quiet {p : ProcessState} {call : Invocation} {o : Options} {c : Console}
    {level : Log.Level} {a : Attempt} (h : p.Prepares call o c)
    (hlevel : Log.Level.ofValue o.logLevel = .ok level) (hquiet : level ∈ quietLevels)
    (ha : p.attempt? call = some a) (hout : p.console.out.Recovered)
    (herr : p.console.err.Recovered) :
    ∃ i q, p.main call = (.ok i, q) ∧
      q.console.out.text = p.console.out.text ++ i.printed o.shell.truthy ∧
      q.console.err.text = p.console.err.text ++ i.complaint ∧
      ∀ l, q.console.directory.text? l = p.console.directory.text? l ∨
        p.console.directory.text? l = none ∧ q.console.directory.text? l = some "" := by
  obtain ⟨sink, template, level', hlevel', hc⟩ := h.console_eq
  obtain rfl : level = level' := Except.ok.inj (hlevel.symm.trans hlevel')
  have hl : c.logger.Silent := by
    rw [hc]
    exact silent_of_mem_quietLevels hquiet _ _
  rw [attempt?_of_prepares h] at ha
  obtain ⟨journal, hjournal⟩ := proxyOf_silently o hl
  obtain ⟨-, proxy, console, target, hproxyOf, -, rfl⟩ := aim?_eq_some_iff.mp ha
  obtain rfl : console = { c with journal } := by
    rw [← hjournal, show proxyOf o c = _ from hproxyOf]
  have hout' : c.out.Recovered := by rwa [hc]
  have herr' : c.err.Recovered := by rwa [hc]
  obtain ⟨hprinted, hcomplaint, hdirectory⟩ := Attempt.silent
    (a := ⟨{ p with console := { c with journal } }, target, proxy, o.shell⟩) hl hout' herr'
  rw [main_of_prepares h, inject_of_aim? ha, Attempt.ending_of_recovered hout']
  refine ⟨_, _, rfl, ?_, ?_, fun l => ?_⟩
  · rw [hprinted, hc]
  · rw [hcomplaint, hc]
  · rw [hdirectory, hc]
    exact Log.text?_openSink _ sink l

/-- a process that logs everything, to the error stream and to a file, and whose first line on the
output stream was lost -/
def talkative : ProcessState :=
  { console := {
      out := { faults := { writes := [0] }, writes := 1 }
      directory := { path := "/", files := [("old.log", "injected\n")] }
      logger := {
        level := Log.Level.debug
        handlers := [{ sink := .stream, template := Log.bareTemplate },
          { sink := .file (.here "old.log"), template := Log.bareTemplate }] } } }

/-- the script is asked for, and a log file that is not there yet -/
def scriptedToFile : Invocation := { scripted with overrides := [("log_file", .text "new.log")] }

theorem main_quiet_talkative :
    ∃ o c level a i q, talkative.Prepares scriptedToFile o c ∧
      Log.Level.ofValue o.logLevel = .ok level ∧ level ∈ quietLevels ∧
      talkative.attempt? scriptedToFile = some a ∧ talkative.console.out.Recovered ∧
      talkative.console.err.Recovered ∧ talkative.main scriptedToFile = (.ok i, q) ∧
      q.console.out.text = "" ++ i.printed o.shell.truthy ∧
      q.console.err.text = "" ++ i.complaint ∧
      q.console.directory.text? (.here "old.log") = some "injected\n" := by
  have hprepared : (talkative.prepared? scriptedToFile).bind
      (fun o => (Log.Level.ofValue o.logLevel).toOption) = some Log.Level.warning := by decide +kernel
  obtain ⟨o, c, -, hc, hlevel⟩ := exists_prepares_of_level hprepared
  have hattempt : (talkative.attempt? scriptedToFile).isSome := by decide +kernel
  obtain ⟨a, ha⟩ := Option.isSome_iff_exists.mp hattempt
  have hquiet : Log.Level.warning ∈ quietLevels := List.mem_cons_self
  have hrecovered : talkative.console.out.Recovered ∧ talkative.console.err.Recovered := by
    unfold Stream.Recovered
    decide
  obtain ⟨i, q, hmain, hout, herr, hfiles⟩ :=
    main_quiet hc hlevel hquiet ha hrecovered.1 hrecovered.2
  have hold : talkative.console.directory.text? (.here "old.log") = some "injected\n" := rfl
  refine ⟨o, c, _, a, i, q, hc, hlevel, hquiet, ha, hrecovered.1, hrecovered.2, hmain,
    hout, herr, ?_⟩
  rcases hfiles (.here "old.log") with hfile | ⟨hnone, -⟩
  · rw [hfile, hold]
  · rw [hold] at hnone
    cases hnone

/-- the script alone, which ends in a newline itself, is one newline less than what is printed -/
theorem main_quiet_scripted :
    ¬ ∀ (p : ProcessState) (call : Invocation) (o : Options) (c : Console) (level : Log.Level)
      (a : Attempt), p.Prepares call o c → Log.Level.ofValue o.logLevel = .ok level →
      level ∈ quietLevels → p.attempt? call = some a → p.console.out.Recovered →
      p.console.err.Recovered → ∃ i q, p.main call = (.ok i, q) ∧
        ∀ d, i = .done d → q.console.out.text = p.console.out.text
          ++ "[AgentProxy] Successfully injected proxy: " ++ d.host ++ ":" ++ d.port ++ "\n"
          ++ if o.shell.truthy then Shell.script d else "" := by
  intro h
  have hprepared : (relayed.prepared? scripted).bind
      (fun o => (Log.Level.ofValue o.logLevel).toOption) = some Log.Level.warning := by decide +kernel
  obtain ⟨o, c, ho, hc, hlevel⟩ := exists_prepares_of_level hprepared
  have hshell : (relayed.prepared? scripted).map (·.shell.truthy) = some true := by decide +kernel
  rw [ho] at hshell
  have hattempt : (relayed.attempt? scripted).isSome := by decide +kernel
  obtain ⟨a, ha⟩ := Option.isSome_iff_exists.mp hattempt
  obtain ⟨i, q, hmain, hout⟩ := h relayed scripted o c _ a hc hlevel List.mem_cons_self ha
    ⟨nofun, nofun⟩ ⟨nofun, nofun⟩
  have hresult : (relayed.main scripted).1.toOption = some (.done ⟨"h", "1"⟩) := by decide +kernel
  have htext : (relayed.main scripted).2.console.out.text
      ≠ "" ++ "[AgentProxy] Successfully injected proxy: " ++ "h" ++ ":" ++ "1" ++ "\n"
        ++ Shell.script ⟨"h", "1"⟩ := by decide +kernel
  rw [hmain] at hresult htext
  specialize hout _ (Option.some.inj hresult)
  rw [if_pos (Option.some.inj hshell)] at hout
  exact htext hout

end ProcessState

end Program

end ProxyInjector
