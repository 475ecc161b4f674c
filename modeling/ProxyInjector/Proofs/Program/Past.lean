import ProxyInjector.Proofs.Program.Exits
import ProxyInjector.Proofs.Session.Past

/-!
# Runs behind a past

A run does the same whatever was printed and recorded before it.  Of what the logger was it matters
whether its handlers can be closed, if logging is set up.  The rest makes a difference only to what
the logger is afterwards, and only if logging is not set up.

* `readOptions_behind`, `configureLog_behind`, `proxyOf_behind`   the steps of a run;
* `Attempt.ending_behind`, `Attempt.finished_behind`              its injection;
* `ProcessState.main_behind`                                      all of it.
-/

namespace ProxyInjector

namespace CommandLine.Parser

variable (p : Parser) (c : Console) (past : Past) (l : Log.LoggerState)

theorem complain_behind (message : String) :
    p.complain message (c.behind past l)
      = ((p.complain message c).1, (p.complain message c).2.behind past l) := by
  have hprint (s : Stream) (t : String) : (s.behind past.err).print c.manner.lenient t = _ :=
    s.print_behind past.err t c.manner.lenient
  unfold complain
  cases p.usage? with
  | none => rfl
  | some usage =>
    dsimp only
    rw [show (c.behind past l).err = c.err.behind past.err from rfl,
      show (c.behind past l).manner = c.manner from rfl, hprint]
    rcases c.err.print c.manner.lenient usage with ⟨_ | _, err⟩
    · rfl
    · dsimp only
      rw [hprint]
      rfl

theorem showText_behind (text : Except Unsuited String) :
    showText text (c.behind past l) = ((showText text c).1, (showText text c).2.behind past l) := by
  cases text with
  | error u => rfl
  | ok text =>
    have hprint : (c.behind past l).out.print (c.behind past l).manner.lenient text = _ :=
      c.out.print_behind past.out text c.manner.lenient
    unfold showText
    dsimp only
    rw [hprint]
    rfl

theorem reply_behind (h : Halt) :
    p.reply h (c.behind past l) = ((p.reply h c).1, (p.reply h c).2.behind past l) := by
  cases h with
  | help => exact showText_behind c past l p.help
  | version v => exact showText_behind c past l (p.versionText v)
  | unsuited u => rfl
  | refused r =>
    unfold reply
    dsimp only
    cases r.message? with
    | error u => rfl
    | ok message => exact complain_behind p c past l message

end CommandLine.Parser

namespace Program

open CommandLine

section
variable (c : Console) (past : Past) (l : Log.LoggerState)

theorem showVersion_behind :
    showVersion (c.behind past l) = ((showVersion c).1, (showVersion c).2.behind past l) := by
  have hwrite (s : Stream) (t : String) : (s.behind past.out).write t = _ :=
    s.write_behind past.out t
  unfold showVersion
  rw [show (c.behind past l).out = c.out.behind past.out from rfl, hwrite]
  rcases c.out.write Version.current with ⟨_ | _, out⟩
  · rfl
  · dsimp only
    rw [hwrite]
    rfl

theorem readOptions_behind (words : Value) :
    readOptions words (c.behind past l)
      = ((readOptions words c).1, (readOptions words c).2.behind past l) := by
  have hvalues : readValues words (c.behind past l)
      = ((readValues words c).1, (readValues words c).2.behind past l) := by
    unfold readValues
    split
    · rfl
    · split
      · rfl
      · rw [Parser.reply_behind]
  unfold readOptions
  rw [hvalues]
  rcases readValues words c with ⟨e | values, d⟩
  · rfl
  · dsimp only
    split
    · rw [showVersion_behind]
      rcases showVersion d with ⟨_ | _, d⟩ <;> rfl
    · rfl

/-- What the logger was before counts only where its set-up fails, as long as its handlers can be
closed in both cases or in none. -/
theorem configureLog_behind (h : c.logger.Closable ↔ l.Closable) (cfg : Log.Settings) :
    ∃ l', (c.behind past l).configureLog cfg
        = ((c.configureLog cfg).1, (c.configureLog cfg).2.behind past l') ∧
      ((c.configureLog cfg).1 = .ok () → l' = (c.configureLog cfg).2.logger) := by
  by_cases hc : c.logger.Closable
  · have hl : (c.behind past l).logger.Closable := h.mp hc
    rw [Console.configureLog_of_closable hc, Console.configureLog_of_closable hl]
    unfold Log.install
    dsimp only [Console.behind]
    cases Log.sinkOf c.directory cfg.file with
    | error e => exact ⟨_, rfl, nofun⟩
    | ok sink =>
      cases Log.templateOf cfg.template with
      | error e => exact ⟨_, rfl, nofun⟩
      | ok template =>
        cases Log.Level.ofValue cfg.level with
        | error e => exact ⟨_, rfl, nofun⟩
        | ok level => exact ⟨_, rfl, fun _ => rfl⟩
  · have hl : ¬ (c.behind past l).logger.Closable := mt h.mpr hc
    obtain ⟨hs, hlog⟩ := Console.configureLog_of_not_closable hc cfg
    obtain ⟨hs', hlog'⟩ := Console.configureLog_of_not_closable hl cfg
    rw [hlog, hlog']
    exact ⟨_, rfl, nofun⟩

/-- the steps up to the injection leave behind the same past, and the same logger once it is set
up -/
theorem prepare_behind (words : Value) (values : List (String × Value))
    (h : ∀ o, (readOptions words c).1 = .ok o → (c.logger.Closable ↔ l.Closable)) :
    ∃ l', prepare words values (c.behind past l)
        = ((prepare words values c).1, (prepare words values c).2.behind past l') ∧
      ∀ o, (prepare words values c).1 = .ok o → l' = (prepare words values c).2.logger := by
  unfold prepare
  cases checkWords "FlagParser.initialize" values with
  | error f => exact ⟨l, rfl, nofun⟩
  | ok _ =>
    dsimp only
    rw [readOptions_behind]
    rcases hread : readOptions words c with ⟨e | parsed, d⟩
    · exact ⟨l, rfl, nofun⟩
    · obtain rfl : d = c := readOptions_ok hread
      dsimp only
      obtain ⟨l', hlog, hl'⟩ :=
        configureLog_behind d past l (h parsed (congrArg Prod.fst hread))
          (parsed.override values).logSettings
      rw [hlog]
      revert hl'
      rcases d.configureLog (parsed.override values).logSettings with ⟨e | _, d⟩
      · exact fun _ => ⟨l', rfl, nofun⟩
      · exact fun hl' => ⟨l', rfl, fun _ _ => hl' rfl⟩

theorem proxyOf_behind (o : Options) :
    proxyOf o (c.behind past c.logger)
      = ((proxyOf o c).1, (proxyOf o c).2.behind past (proxyOf o c).2.logger) := by
  unfold proxyOf
  split
  · rfl
  · split
    · rfl
    · dsimp only
      rw [Console.emit_behind]

end

namespace ProcessState

/-- the process with more in front of its console, and with that logger -/
def behind (p : ProcessState) (past : Past) (l : Log.LoggerState) : ProcessState :=
  { p with console := p.console.behind past l }

section
variable (p : ProcessState) (past : Past) (l : Log.LoggerState)

theorem session_behind (target : Target) :
    (p.behind past p.console.logger).session target = (p.session target).behind past := by
  cases target <;> rfl

theorem adopt_behind (s : Session) :
    (p.behind past l).adopt (s.behind past)
      = (p.adopt s).behind past (p.adopt s).console.logger := by
  have hstore : (s.behind past).store = s.store := rfl
  rw [console_adopt]
  unfold adopt
  rw [hstore]
  cases s.store <;> rfl

end

end ProcessState

/-! ## attempts -/

namespace Attempt

variable (a : Attempt) (past : Past)

def behind : Attempt := { a with process := a.process.behind past a.process.console.logger }

theorem apply_behind :
    (a.behind past).session.apply (a.behind past).proxy = (a.result, a.left.behind past) := by
  have hsession : (a.behind past).session = a.session.behind past :=
    a.process.session_behind past a.target
  rw [hsession]
  exact a.session.apply_behind past a.proxy

theorem result_behind : (a.behind past).result = a.result := by
  rw [result, apply_behind]

theorem left_behind : (a.behind past).left = a.left.behind past := by
  rw [left, apply_behind]

theorem script?_behind : (a.behind past).script? = a.script? := by
  unfold script?
  rw [result_behind]
  rfl

theorem ending_behind : (a.behind past).ending = a.ending := by
  unfold ending scriptFault?
  rw [script?_behind, result_behind, left_behind]
  rfl

theorem finished_behind : (a.behind past).finished = a.finished.behind past := by
  unfold finished
  rw [script?_behind, left_behind]
  cases a.script? with
  | none => rfl
  | some script =>
    have hput : (a.left.behind past).console.out.put (script ++ "\n") = _ :=
      Stream.put_behind a.left.console.out past.out _
    dsimp only [Option.elim_some]
    rw [hput]
    rfl

end Attempt

namespace ProcessState

section
variable (p : ProcessState) (past : Past) (l : Log.LoggerState)

theorem inject_behind (o : Options) :
    (p.behind past p.console.logger).inject o
      = ((p.inject o).1, (p.inject o).2.behind past (p.inject o).2.console.logger) := by
  by_cases hproxy : o.proxy = .null
  · obtain ⟨⟨err, hframe⟩, -⟩ := parser.complain_spec noProxy p.console
    have hcomplain : parser.complain noProxy (p.behind past p.console.logger).console = _ :=
      parser.complain_behind p.console past p.console.logger noProxy
    rw [inject_of_null _ hproxy, inject_of_null _ hproxy, hcomplain]
    generalize parser.complain noProxy p.console = answer at hframe
    rw [hframe]
    rfl
  · have hproxyOf : proxyOf o (p.behind past p.console.logger).console = _ :=
      proxyOf_behind p.console past o
    rw [inject_of_proxy _ hproxy, inject_of_proxy _ hproxy, hproxyOf]
    cases (proxyOf o p.console).1 with
    | error f => rfl
    | ok proxy =>
      cases Target.resolve o.store with
      | error f => rfl
      | ok target =>
        let a : Attempt := ⟨{ p with console := (proxyOf o p.console).2 }, target, proxy, o.shell⟩
        have hattempt : Attempt.mk { p.behind past p.console.logger with
            console := (proxyOf o p.console).2.behind past (proxyOf o p.console).2.logger }
            target proxy o.shell = a.behind past := rfl
        dsimp only
        rw [hattempt, a.ending_behind, a.finished_behind]
        exact congrArg (Prod.mk a.ending) (adopt_behind a.process past _ a.finished)

/-- What was printed and recorded before makes no difference to a run.  What the logger was makes
one only to the logger, if logging is not set up, as long as its handlers can be closed in both
cases or in none. -/
theorem main_behind (call : Invocation)
    (h : (p.settings? call).isSome → (p.console.logger.Closable ↔ l.Closable)) :
    (p.behind past l).prepared? call = p.prepared? call ∧
    ((p.behind past l).main call).1 = (p.main call).1 ∧
    ∃ l', ((p.behind past l).main call).2 = (p.main call).2.behind past l' ∧
      ((p.prepared? call).isSome → l' = (p.main call).2.console.logger) := by
  cases hwords : call.words with
  | error f =>
    have hnone (q : ProcessState) : q.prepared? call = none := by
      rw [prepared?, hwords]
      rfl
    rw [main_of_words_error hwords, main_of_words_error hwords, hnone, hnone]
    exact ⟨rfl, rfl, l, rfl, fun hsome => by cases hsome⟩
  | ok words =>
    obtain ⟨l', hprepare, hl'⟩ := prepare_behind p.console past l words call.values fun o ho =>
      h (by simp [settings?, hwords, Except.toOption, ho])
    have hbehind : prepare words call.values (p.behind past l).console = _ := hprepare
    rw [prepared?_of_words_ok hwords, prepared?_of_words_ok hwords, main, main, hwords]
    dsimp only
    rw [hbehind]
    revert hl'
    rcases prepare words call.values p.console with ⟨e | o, c⟩
    · exact fun _ => ⟨rfl, rfl, l', rfl, fun hsome => by cases hsome⟩
    · intro hl'
      obtain rfl : l' = c.logger := hl' o rfl
      have hinject : inject { p.behind past l with console := c.behind past c.logger } o = _ :=
        inject_behind { p with console := c } past o
      dsimp only
      rw [hinject]
      exact ⟨rfl, rfl, _, rfl, fun _ => rfl⟩

end

end ProcessState

end Program

end ProxyInjector
