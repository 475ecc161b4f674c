import ProxyInjector.Proofs.Program.Exits

/-!
# Runs that fail to set up logging

* `ProcessState.main_log_iff`      a run ends with a fault of logging if it gets to set that up and
                                   the set-up fails, and no other step of a run fails so;
* `ProcessState.main_noRoom_iff`   one such fault is that of an old handler which holds a line for
                                   which its file has no room.
-/

namespace ProxyInjector

namespace CommandLine.Parser

theorem complain_ne_log (p : Parser) (message : String) (c : Console) (x : Log.LogError) :
    (p.complain message c).1 ≠ .fault (.log x) := by
  unfold complain
  split
  · exact nofun
  · split
    · exact nofun
    · next err _ =>
      dsimp only
      cases (err.print c.manner.lenient (p.complaint message)).1 <;> exact nofun

theorem reply_ne_log (p : Parser) (h : Halt) (c : Console) (x : Log.LogError) :
    (p.reply h c).1 ≠ .fault (.log x) := by
  have hshow (text : Except Unsuited String) : (showText text c).1 ≠ .fault (.log x) := by
    cases text with
    | error u => exact nofun
    | ok text =>
      unfold showText
      dsimp only
      cases (c.out.print c.manner.lenient text).1 <;> exact nofun
  cases h with
  | help => exact hshow p.help
  | version v => exact hshow (p.versionText v)
  | unsuited u => exact nofun
  | refused r =>
    unfold reply
    dsimp only
    cases r.message? with
    | error u => exact nofun
    | ok message => exact p.complain_ne_log message c x

end CommandLine.Parser

namespace Program

open CommandLine

theorem readOptions_ne_log (words : Value) (c : Console) (x : Log.LogError) :
    (readOptions words c).1 ≠ .error (.fault (.log x)) := by
  unfold readOptions readValues
  cases Parser.wordsOf words with
  | error u => exact nofun
  | ok items =>
    dsimp only
    cases (parser.read items).result with
    | error h => exact fun he => parser.reply_ne_log h c x (Except.error.inj he)
    | ok values =>
      dsimp only
      split
      · rcases showVersion c with ⟨_ | _, c⟩ <;> exact nofun
      · exact nofun

namespace ProcessState

theorem inject_ne_log (p : ProcessState) (o : Options) (x : Log.LogError) :
    (p.inject o).1 ≠ .error (.fault (.log x)) := by
  by_cases hproxy : o.proxy = .null
  · rw [inject_of_null p hproxy]
    exact fun he => parser.complain_ne_log noProxy p.console x (Except.error.inj he)
  · rw [inject_of_proxy p hproxy]
    have hproxyOf (f : Fault) (hf : (proxyOf o p.console).1 = .error f) : ∃ m, f = .misuse m := by
      unfold proxyOf at hf
      split at hf
      · cases hf
      · split at hf
        · cases hf
          exact ⟨_, rfl⟩
        · cases hf
    have hresolve (f : Fault) (hf : Target.resolve o.store = .error f) : f ≠ .log x := by
      unfold Target.resolve at hf
      split at hf
      · cases hf
        exact nofun
      · split at hf
        · split at hf
          · cases hf
          · split at hf <;> cases hf
            exact nofun
        · cases hf
          exact nofun
    split
    · next f hf =>
      obtain ⟨m, rfl⟩ := hproxyOf f hf
      exact nofun
    · next f _ hf => exact fun he => hresolve f hf (Ending.fault.inj (Except.error.inj he))
    · intro he
      obtain ⟨e, hstream⟩ := Attempt.exists_of_ending_error he
      cases hstream

/-- A run ends with a fault of logging if it gets to set that up and the set-up fails. -/
theorem main_log_iff {p : ProcessState} {call : Invocation} {x : Log.LogError} :
    (p.main call).1 = .error (.fault (.log x)) ↔
      ∃ cfg, p.settings? call = some cfg ∧ (p.console.configureLog cfg).1 = .error x := by
  unfold settings?
  cases hwords : call.words with
  | error f =>
    have hmisuse : f ≠ .log x := by
      rintro rfl
      unfold Invocation.words checkWords at hwords
      split at hwords
      · split at hwords <;> cases hwords
      · split at hwords <;> cases hwords
    simp [main_of_words_error hwords, Except.toOption, hmisuse]
  | ok words =>
    rw [main_of_words_ok hwords]
    have hread := readOptions_ne_log words p.console x
    rcases hoptions : readOptions words p.console with ⟨e | parsed, c⟩
    · rw [hoptions] at hread
      have he : e ≠ .fault (.log x) := fun he => hread (congrArg Except.error he)
      simp [Except.toOption, he, hoptions]
    · obtain rfl : c = p.console := readOptions_ok hoptions
      have hinject := fun c => inject_ne_log { p with console := c }
        (parsed.override call.values) x
      rcases hlog : p.console.configureLog (parsed.override call.values).logSettings with ⟨e | _, c⟩
      · simp [Except.toOption, hoptions, hlog]
      · simp [Except.toOption, hoptions, hlog, hinject]

/-- for want of room in an old log file a run fails if it gets to set up logging -/
theorem main_noRoom_iff {p : ProcessState} {call : Invocation} :
    (p.main call).1 = .error (.fault (.log .noRoom)) ↔
      (p.settings? call).isSome ∧ ¬ p.console.logger.Closable := by
  rw [main_log_iff, Option.isSome_iff_exists]
  simp only [Console.configureLog_eq_noRoom_iff]
  exact exists_and_right

end ProcessState

end Program

end ProxyInjector
