import ProxyInjector.Proofs.Program.Flags
import ProxyInjector.Proofs.Program.Stores

/-!
# Runs that exit

A command line that asks for help or for the version, or that is wrong, is answered, and the run
exits.  So does a run without a proxy, but that is noticed late.  A lenient console does not mind
where help and complaints cannot be written, so that these runs exit on any streams.

* `Parser.complain_exits`      a complaint, and the exit behind it;
* `Parser.reply_of_regular`    any answer, on streams that let it out;
* `readOptions_frame`          up to the options, a run writes to its streams and does nothing else;
* `ProcessState.main_exits`    what a run that exits has changed.
-/

namespace ProxyInjector

namespace CommandLine

/-! ## answers -/

/-- the exit status of a stop -/
def Halt.status : Halt → Nat
  | .help => 0
  | _ => 2

namespace Parser

variable {p : Parser} {c : Console}

/-- a complaint ends a run with its exit status, where nobody minds that it cannot be written and
where it can -/
theorem complain_exits (husage : ∃ usage, p.usage? = some usage)
    (h : c.manner.lenient = true ∨ c.err.Healthy) (message : String) :
    (p.complain message c).1 = .exit 2 := by
  obtain ⟨usage, husage⟩ := husage
  unfold complain
  rw [husage]
  dsimp only
  rcases h with hlenient | herr
  · obtain ⟨err, hfirst⟩ := c.err.exists_print_lenient usage
    obtain ⟨err', hsecond⟩ := err.exists_print_lenient (p.complaint message)
    rw [hlenient, hfirst]
    dsimp only
    rw [hsecond]
    rfl
  · have hbehind : Stream.Healthy
        { c.err with text := c.err.text ++ usage, writes := c.err.writes + 1 } := herr
    rw [Stream.print_healthy herr]
    dsimp only
    rw [Stream.print_healthy hbehind]
    rfl

theorem reply_of_regular (hhelp : ∃ text, p.help = .ok text)
    (husage : ∃ usage, p.usage? = some usage) (hout : c.out.Healthy) (herr : c.err.Healthy)
    {h : Halt} (hh : h.Regular) : (p.reply h c).1 = .exit h.status := by
  cases hh with
  | help =>
    obtain ⟨text, htext⟩ := hhelp
    simp only [reply, showText, htext, Stream.print_healthy hout]
    rfl
  | refused hmessage =>
    simp only [reply, hmessage]
    exact complain_exits husage (.inr herr) _

/-- An exit status of its own is all that a complaint ends a run with, and it goes to the error
stream alone. -/
theorem complain_spec (p : Parser) (message : String) (c : Console) :
    (∃ err, (p.complain message c).2 = { c with err }) ∧
      ∀ n, (p.complain message c).1 = .exit n → n = 2 := by
  unfold complain
  split
  · exact ⟨⟨c.err, rfl⟩, nofun⟩
  · split
    · exact ⟨⟨_, rfl⟩, nofun⟩
    · next usage _ _ err _ =>
      refine ⟨⟨_, rfl⟩, fun n hn => ?_⟩
      dsimp only at hn
      cases hresult : (err.print c.manner.lenient (p.complaint message)).1 with
      | error e =>
        rw [hresult] at hn
        cases hn
      | ok _ =>
        rw [hresult] at hn
        cases hn
        rfl

theorem reply_frame (p : Parser) (h : Halt) (c : Console) :
    ∃ out err, (p.reply h c).2 = { c with out, err } := by
  have hshow (text : Except Unsuited String) : ∃ out, (showText text c).2 = { c with out } := by
    cases text with
    | error u => exact ⟨c.out, rfl⟩
    | ok text => exact ⟨_, rfl⟩
  cases h with
  | help =>
    obtain ⟨out, h⟩ := hshow p.help
    exact ⟨out, c.err, h⟩
  | version v =>
    obtain ⟨out, h⟩ := hshow (p.versionText v)
    exact ⟨out, c.err, h⟩
  | unsuited u => exact ⟨c.out, c.err, rfl⟩
  | refused r =>
    unfold reply
    dsimp only
    cases r.message? with
    | error u => exact ⟨c.out, c.err, rfl⟩
    | ok message =>
      obtain ⟨⟨err, h⟩, -⟩ := p.complain_spec message c
      exact ⟨c.out, err, h⟩

end Parser

end CommandLine

namespace Program

open CommandLine

theorem showVersion_of_healthy {c : Console} (hout : c.out.Healthy) :
    showVersion c = (.ok (), { c with out := { c.out with
      text := c.out.text ++ Version.current ++ "\n"
      writes := c.out.writes + 2 } }) := by
  have hbehind : Stream.Healthy
      { c.out with text := c.out.text ++ Version.current, writes := c.out.writes + 1 } := hout
  unfold showVersion
  rw [Stream.write_healthy hout]
  dsimp only
  rw [Stream.write_healthy hbehind]

theorem showVersion_frame (c : Console) : ∃ out, (showVersion c).2 = { c with out } := by
  unfold showVersion
  split <;> exact ⟨_, rfl⟩

theorem readValues_texts (words : List String) (c : Console) :
    readValues (.list (words.map .text)) c =
      match (parser.read (words.map .text)).result with
      | .ok values => (.ok values, c)
      | .error h => (.error (parser.reply h c).1, (parser.reply h c).2) := rfl

theorem readOptions_frame (words : Value) (c : Console) :
    ∃ out err, (readOptions words c).2 = { c with out, err } := by
  have hvalues : ∃ out err, (readValues words c).2 = { c with out, err } := by
    unfold readValues
    split
    · exact ⟨c.out, c.err, rfl⟩
    · split
      · exact ⟨c.out, c.err, rfl⟩
      · next h _ => exact parser.reply_frame h c
  obtain ⟨out, err, hvalues⟩ := hvalues
  unfold readOptions
  rcases hread : readValues words c with ⟨_ | values, c'⟩
  · rw [hread] at hvalues
    exact ⟨out, err, hvalues⟩
  · rw [hread] at hvalues
    subst hvalues
    dsimp only
    split
    · obtain ⟨out', hversion⟩ := showVersion_frame { c with out, err }
      split
      · next hshow =>
        rw [hshow] at hversion
        exact ⟨out', err, hversion⟩
      · next hshow =>
        rw [hshow] at hversion
        exact ⟨out', err, hversion⟩
    · exact ⟨out, err, rfl⟩

/-- a run that exits before it is prepared has at most written to its streams -/
theorem prepare_exit {words : Value} {values : List (String × Value)} {c c' : Console} {n : Nat}
    (h : prepare words values c = (.error (.exit n), c')) :
    ∃ out err, c' = { c with out, err } := by
  obtain ⟨out, err, hframe⟩ := readOptions_frame words c
  unfold prepare at h
  split at h
  · cases h
  · split at h
    · next e c'' hread =>
      cases h
      rw [hread] at hframe
      exact ⟨out, err, hframe⟩
    · dsimp only at h
      split at h <;> cases h

namespace ProcessState

/-- an injection does not exit but for want of a proxy -/
theorem inject_exit {p : ProcessState} {o : Options} {n : Nat}
    (h : (p.inject o).1 = .error (.exit n)) :
    o.proxy = .null ∧ n = 2 ∧
      ∃ err, (p.inject o).2 = { p with console := { p.console with err } } := by
  by_cases hproxy : o.proxy = .null
  · obtain ⟨⟨err, hframe⟩, hstatus⟩ := parser.complain_spec noProxy p.console
    rw [inject_of_null p hproxy] at h ⊢
    exact ⟨hproxy, hstatus n (Except.error.inj h), err, by rw [hframe]⟩
  · exfalso
    rw [inject_of_proxy p hproxy] at h
    split at h
    · cases h
    · cases h
    · obtain ⟨x, hx⟩ := Attempt.exists_of_ending_error h
      cases hx

theorem exits_of_prepares {p : ProcessState} {call : Invocation} {o : Options} {c : Console}
    {n : Nat} (hc : p.Prepares call o c) (h : (p.main call).1 = .error (.exit n)) :
    o.proxy = .null ∧ n = 2 ∧ ∃ err, (p.main call).2 = { p with console := { c with err } } := by
  rw [main_of_prepares hc] at h ⊢
  exact inject_exit h

theorem exits_of_prepared?_eq_none {p : ProcessState} {call : Invocation} {n : Nat}
    (hnone : p.prepared? call = none) (h : (p.main call).1 = .error (.exit n)) :
    ∃ out err, (p.main call).2 = { p with console := { p.console with out, err } } := by
  revert h
  unfold main
  cases hwords : call.words with
  | error f => exact fun h => by cases h
  | ok words =>
    dsimp only
    rcases hprepare : prepare words call.values p.console with ⟨e | o, c⟩
    · intro h
      cases h
      obtain ⟨out, err, rfl⟩ := prepare_exit hprepare
      exact ⟨out, err, rfl⟩
    · rw [prepared?_eq_some_iff.mpr ⟨c, words, hwords, hprepare⟩] at hnone
      cases hnone

/-- **Exits.**  A run that ends with an exit status leaves both stores alone and emits no record.
It leaves the logger and the files alone too, with one exception: if no proxy is named, nobody
notices before logging is set up, and what the set-up has done stays done. -/
theorem main_exits {p : ProcessState} {call : Invocation} {n : Nat}
    (h : (p.main call).1 = .error (.exit n)) :
    let q := (p.main call).2
    p.Untouched q ∧ q.console.journal = p.console.journal ∧
      (p.prepared? call = none →
        q.console.logger = p.console.logger ∧ q.console.directory = p.console.directory) ∧
      ∀ o c, p.Prepares call o c → o.proxy = .null ∧ n = 2 ∧
        q.console.logger = c.logger ∧ q.console.directory = c.directory := by
  have hprepares (o : Options) (c : Console) (hc : p.Prepares call o c) :
      o.proxy = .null ∧ n = 2 ∧ (p.main call).2.console.logger = c.logger ∧
      (p.main call).2.console.directory = c.directory := by
    obtain ⟨hproxy, hn, err, hmain⟩ := exits_of_prepares hc h
    rw [hmain]
    exact ⟨hproxy, hn, rfl, rfl⟩
  cases hprepared : p.prepared? call with
  | none =>
    obtain ⟨out, err, hmain⟩ := exits_of_prepared?_eq_none hprepared h
    refine ⟨?_, ?_, ?_, hprepares⟩
    all_goals rw [hmain]
    · exact ⟨rfl, rfl, rfl⟩
    · exact fun _ => ⟨rfl, rfl⟩
  | some o =>
    obtain ⟨c, hc⟩ := prepared?_eq_some_iff.mp hprepared
    obtain ⟨-, -, err, hmain⟩ := exits_of_prepares hc h
    have hjournal : c.journal = p.console.journal := by
      obtain ⟨sink, template, level, -, rfl⟩ := hc.console_eq
      rfl
    refine ⟨?_, ?_, nofun, hprepares⟩
    all_goals rw [hmain]
    · exact ⟨rfl, rfl, rfl⟩
    · exact hjournal

/-- for want of a proxy it does, where nobody minds what becomes of the complaint -/
theorem main_of_proxyless {p : ProcessState} {call : Invocation} {o : Options} {c : Console}
    (hc : p.Prepares call o c) (hproxy : o.proxy = .null)
    (h : c.manner.lenient = true ∨ c.err.Healthy) : (p.main call).1 = .error (.exit 2) := by
  rw [main_of_prepares hc, inject_of_null _ hproxy, Parser.complain_exits exists_usage h]

/-- a machine on which the host program logs to a file of its own, with an error stream that takes
nothing -/
def hosted : ProcessState :=
  { console := {
      err := { faults := { writes := [0, 1] } }
      logger := ⟨Log.Level.debug, true, [{ sink := .file (.here "host.log"), template := Log.bareTemplate }]⟩
      directory := { path := "/", files := [("host.log", "up\n")] } } }

/-- no proxy is named, and the log is to go to another file -/
def unnamed : Invocation :=
  { args := .list [.text "--shell"], overrides := [("log_file", .text "x.log")] }

theorem exists_prepares_unnamed :
    ∃ o c, hosted.Prepares unnamed o c ∧ (hosted.main unnamed).1 = .error (.exit 2) := by
  have h : (hosted.prepared? unnamed).map (fun o => o.proxy.kind) = some "NoneType" := by
    decide +kernel
  obtain ⟨o, ho, hkind⟩ := Option.map_eq_some_iff.mp h
  obtain ⟨c, hc⟩ := prepared?_eq_some_iff.mp ho
  have hproxy : o.proxy = .null := by
    cases hv : o.proxy with
    | null => rfl
    | _ => simp [hv, Value.kind] at hkind
  have hlenient : c.manner.lenient = true := by
    obtain ⟨sink, template, level, -, rfl⟩ := hc.console_eq
    rfl
  exact ⟨o, c, hc, main_of_proxyless hc hproxy (.inl hlenient)⟩

theorem main_exits_hosted :
    (hosted.main unnamed).1 = .error (.exit 2) ∧ hosted.Untouched (hosted.main unnamed).2 ∧
    ∃ o c, hosted.Prepares unnamed o c ∧ o.proxy = .null ∧
      (hosted.main unnamed).2.console.logger = c.logger ∧
      (hosted.main unnamed).2.console.directory = c.directory := by
  obtain ⟨o, c, hc, hexit⟩ := exists_prepares_unnamed
  obtain ⟨huntouched, -, -, hprepared⟩ := main_exits hexit
  obtain ⟨hproxy, -, hlogger, hdirectory⟩ := hprepared o c hc
  exact ⟨hexit, huntouched, o, c, hc, hproxy, hlogger, hdirectory⟩

/-- the host program has lost its handler -/
theorem main_exits_unnamed :
    ¬ ∀ (p : ProcessState) (call : Invocation) (n : Nat), (p.main call).1 = .error (.exit n) →
      (p.main call).2.console.logger = p.console.logger := by
  intro h
  obtain ⟨o, c, hc, hexit⟩ := exists_prepares_unnamed
  have hkept := h hosted unnamed 2 hexit
  obtain ⟨-, -, err, hmain⟩ := exits_of_prepares hc hexit
  obtain ⟨sink, template, level, -, rfl⟩ := hc.console_eq
  rw [hmain] at hkept
  cases congrArg Log.LoggerState.propagate hkept

end ProcessState

end Program

end ProxyInjector
