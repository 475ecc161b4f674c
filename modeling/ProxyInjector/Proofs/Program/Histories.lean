import ProxyInjector.Proofs.Program.Listening
import ProxyInjector.Proofs.Program.LogFaults
import ProxyInjector.Proofs.Program.Past

/-!
# Runs and what was before them

Runs of one process share its stores, its files, its streams and its logger.  Of what was printed
nothing reaches the next run, and of the logger one thing: a handler that still holds a line for
which its file has no room.  It cannot be closed, and so a run that sets up logging fails.  Two
states that agree otherwise, whatever runs they come from, are the same to the next run.

* `ProcessState.Matches`           two states agree but for the logger and what was printed and
                                   recorded;
* `ProcessState.Alike`             nor does the logger keep the next run from its set-up in one of
                                   them alone;
* `ProcessState.main_of_matches`   a run does the same in both then;
* `ProcessState.read_registry`     nor does the parser keep anything that a later reading looks at;
* `ProcessState.runAll_repeats`    all of it, at any place in two sequences of runs.
-/

namespace ProxyInjector

/-! ## states that differ in their past -/

/-- the streams fail at the same calls and have seen as many -/
structure Stream.Matches (s t : Stream) : Prop where
  faults : t.faults = s.faults
  writes : t.writes = s.writes
  flushes : t.flushes = s.flushes

namespace Program.ProcessState

/-- what was printed and recorded apart, and the logger, the states are the same -/
structure Matches (p q : ProcessState) : Prop where
  properties : q.properties = p.properties
  frozen : q.frozen = p.frozen
  environment : q.environment = p.environment
  directory : q.console.directory = p.console.directory
  manner : q.console.manner = p.console.manner
  out : p.console.out.Matches q.console.out
  err : p.console.err.Matches q.console.err

/-- if the run gets to set up logging, the old handlers can be closed in both states or in none -/
def Alike (p q : ProcessState) (call : Invocation) : Prop :=
  (p.settings? call).isSome → (p.console.logger.Closable ↔ q.console.logger.Closable)

/-- the run has printed and recorded that -/
structure Adds (p : ProcessState) (news : Past) (q : ProcessState) : Prop where
  out : q.console.out.text = p.console.out.text ++ news.out
  err : q.console.err.text = p.console.err.text ++ news.err
  journal : q.console.journal = p.console.journal ++ news.journal

/-- the state without its past -/
def fresh (p : ProcessState) : ProcessState :=
  { p with console := { p.console with
      out := { p.console.out with text := "" }
      err := { p.console.err with text := "" }
      journal := [] } }

def past (p : ProcessState) : Past := ⟨p.console.out.text, p.console.err.text, p.console.journal⟩

variable {p q : ProcessState} {call : Invocation}

theorem Matches.refl (p : ProcessState) : p.Matches p :=
  ⟨rfl, rfl, rfl, rfl, rfl, ⟨rfl, rfl, rfl⟩, ⟨rfl, rfl, rfl⟩⟩

theorem Matches.eq_behind (h : p.Matches q) : q = p.fresh.behind q.past q.console.logger := by
  obtain ⟨properties, frozen, environment, ⟨out, faults, writes, flushes⟩,
    ⟨err, faults', writes', flushes'⟩, logger, directory, journal, manner⟩ := q
  obtain ⟨hproperties, hfrozen, henvironment, hdirectory, hmanner, ⟨hfaults, hwrites, hflushes⟩,
    ⟨hfaults', hwrites', hflushes'⟩⟩ := h
  dsimp only at *
  subst hproperties hfrozen henvironment hdirectory hmanner
  subst hfaults hwrites hflushes hfaults' hwrites' hflushes'
  simp [fresh, behind, past, Console.behind, Stream.behind]

theorem manner_inject (p : ProcessState) (o : Options) :
    (p.inject o).2.console.manner = p.console.manner := by
  by_cases hproxy : o.proxy = .null
  · obtain ⟨⟨err, hframe⟩, -⟩ := parser.complain_spec noProxy p.console
    rw [inject_of_null p hproxy, hframe]
  · have hproxyOf : (proxyOf o p.console).2.manner = p.console.manner := by
      unfold proxyOf
      split
      · rfl
      · split
        · rfl
        · exact Console.manner_emit _ _ _
    rw [inject_of_proxy p hproxy]
    split
    · exact hproxyOf
    · exact hproxyOf
    · next proxy target _ _ =>
      let a : Attempt := ⟨{ p with console := (proxyOf o p.console).2 }, target, proxy, o.shell⟩
      obtain ⟨i, cs, h⟩ := a.session.exists_account a.proxy
      have hleft : a.left = a.session.calls cs := congrArg Prod.snd h.outcome
      show (a.process.adopt a.finished).console.manner = _
      rw [console_adopt]
      show a.left.console.manner = _
      rw [hleft, Session.manner_calls, ← hproxyOf]
      exact congrArg Console.manner (console_session _ _)

/-- what a run cannot change about its console -/
theorem manner_main (p : ProcessState) (call : Invocation) :
    (p.main call).2.console.manner = p.console.manner := by
  cases hwords : call.words with
  | error f => rw [main_of_words_error hwords]
  | ok words =>
    have hread : (readOptions words p.console).2.manner = p.console.manner := by
      obtain ⟨out, err, hframe⟩ := readOptions_frame words p.console
      rw [hframe]
    rw [main_of_words_ok hwords]
    revert hread
    rcases readOptions words p.console with ⟨e | parsed, c⟩
    · exact id
    · intro hread
      have hlog : (c.configureLog (parsed.override call.values).logSettings).2.manner
          = p.console.manner := hread
      revert hlog
      dsimp only
      rcases c.configureLog (parsed.override call.values).logSettings with ⟨e | _, c⟩
      · exact id
      · exact fun hlog => (manner_inject _ _).trans hlog

/-- runs that get to no injection leave states that agree, if their files and streams do -/
theorem matches_main {call call' : Invocation} (h : p.attempt? call = none)
    (h' : p.attempt? call' = none)
    (hdirectory : (p.main call').2.console.directory = (p.main call).2.console.directory)
    (hout : (p.main call').2.console.out = (p.main call).2.console.out)
    (herr : (p.main call').2.console.err = (p.main call).2.console.err) :
    (p.main call).2.Matches (p.main call').2 := by
  have hmanner := (p.manner_main call').trans (p.manner_main call).symm
  have hends := p.main_eq call
  have hends' := p.main_eq call'
  rw [h] at hends
  rw [h'] at hends'
  obtain ⟨e, c, hmain⟩ := hends
  obtain ⟨e', c', hmain'⟩ := hends'
  rw [hmain, hmain'] at hdirectory hout herr hmanner ⊢
  refine ⟨rfl, rfl, rfl, hdirectory, hmanner, ?_, ?_⟩
  · exact ⟨congrArg _ hout, congrArg _ hout, congrArg _ hout⟩
  · exact ⟨congrArg _ herr, congrArg _ herr, congrArg _ herr⟩

theorem matches_behind (p : ProcessState) (past past' : Past) (l l' : Log.LoggerState) :
    (p.behind past l).Matches (p.behind past' l') :=
  ⟨rfl, rfl, rfl, rfl, rfl, ⟨rfl, rfl, rfl⟩, ⟨rfl, rfl, rfl⟩⟩

theorem settings?_behind (p : ProcessState) (past : Past) (l : Log.LoggerState)
    (call : Invocation) : (p.behind past l).settings? call = p.settings? call := by
  have hread (words : Value) : readOptions words (p.behind past l).console = _ :=
    readOptions_behind p.console past l words
  simp only [settings?, hread]

theorem Matches.settings?_eq (h : p.Matches q) (call : Invocation) :
    q.settings? call = p.settings? call := by
  have hp := p.fresh.settings?_behind p.past p.console.logger call
  have hq := p.fresh.settings?_behind q.past q.console.logger call
  rw [← (Matches.refl p).eq_behind] at hp
  rw [← h.eq_behind] at hq
  exact hq.trans hp.symm

/-- what a run does and leaves behind does not depend on the past -/
theorem main_of_matches (h : p.Matches q) {call : Invocation} (halike : p.Alike q call) :
    q.prepared? call = p.prepared? call ∧ (q.main call).1 = (p.main call).1 ∧
    (p.main call).2.Matches (q.main call).2 ∧
    (∃ news, p.Adds news (p.main call).2 ∧ q.Adds news (q.main call).2) ∧
    ((p.prepared? call).isSome →
      (q.main call).2.console.logger = (p.main call).2.console.logger) := by
  -- the second is the first behind another past, and the first is so behind its own
  have hsettings := p.fresh.settings?_behind p.past p.console.logger call
  rw [← (Matches.refl p).eq_behind] at hsettings
  obtain ⟨hp, hpending, l, hpl, hl⟩ :=
    p.fresh.main_behind p.past p.console.logger call fun _ => Iff.rfl
  obtain ⟨hq, hqending, l', hql, hl'⟩ :=
    p.fresh.main_behind q.past q.console.logger call (hsettings ▸ halike)
  rw [← (Matches.refl p).eq_behind] at hp hpending hpl
  rw [← h.eq_behind] at hq hqending hql
  have hnews (past : Past) (l : Log.LoggerState) (s : ProcessState) (hs : s.past = past) :
      s.Adds (p.fresh.main call).2.past ((p.fresh.main call).2.behind past l) := by
    subst hs
    exact ⟨rfl, rfl, rfl⟩
  refine ⟨hq.trans hp.symm, hqending.trans hpending.symm, ?_, ?_, fun hsome => ?_⟩
  · rw [hpl, hql]
    exact matches_behind ..
  · refine ⟨(p.fresh.main call).2.past, ?_, ?_⟩
    · rw [hpl]
      exact hnews _ _ p rfl
    · rw [hql]
      exact hnews _ _ q rfl
  · rw [hp] at hsome
    rw [hpl, hql, hl hsome, hl' hsome]
    rfl

/-- The run ends in the same way exactly if the states are alike to it. -/
theorem Matches.ending_eq_iff (h : p.Matches q) :
    (q.main call).1 = (p.main call).1 ↔ p.Alike q call := by
  refine ⟨fun hending hsome => ?_, fun halike => (main_of_matches h halike).2.1⟩
  have hp : (p.main call).1 = .error (.fault (.log .noRoom)) ↔ ¬ p.console.logger.Closable := by
    simp [main_noRoom_iff, hsome]
  have hq : (q.main call).1 = .error (.fault (.log .noRoom)) ↔ ¬ q.console.logger.Closable := by
    simp [main_noRoom_iff, h.settings?_eq, hsome]
  rw [← Decidable.not_iff_not, ← hp, ← hq, hending]

/-- a command line is read as if none had been before, whatever the parser remembers of them -/
theorem read_registry {r : CommandLine.Registry} (hr : r.parser = parser) (words : List String)
    (c : Console) :
    let x := r.read (.list (words.map .text)) c
    (x.1, x.2.2) = readValues (.list (words.map .text)) c ∧ x.2.1.parser = parser := by
  obtain ⟨-, -, hafter⟩ := CommandLine.Parser.read_sound parser_simple (defaults_sound words)
  intro x
  rw [readValues_texts]
  show ((CommandLine.Registry.read _ _ _).1, (CommandLine.Registry.read _ _ _).2.2) = _ ∧
    (CommandLine.Registry.read _ _ _).2.1.parser = _
  unfold CommandLine.Registry.read
  rw [hr]
  dsimp only [CommandLine.Parser.wordsOf, CommandLine.Flag.parts]
  cases (parser.read (words.map .text)).result with
  | error h => exact ⟨rfl, hafter⟩
  | ok values => exact ⟨rfl, hafter⟩

/-- **Histories.**  Two sequences of runs may differ in everything, as long as they leave the same
stores and files and streams that have seen as many calls and have the same faults ahead.  The next
run then ends the same in both, unless it gets to set up logging and the handlers of one of them
alone hold a line for which there is no room.  If it ends the same, it prints and records the same
and leaves such states again; if it gets through the set-up of logging, it also leaves the same
logger.  Its words are read by a parser that keeps nothing of those before, whatever it remembers
of them. -/
theorem runAll_repeats {before before' : List Invocation}
    (h : (p.after before).Matches (q.after before')) (call : Invocation)
    (rest rest' : List Invocation) :
    (∃ outcome s outcome' t,
      (p.runAll (before ++ call :: rest))[before.length]? = some (outcome, s) ∧
      (q.runAll (before' ++ call :: rest'))[before'.length]? = some (outcome', t) ∧
      (outcome' = outcome ↔ (p.after before).Alike (q.after before') call) ∧
      (outcome = .error (.fault (.log .noRoom)) ↔
        ((p.after before).settings? call).isSome ∧ ¬ (p.after before).console.logger.Closable) ∧
      ((p.after before).Alike (q.after before') call → s.Matches t ∧
        (∃ news, (p.after before).Adds news s ∧ (q.after before').Adds news t) ∧
        (((p.after before).prepared? call).isSome → t.console.logger = s.console.logger))) ∧
    ∀ (r : CommandLine.Registry) (words : List String) (c : Console), r.parser = parser →
      let x := r.read (.list (words.map .text)) c
      (x.1, x.2.2) = readValues (.list (words.map .text)) c ∧ x.2.1.parser = parser := by
  refine ⟨⟨_, _, _, _, getElem?_runAll p before call rest, getElem?_runAll q before' call rest',
    h.ending_eq_iff, main_noRoom_iff, fun halike => ?_⟩, fun r words c hr => read_registry hr words c⟩
  obtain ⟨-, -, hmatches, hnews, hlogger⟩ := main_of_matches h halike
  exact ⟨hmatches, hnews, hlogger⟩

/-- a log file is opened, and the level is none -/
def loud : Invocation := { args := .list [.text "--log-file=x.log", .text "--log-level=loud"] }

/-- a log file is opened, and the lines would all be the same -/
def constant : Invocation :=
  { args := .list [.text "--log-file=x.log", .text "--log-format=plain"] }

/-- the first leaves a handler on the logger, and the second none -/
theorem runAll_repeats_relayed :
    (relayed.after [loud]).Matches (relayed.after [constant]) ∧
    (relayed.after [loud]).console.logger ≠ (relayed.after [constant]).console.logger ∧
    ∃ outcome s t, (relayed.runAll ([loud] ++ [scripted]))[1]? = some (outcome, s) ∧
      (relayed.runAll ([constant] ++ [scripted]))[1]? = some (outcome, t) ∧ s.Matches t ∧
      t.console.logger = s.console.logger := by
  have hmatches : (relayed.after [loud]).Matches (relayed.after [constant]) := by
    have hnone : (relayed.attempt? loud).isNone ∧ (relayed.attempt? constant).isNone := by
      decide +kernel
    have hconsole :
        (relayed.main constant).2.console.directory = (relayed.main loud).2.console.directory ∧
        (relayed.main constant).2.console.out = (relayed.main loud).2.console.out ∧
        (relayed.main constant).2.console.err = (relayed.main loud).2.console.err := by
      decide +kernel
    exact matches_main (Option.isNone_iff_eq_none.mp hnone.1)
      (Option.isNone_iff_eq_none.mp hnone.2) hconsole.1 hconsole.2.1 hconsole.2.2
  have hlogger :
      (relayed.after [loud]).console.logger ≠ (relayed.after [constant]).console.logger := by
    decide +kernel
  have hclosable : (relayed.after [loud]).console.logger.Closable ∧
      (relayed.after [constant]).console.logger.Closable := by decide +kernel
  have halike : (relayed.after [loud]).Alike (relayed.after [constant]) scripted :=
    fun _ => iff_of_true hclosable.1 hclosable.2
  have hprepared : ((relayed.after [loud]).prepared? scripted).isSome := by decide +kernel
  obtain ⟨⟨outcome, s, outcome', t, hs, ht, hending, -, hleft⟩, -⟩ :=
    runAll_repeats hmatches scripted [] []
  obtain rfl := hending.mpr halike
  obtain ⟨hst, -, hkept⟩ := hleft halike
  exact ⟨hmatches, hlogger, outcome', s, t, hs, ht, hst, hkept hprepared⟩

/-- a machine with a file that has no room, whose error stream takes nothing -/
def crowded : ProcessState where
  console := {
    err := { faults := { writes := List.range 10 } }
    directory := {
      path := "/tmp/w"
      outside := {
        directories := [["dev".toList]]
        files := [{ place := ["dev".toList, "full".toList], intake := .refuses 4096 }] } } }

/-- an address is read, which is noted for the log, and then there is no such store -/
def storeless (options : List String) : Invocation where
  args := .list ((options ++ ["--log-level=d", "--from-address", "h:1"]).map .text)
  overrides := [("store", .text "none")]

/-- the line of the first run is still in the hands of its handler, and the second makes none -/
theorem runAll_repeats_crowded :
    ¬ ∀ (p : ProcessState) (before before' : List Invocation) (call : Invocation),
      (p.after before).Matches (p.after before') →
      ∃ outcome s t, (p.runAll (before ++ [call]))[before.length]? = some (outcome, s) ∧
        (p.runAll (before' ++ [call]))[before'.length]? = some (outcome, t) := by
  intro h
  let full : Invocation := storeless ["--log-file=/dev/full"]
  let unfilled : Invocation := storeless ["--log-format=%(message)d"]
  have hnone : (crowded.attempt? full).isNone ∧ (crowded.attempt? unfilled).isNone := by
    decide +kernel
  have hconsole :
      (crowded.main unfilled).2.console.directory = (crowded.main full).2.console.directory ∧
      (crowded.main unfilled).2.console.out = (crowded.main full).2.console.out ∧
      (crowded.main unfilled).2.console.err = (crowded.main full).2.console.err := by
    decide +kernel
  obtain ⟨outcome, s, t, hs, ht⟩ := h crowded [full] [unfilled] plain
    (matches_main (Option.isNone_iff_eq_none.mp hnone.1) (Option.isNone_iff_eq_none.mp hnone.2)
      hconsole.1 hconsole.2.1 hconsole.2.2)
  have hends : ((crowded.runAll ([full] ++ [plain]))[1]?.map (·.1.isOk)) = some false ∧
      ((crowded.runAll ([unfilled] ++ [plain]))[1]?.map (·.1.isOk)) = some true := by
    decide +kernel
  rw [show [full].length = 1 from rfl] at hs
  rw [show [unfilled].length = 1 from rfl] at ht
  rw [hs, ht] at hends
  have hsame := hends.1.symm.trans hends.2
  cases hsame

end Program.ProcessState

end ProxyInjector
