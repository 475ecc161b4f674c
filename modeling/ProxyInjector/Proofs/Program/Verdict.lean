import ProxyInjector.Proofs.Program.Exits
import ProxyInjector.Proofs.Program.Listening

/-!
# How command lines end

A run over words alone, on streams that take what is written to them, ends in one of these ways, of
which the first that applies counts: help, or what is wrong with the words; the version; the fault
of the set-up of logging; the want of a proxy; the want of the store; the outcome of an injection.

* `ProcessState.verdict`        which one it is;
* `ProcessState.main_verdict`   the run ends so.
-/

namespace ProxyInjector

namespace Program

open CommandLine

namespace ProcessState

/-- how an injection ends on healthy streams, where words say its proxy and its store -/
def injected (o : Options) : Except Ending Unit :=
  match o.proxy, o.store with
  | .null, _ => .error (.exit 2)
  | _, .list _ => .error (.fault (.misuse (.notKey "list")))
  | _, _ => .ok ()

/-- how a run over the words ends on healthy streams -/
def verdict (p : ProcessState) (words : List String) : Except Ending Unit :=
  match (parser.read (words.map .text)).result with
  | .error h => .error (.exit h.status)
  | .ok values =>
    let o := Options.ofValues values
    if o.version.truthy then .error (.exit 0)
    else match (p.console.configureLog o.logSettings).1 with
    | .error e => .error (.fault (.log e))
    | .ok () => injected o

/-! ## the stages -/

section
variable {p : ProcessState} {words : List String} {values : Parser.Values}

/-- the state once the version is printed -/
def versioned (p : ProcessState) : ProcessState :=
  { p with console := { p.console with out := { p.console.out with
      text := p.console.out.text ++ Version.current ++ "\n"
      writes := p.console.out.writes + 2 } } }

theorem main_of_words (p : ProcessState) (words : List String) :
    p.main { args := .list (words.map .text) } =
      match readOptions (.list (words.map .text)) p.console with
      | (.error e, c) => (.error e, { p with console := c })
      | (.ok o, c) =>
        match c.configureLog o.logSettings with
        | (.error e, c) => (.error (.fault (.log e)), { p with console := c })
        | (.ok (), c) => { p with console := c }.inject o := by
  have hvalues : ∀ v ∈ ([] : List (String × Value)), v.1 ≠ wordsName := nofun
  exact main_of_values hvalues p (.list (words.map .text))

theorem main_of_stop (hout : p.console.out.Healthy) (herr : p.console.err.Healthy) {h : Halt}
    (hresult : (parser.read (words.map .text)).result = .error h) :
    (p.main { args := .list (words.map .text) }).1 = .error (.exit h.status) := by
  obtain ⟨hregular, -, -⟩ := Parser.read_sound parser_simple (defaults_sound words)
  rw [hresult] at hregular
  have hreply := Parser.reply_of_regular exists_help exists_usage hout herr hregular
  rw [main_of_words]
  unfold readOptions
  rw [readValues_texts, hresult]
  dsimp only
  rw [hreply]

theorem readOptions_of_ok (hresult : (parser.read (words.map .text)).result = .ok values)
    (c : Console) :
    readOptions (.list (words.map .text)) c =
      if (Options.ofValues values).version.truthy then
        match showVersion c with
        | (.error e, c) => (.error (.fault (.stream e)), c)
        | (.ok (), c) => (.error (.exit 0), c)
      else (.ok (Options.ofValues values), c) := by
  have hread : readValues (.list (words.map .text)) c = (.ok values, c) := by
    rw [readValues_texts, hresult]
  unfold readOptions
  generalize readValues (.list (words.map .text)) c = r at hread ⊢
  subst hread
  rfl

theorem main_of_version (hout : p.console.out.Healthy)
    (hresult : (parser.read (words.map .text)).result = .ok values)
    (hversion : (Options.ofValues values).version.truthy = true) :
    p.main { args := .list (words.map .text) } = (.error (.exit 0), p.versioned) := by
  rw [main_of_words, readOptions_of_ok hresult, if_pos hversion, showVersion_of_healthy hout]
  rfl

/-- an injection of what words say, once logging is set up -/
theorem inject_of_read {o : Options} (ho : o.Read words) (hout : p.console.out.Healthy)
    (herr : p.console.err.Healthy) : (p.inject o).1.map (fun _ => ()) = injected o := by
  unfold injected
  rcases ho.proxy with hproxy | ⟨raw, hproxy⟩
  · rw [inject_of_null p hproxy, Parser.complain_exits exists_usage (.inr herr), hproxy]
    rfl
  · obtain ⟨proxy, hproxyOf⟩ : ∃ proxy, (proxyOf o p.console).1 = .ok proxy := by
      unfold proxyOf
      rw [hproxy]
      split <;> exact ⟨_, rfl⟩
    have hhealthy : (proxyOf o p.console).2.out.Healthy := by rwa [proxyOf_out]
    have hne : o.proxy ≠ .null := by
      rw [hproxy]
      exact nofun
    rw [inject_of_proxy p hne, hproxyOf, hproxy]
    rcases ho.store with ⟨target, hstore⟩ | ⟨hstore, -⟩
    · rw [hstore]
      show Except.map _ (Attempt.ending _) = _
      rw [Attempt.ending_of_healthy hhealthy]
      cases hs : o.store with
      | list items =>
        rw [hs] at hstore
        cases hstore
      | _ => rfl
    · rw [hstore]
      rfl

theorem main_of_options (hout : p.console.out.Healthy) (herr : p.console.err.Healthy)
    (hresult : (parser.read (words.map .text)).result = .ok values)
    (hversion : ¬ (Options.ofValues values).version.truthy = true) :
    (p.main { args := .list (words.map .text) }).1.map (fun _ => ()) =
      match (p.console.configureLog (Options.ofValues values).logSettings).1 with
      | .error e => .error (.fault (.log e))
      | .ok () => injected (Options.ofValues values) := by
  have hread := options_read hresult
  rw [main_of_words, readOptions_of_ok hresult, if_neg hversion]
  dsimp only
  rcases hlog : p.console.configureLog (Options.ofValues values).logSettings with ⟨e | _, c⟩
  · rfl
  · obtain ⟨sink, template, level, -, rfl⟩ := Console.configureLog_ok hlog
    exact inject_of_read hread hout herr

end

/-! ## the whole -/

/-- **Verdicts.**  A run over words alone, on healthy streams and from any state of the process,
ends by the first of these that applies: with the exit status of help or of a refusal, after the
version, with the fault of the set-up of logging, with exit status 2 for want of a proxy, for want
of the store, and else with the outcome of its injection.  The version is all that a run for it
leaves behind, and the store is wanting only where a word gives it a bare double dash. -/
theorem main_verdict (p : ProcessState) (words : List String) (hout : p.console.out.Healthy)
    (herr : p.console.err.Healthy) :
    let r := p.main { args := .list (words.map .text) }
    r.1.map (fun _ => ()) = p.verdict words ∧
    ∀ values, (parser.read (words.map .text)).result = .ok values →
      let o := Options.ofValues values
      (o.version.truthy = true → r.2 = p.versioned) ∧
      ∀ items, o.store = .list items → storeFlag.Dashed words := by
  intro r
  constructor
  · unfold verdict
    cases hresult : (parser.read (words.map .text)).result with
    | error h =>
      have hstop : r.1 = .error (.exit h.status) := main_of_stop hout herr hresult
      rw [hstop]
      rfl
    | ok values =>
      dsimp only
      split
      · next hversion =>
        have hprinted : r = _ := main_of_version hout hresult hversion
        rw [hprinted]
        rfl
      · next hversion => exact main_of_options hout herr hresult hversion
  · intro values hresult
    dsimp only
    refine ⟨fun hversion => ?_, fun items hitems => ?_⟩
    · have hprinted : r = _ := main_of_version hout hresult hversion
      rw [hprinted]
    · rcases (options_read hresult).store with ⟨target, hstore⟩ | ⟨-, hdashed⟩
      · rw [hitems] at hstore
        cases hstore
      · exact hdashed

/-- the version is asked for, and everything else is missing or wrong -/
theorem main_verdict_version :
    let call : Invocation :=
      { args := .list [.text "--store=--", .text "--log-level=loud", .text "-v"] }
    relayed.console.out.Healthy ∧ relayed.console.err.Healthy ∧
    (relayed.main call).1.map (fun _ => ()) = .error (.exit 0) ∧
    (relayed.main call).2.console.out.text = Version.current ++ "\n" ∧
    (relayed.main call).2.console.logger = relayed.console.logger := by
  intro call
  let words := ["--store=--", "--log-level=loud", "-v"]
  have hread : (parser.read (words.map .text)).result.toOption.map
      (fun values => (Options.ofValues values).version.truthy) = some true := by decide +kernel
  obtain ⟨values, hvalues, hversion⟩ := Option.map_eq_some_iff.mp hread
  have hresult : (parser.read (words.map .text)).result = .ok values := ok_of_toOption hvalues
  obtain ⟨hending, hprinted⟩ := main_verdict relayed words ⟨rfl, rfl⟩ ⟨rfl, rfl⟩
  have hverdict : relayed.verdict words = .error (.exit 0) := by
    unfold verdict
    rw [hresult]
    exact if_pos hversion
  have hversioned : (relayed.main call).2 = relayed.versioned :=
    (hprinted values hresult).1 hversion
  rw [hversioned]
  exact ⟨⟨rfl, rfl⟩, ⟨rfl, rfl⟩, hending.trans hverdict, rfl, rfl⟩

/-- what a bare double dash leaves of the store is no name, and no fault of the log -/
theorem main_verdict_dashed :
    ¬ ∀ (p : ProcessState) (words : List String), p.console.out.Healthy → p.console.err.Healthy →
      ∀ f, (p.main { args := .list (words.map .text) }).1 = .error (.fault f) →
        ∃ e, f = .log e := by
  intro h
  have hfault : (match (relayed.main { args := .list [.text "--store=--", .text "h:1"] }).1 with
      | .error (.fault (.misuse _)) => true
      | _ => false) = true := by decide +kernel
  split at hfault
  · next m hmain =>
    obtain ⟨e, he⟩ := h relayed ["--store=--", "h:1"] ⟨rfl, rfl⟩ ⟨rfl, rfl⟩ _ hmain
    cases he
  · cases hfault

end ProcessState

end Program

end ProxyInjector
