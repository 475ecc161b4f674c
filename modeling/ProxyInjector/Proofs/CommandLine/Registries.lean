import ProxyInjector.CommandLine.Registry
import ProxyInjector.Proofs.CommandLine.Objects

/-!
# Registries in use

A registry is used step by step: flags are registered, and command lines are read.  What a flag does
that is rejected cannot be seen later: without the rejected registrations the same steps come to
the same.  What is recorded are the flags that were accepted, and what is remembered is the last
command line that was read, however many were rejected since.

* `Registry.Step`, `Registry.run`   the steps, and what each of them comes to;
* `register_eq_ok_iff`              which flags a parser accepts;
* `register_cases`, `read_cases`    what a step can do to a registry;
* `run_kept`                        a run without its rejected registrations;
* `run_distinct`                    no two flags share a name;
* `run_atomic`                      the whole, for a registry that starts with no flags.
-/

namespace ProxyInjector.CommandLine

namespace Parser

/-! ## parsers that flags are added to -/

variable {p q : Parser}

theorem add_eq_ok_iff {f : Flag} :
    p.add f = .ok q ↔
      (∀ n ∈ f.names, p.option? n = none) ∧ q = { p with flags := p.flags ++ [f] } := by
  have hfree : (f.names.filter fun n => (p.option? n).isSome) = [] ↔
      ∀ n ∈ f.names, p.option? n = none := by
    simp [List.filter_eq_nil_iff]
  rw [← hfree]
  unfold add
  split
  · next h => simp only [h, true_and, Except.ok.injEq, eq_comm]
  · next h => exact iff_of_false (fun heq => by cases heq) fun hq => h hq.1

/-- flags are accepted if their settings make a flag and no other flag has a name of it; then they
stand behind the others -/
theorem register_eq_ok_iff {names : List Value} {settings : Settings} {target : Value} :
    p.register names settings = .ok (q, target) ↔
      ∃ f, Flag.ofSettings names settings = .ok f ∧ (∀ n ∈ f.names, p.option? n = none) ∧
        q = { p with flags := p.flags ++ [f] } ∧ target = f.recorded := by
  unfold register
  cases hf : Flag.ofSettings names settings with
  | error e =>
    refine iff_of_false (fun h => by cases h) ?_
    rintro ⟨f, h, -⟩
    cases h
  | ok f =>
    constructor
    · intro h
      cases hadd : p.add f with
      | error e =>
        simp only [bind, Except.bind, hadd] at h
        cases h
      | ok q' =>
        simp only [bind, Except.bind, hadd] at h
        cases h
        exact ⟨f, rfl, (add_eq_ok_iff.mp hadd).1, (add_eq_ok_iff.mp hadd).2, rfl⟩
    · rintro ⟨g, hg, hfree, rfl, rfl⟩
      cases hg
      simp only [bind, Except.bind, add_eq_ok_iff.mpr ⟨hfree, rfl⟩]
      rfl

/-- no two flags share a name -/
def Distinct (p : Parser) : Prop := (p.flags.map Flag.names).Pairwise List.Disjoint

theorem option?_ne_none {f : Known} (hf : f ∈ p.flags.zipIdx) {name : String}
    (hname : name ∈ f.1.names) : p.option? name ≠ none := by
  have hoption : (name, f) ∈ p.options :=
    List.mem_flatMap.mpr ⟨f, hf, List.mem_map.mpr ⟨name, List.mem_eraseDups.mpr hname, rfl⟩⟩
  intro h
  have hnone := List.find?_eq_none.mp (Option.map_eq_none_iff.mp h) _ hoption
  exact hnone (beq_self_eq_true name)

theorem Distinct.not_lt (hp : p.Distinct) {f g : Known} (hf : f ∈ p.flags.zipIdx)
    (hg : g ∈ p.flags.zipIdx) {name : String} (hfname : name ∈ f.1.names)
    (hgname : name ∈ g.1.names) : ¬ f.2 < g.2 := by
  intro hlt
  obtain ⟨hflength, hfeq⟩ := List.mem_zipIdx' hf
  obtain ⟨hglength, hgeq⟩ := List.mem_zipIdx' hg
  have hdisjoint := List.pairwise_iff_getElem.mp (List.pairwise_map.mp hp) _ _ hflength hglength hlt
  rw [hfeq] at hfname
  rw [hgeq] at hgname
  exact hdisjoint hfname hgname

/-- a name means the flag that has it -/
theorem Distinct.option?_eq (hp : p.Distinct) {f : Known} (hf : f ∈ p.flags.zipIdx) {name : String}
    (hname : name ∈ f.1.names) : p.option? name = some f := by
  cases hoption : p.option? name with
  | none => exact absurd hoption (option?_ne_none hf hname)
  | some g =>
    obtain ⟨hg, hgname⟩ := option?_known hoption
    have hplace : g.2 = f.2 := Nat.le_antisymm (Nat.not_lt.mp (hp.not_lt hf hg hname hgname))
      (Nat.not_lt.mp (hp.not_lt hg hf hgname hname))
    have hflag : some g.1 = some f.1 :=
      calc some g.1 = p.flags[g.2]? := (List.mem_zipIdx_iff_getElem?.mp hg).symm
        _ = p.flags[f.2]? := by rw [hplace]
        _ = some f.1 := List.mem_zipIdx_iff_getElem?.mp hf
    exact congrArg some (Prod.ext (Option.some.inj hflag) hplace)

theorem Distinct.register (hp : p.Distinct) {names : List Value} {settings : Settings}
    {target : Value} (h : p.register names settings = .ok (q, target)) : q.Distinct := by
  obtain ⟨f, -, hfree, rfl, -⟩ := register_eq_ok_iff.mp h
  unfold Distinct
  rw [List.map_append]
  refine List.pairwise_append.mpr ⟨hp, List.pairwise_singleton .., ?_⟩
  intro ns hns ms hms n hn hm
  obtain ⟨g, hg, rfl⟩ := List.mem_map.mp hns
  cases List.mem_singleton.mp hms
  obtain ⟨place, hplace⟩ := List.mem_iff_getElem?.mp hg
  exact option?_ne_none (f := (g, place)) (List.mk_mem_zipIdx_iff_getElem?.mpr hplace) hn (hfree n hm)

end Parser

/-- what is remembered stands for the values: it is these, or else an object of a flag, which takes
a flag that is set in the place of the whole table -/
def Remembered.StandsFor (targets : List Value) (vs : Parser.Values) : Remembered → Prop
  | .values vs' => vs' = vs
  | .object _ => .text tableTarget ∈ targets

theorem Remembered.StandsFor.mono {targets further : List Value} {vs : Parser.Values}
    {m : Remembered} (h : m.StandsFor targets vs) : m.StandsFor (targets ++ further) vs := by
  cases m with
  | values vs' => exact h
  | object o => exact List.mem_append_left further h

namespace Registry

/-! ## steps -/

/-- a registry before anything is registered -/
def new (program description : String) : Registry := { parser := .new program description }

inductive Step where
  | register (names : List Value) (settings : Settings)
  | read (words : Value)

/-- what a step comes to -/
inductive Outcome where
  | registered (result : Except RegistrationError Value)
  | read (result : Except Ending Parser.Values)

namespace Outcome

def isRejected : Outcome → Bool
  | .registered result => !result.isOk
  | .read _ => false

/-- the target of a flag that was accepted -/
def target? : Outcome → Option Value
  | .registered result => result.toOption
  | .read _ => none

/-- the values of a command line that was read -/
def values? : Outcome → Option Parser.Values
  | .registered _ => none
  | .read result => result.toOption

end Outcome

/-- what can be seen after a step -/
structure Answer where
  outcome : Outcome
  console : Console
  /-- what is remembered, and the values that it has by now -/
  remembered : Option Remembered
  values : Option Parser.Values

abbrev Transcript := List (Step × Answer)

namespace Transcript

/-- without the registrations that were rejected -/
def kept (t : Transcript) : Transcript := t.filter fun e => !e.2.outcome.isRejected

/-- the targets of the flags that were accepted -/
def targets (t : Transcript) : List Value := t.filterMap fun e => e.2.outcome.target?

/-- the answer to the last command line that was read -/
def lastRead? (t : Transcript) : Option Answer :=
  ((t.map (·.2)).filter fun a => a.outcome.values?.isSome).getLast?

section
variable (e : Step × Answer) (t : Transcript)

theorem kept_cons :
    kept (e :: t) = if e.2.outcome.isRejected then t.kept else e :: t.kept := by
  rw [kept, List.filter_cons]
  cases e.2.outcome.isRejected <;> rfl

theorem targets_cons : targets (e :: t) = e.2.outcome.target?.toList ++ t.targets := by
  rw [targets, List.filterMap_cons]
  cases e.2.outcome.target? <;> rfl

theorem lastRead?_cons : lastRead? (e :: t) =
    t.lastRead?.or (if e.2.outcome.values?.isSome then some e.2 else none) := by
  rw [lastRead?, List.map_cons, List.filter_cons]
  split
  · rw [List.getLast?_cons, ← lastRead?]
    cases t.lastRead? <;> rfl
  · exact (Option.or_none).symm

end

end Transcript

def perform (r : Registry) (c : Console) : Step → Outcome × Registry × Console
  | .register names settings =>
    let x := r.register names settings
    (.registered x.1, x.2, c)
  | .read words =>
    let x := r.read words c
    (.read x.1, x.2)

/-- the registry and the console after some steps, and what each of the steps came to -/
structure Run where
  registry : Registry
  console : Console
  transcript : Transcript := []

def run (r : Registry) (c : Console) : List Step → Run
  | [] => { registry := r, console := c }
  | step :: steps =>
    let (outcome, r, c) := r.perform c step
    let rest := r.run c steps
    { rest with transcript := (step, ⟨outcome, c, r.remembered, r.values?⟩) :: rest.transcript }

/-! ## what a step can do -/

/-- the flags are recorded in order, except for the one that asks for help -/
def Listed (r : Registry) : Prop :=
  r.parser.flags.map Flag.recorded = .text Parser.helpFlag.target :: r.targets

/-- a registration is rejected and does nothing, or a flag is added and recorded -/
theorem register_cases (r : Registry) (names : List Value) (settings : Settings) :
    (∃ e, r.register names settings = (.error e, r)) ∨
    ∃ f, r.register names settings = (.ok f.recorded,
      { r with parser.flags := r.parser.flags ++ [f], targets := r.targets ++ [f.recorded] }) := by
  unfold register
  cases hparser : r.parser.register names settings with
  | error e => exact .inl ⟨e, rfl⟩
  | ok x =>
    obtain ⟨q, target⟩ := x
    obtain ⟨f, -, -, rfl, rfl⟩ := Parser.register_eq_ok_iff.mp hparser
    exact .inr ⟨f, rfl⟩

/-- a command line changes none of the names; only one that is read is remembered -/
theorem read_cases {r : Registry} (hr : r.Listed) (words : Value) (c : Console) :
    let x := r.read words c
    x.2.1.Listed ∧ x.2.1.targets = r.targets ∧
      ((∃ e, x.1 = .error e ∧ x.2.1.remembered = r.remembered) ∨
        ∃ vs m, x.1 = .ok vs ∧ x.2.1.remembered = some m ∧ x.2.1.values? = some vs ∧
          m.StandsFor r.targets vs) := by
  unfold read
  cases Parser.wordsOf words with
  | error u => exact ⟨hr, rfl, .inl ⟨_, rfl, rfl⟩⟩
  | ok words =>
    have hlisted : (r.parser.read words).after.flags.map Flag.recorded =
        .text Parser.helpFlag.target :: r.targets := (Parser.read_recorded ..).trans hr
    dsimp only
    cases hresult : (r.parser.read words).result with
    | error h => exact ⟨hlisted, rfl, .inl ⟨_, rfl, rfl⟩⟩
    | ok vs =>
      refine ⟨hlisted, rfl, .inr ?_⟩
      cases howner : (r.parser.read words).owner with
      | none => exact ⟨vs, .values vs, rfl, rfl, rfl, rfl⟩
      | some o =>
        obtain ⟨hfields, htable⟩ := Parser.read_owner hresult howner
        rw [hr] at htable
        have hne : Value.text tableTarget ≠ .text Parser.helpFlag.target := by
          intro h
          injection h
          contradiction
        have htable : .text tableTarget ∈ r.targets := (List.mem_cons.mp htable).resolve_left hne
        exact ⟨vs, .object o, rfl, rfl, congrArg some hfields, htable⟩

section
variable {r r' : Registry} {c c' : Console} {step : Step} {outcome : Outcome}

theorem perform_rejected (hstep : r.perform c step = (outcome, r', c'))
    (h : outcome.isRejected = true) : r' = r ∧ c' = c := by
  cases step with
  | register names settings =>
    obtain ⟨e, hregister⟩ | ⟨f, hregister⟩ := r.register_cases names settings
    · rw [perform, hregister] at hstep
      cases hstep
      exact ⟨rfl, rfl⟩
    · rw [perform, hregister] at hstep
      cases hstep
      cases h
  | read words =>
    obtain ⟨rfl, -⟩ := Prod.mk.inj hstep
    cases h

/-- what a step adds to the targets, and what it leaves to be remembered -/
theorem perform_cases (hr : r.Listed) (hstep : r.perform c step = (outcome, r', c')) :
    r'.Listed ∧ r'.targets = r.targets ++ outcome.target?.toList ∧
      ((outcome.values? = none ∧ r'.remembered = r.remembered) ∨
        ∃ vs m, outcome.values? = some vs ∧ r'.remembered = some m ∧ r'.values? = some vs ∧
          m.StandsFor r'.targets vs) := by
  cases step with
  | register names settings =>
    obtain ⟨e, hregister⟩ | ⟨f, hregister⟩ := r.register_cases names settings
    · rw [perform, hregister] at hstep
      cases hstep
      exact ⟨hr, (List.append_nil _).symm, .inl ⟨rfl, rfl⟩⟩
    · rw [perform, hregister] at hstep
      cases hstep
      have hlisted : (r.parser.flags ++ [f]).map Flag.recorded =
          .text Parser.helpFlag.target :: (r.targets ++ [f.recorded]) := by
        rw [List.map_append, show r.parser.flags.map Flag.recorded = _ from hr]
        rfl
      exact ⟨hlisted, rfl, .inl ⟨rfl, rfl⟩⟩
  | read words =>
    obtain ⟨rfl, hafter⟩ := Prod.mk.inj hstep
    obtain ⟨hlisted, htargets, hread⟩ := read_cases hr words c
    rw [hafter] at hlisted htargets hread
    refine ⟨hlisted, htargets.trans (List.append_nil _).symm, ?_⟩
    obtain ⟨e, herror, hremembered⟩ | ⟨vs, m, hok, hremembered⟩ := hread
    · exact .inl ⟨by rw [herror]; rfl, hremembered⟩
    · rw [← htargets] at hremembered
      exact .inr ⟨vs, m, by rw [hok]; rfl, hremembered⟩

theorem perform_distinct (hr : r.parser.Distinct) (hstep : r.perform c step = (outcome, r', c')) :
    r'.parser.Distinct := by
  cases step with
  | register names settings =>
    obtain ⟨-, hafter⟩ := Prod.mk.inj hstep
    obtain ⟨rfl, -⟩ := Prod.mk.inj hafter
    unfold register
    cases hparser : r.parser.register names settings with
    | error e => exact hr
    | ok x => exact hr.register hparser
  | read words =>
    obtain ⟨-, hafter⟩ := Prod.mk.inj hstep
    have hparser : r'.parser = (r.read words c).2.1.parser := by rw [hafter]
    rw [hparser]
    unfold read
    cases Parser.wordsOf words with
    | error u => exact hr
    | ok words =>
      have hnames : (r.parser.read words).after.Distinct := by
        rw [Parser.Distinct, Parser.read_names]
        exact hr
      dsimp only
      cases (r.parser.read words).result with
      | error h => exact hnames
      | ok vs => exact hnames

end

/-! ## what steps can do -/

theorem run_cons {r r' : Registry} {c c' : Console} {step : Step} {outcome : Outcome}
    (hstep : r.perform c step = (outcome, r', c')) (steps : List Step) :
    r.run c (step :: steps) =
      { r'.run c' steps with
        transcript :=
          (step, ⟨outcome, c', r'.remembered, r'.values?⟩) :: (r'.run c' steps).transcript } := by
  rw [run, hstep]

/-- the steps of a run without the rejected registrations come to what is left of the transcript -/
theorem run_kept (r : Registry) (c : Console) (steps : List Step) :
    let done := r.run c steps
    r.run c (done.transcript.kept.map (·.1)) = { done with transcript := done.transcript.kept } := by
  induction steps generalizing r c with
  | nil => rfl
  | cons step steps ih =>
    rcases hstep : r.perform c step with ⟨outcome, r', c'⟩
    rw [run_cons hstep]
    cases hrejected : outcome.isRejected with
    | true =>
      obtain ⟨rfl, rfl⟩ := perform_rejected hstep hrejected
      simp only [Transcript.kept_cons, hrejected, if_true]
      exact ih r' c'
    | false =>
      simp only [Transcript.kept_cons, hrejected, Bool.false_eq_true, if_false, List.map_cons]
      rw [run_cons hstep, ih r' c']

/-- every flag of the registry but the one for help was accepted, and is recorded -/
theorem run_targets {r : Registry} (hr : r.Listed) (c : Console) (steps : List Step) :
    let done := r.run c steps
    done.registry.Listed ∧ done.registry.targets = r.targets ++ done.transcript.targets := by
  induction steps generalizing r c with
  | nil => exact ⟨hr, (List.append_nil _).symm⟩
  | cons step steps ih =>
    rcases hstep : r.perform c step with ⟨outcome, r', c'⟩
    obtain ⟨hlisted, htargets, -⟩ := perform_cases hr hstep
    obtain ⟨hdone, hrest⟩ := ih hlisted c'
    rw [run_cons hstep]
    refine ⟨hdone, hrest.trans ?_⟩
    rw [htargets, List.append_assoc, Transcript.targets_cons]

/-- what is remembered is what was remembered when a command line was last read -/
theorem run_remembered {r : Registry} (hr : r.Listed) (c : Console) (steps : List Step) :
    let done := r.run c steps
    done.registry.remembered =
      (done.transcript.lastRead?.map (·.remembered)).getD r.remembered := by
  induction steps generalizing r c with
  | nil => rfl
  | cons step steps ih =>
    rcases hstep : r.perform c step with ⟨outcome, r', c'⟩
    obtain ⟨hlisted, -, hread⟩ := perform_cases hr hstep
    rw [run_cons hstep]
    refine (ih hlisted c').trans ?_
    rw [Transcript.lastRead?_cons]
    cases (r'.run c' steps).transcript.lastRead? with
    | some a => rfl
    | none =>
      obtain ⟨hnone, hsame⟩ | ⟨vs, m, hvs, -⟩ := hread
      · simp only [hnone, hsame]
        rfl
      · simp only [hvs]
        rfl

/-- right after a command line is read its values are remembered -/
theorem run_standsFor {r : Registry} (hr : r.Listed) (c : Console) (steps : List Step) :
    let done := r.run c steps
    ∀ e ∈ done.transcript, ∀ vs, e.2.outcome.values? = some vs → e.2.values = some vs ∧
      ∃ m, e.2.remembered = some m ∧ m.StandsFor done.registry.targets vs := by
  induction steps generalizing r c with
  | nil =>
    intro done e he
    cases he
  | cons step steps ih =>
    rcases hstep : r.perform c step with ⟨outcome, r', c'⟩
    obtain ⟨hlisted, -, hread⟩ := perform_cases hr hstep
    rw [run_cons hstep]
    refine List.forall_mem_cons.mpr ⟨fun vs hvs => ?_, ih hlisted c'⟩
    obtain ⟨hnone, -⟩ | ⟨vs', m, hvs', hremembered, hvalues, hm⟩ := hread
    · cases hnone.symm.trans hvs
    · cases hvs'.symm.trans hvs
      refine ⟨hvalues, m, hremembered, ?_⟩
      rw [(run_targets hlisted c' steps).2]
      exact hm.mono

/-- no registration takes a name from another flag -/
theorem run_distinct {r : Registry} (hr : r.parser.Distinct) (c : Console) (steps : List Step) :
    (r.run c steps).registry.parser.Distinct := by
  induction steps generalizing r c with
  | nil => exact hr
  | cons step steps ih =>
    rcases hstep : r.perform c step with ⟨outcome, r', c'⟩
    rw [run_cons hstep]
    exact ih (perform_distinct hr hstep) c'

/-- **A rejected registration leaves no trace.**  In a run of registrations and command lines, in
any order, from a registry without flags:

* the steps that are left without the rejected registrations come to the same, each with the same
  outcome, console and values, and to the same registry in the end;
* the targets of the accepted flags are recorded in order, and the parser has these flags and the
  one for help, each under all of its names;
* nothing is remembered, or what the last command line that was read came to.  These are its values,
  unless a flag is set in the place of the whole table: then they may be an object of a flag. -/
theorem run_atomic (program description : String) (c : Console) (steps : List Step) :
    let done := (new program description).run c steps
    (new program description).run c (done.transcript.kept.map (·.1)) =
        { done with transcript := done.transcript.kept } ∧
      done.registry.targets = done.transcript.targets ∧
      done.registry.parser.flags.map Flag.recorded =
        .text Parser.helpFlag.target :: done.registry.targets ∧
      (∀ f ∈ done.registry.parser.flags.zipIdx, ∀ name ∈ f.1.names,
        done.registry.parser.option? name = some f) ∧
      done.registry.remembered = done.transcript.lastRead?.bind (·.remembered) ∧
      ∀ e ∈ done.transcript, ∀ vs, e.2.outcome.values? = some vs → e.2.values = some vs ∧
        ∃ m, e.2.remembered = some m ∧ m.StandsFor done.registry.targets vs := by
  intro done
  have hnew : (new program description).Listed := rfl
  have hhelp : (new program description).parser.Distinct := List.pairwise_singleton ..
  obtain ⟨hlisted, htargets⟩ := run_targets hnew c steps
  have hdistinct : done.registry.parser.Distinct := run_distinct hhelp c steps
  have hremembered := run_remembered hnew c steps
  refine ⟨run_kept _ c steps, htargets, hlisted, fun f hf name hname => ?_, ?_,
    run_standsFor hnew c steps⟩
  · exact hdistinct.option?_eq hf hname
  · rw [hremembered]
    cases done.transcript.lastRead? <;> rfl

end Registry

end ProxyInjector.CommandLine
