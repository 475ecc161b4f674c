import ProxyInjector.Proofs.Injection.Outcome

/-!
# One kind of store in the place of another

A session asks its store for a value, for all entries, or to take an entry.  Stores of different
kinds that hold the same entries answer the first two alike, and differ in the third only by what
they refuse and by where in the program they record it.  As long as nothing is refused, and no
handler writes down that place, sessions over them cannot be told apart.

* `Environment.Fits`       the variables that an environment does not refuse;
* `Console.Blind`          no handler writes down where a write was recorded;
* `Alike`                  two sessions with the same entries and the same console, neither of which
                           refuses any of certain entries;
* `Alike.perform`          a step that writes such entries only does the same to both, and
                           `Alike.trace` the same for any number of steps;
* `trace_interchangeable`  so properties and a mapping can always stand for each other, and an
                           environment for both where all that is written fits into it.
-/

namespace ProxyInjector

/-! ## what an environment takes -/

/-- a variable with a name that is not empty and has no equals sign, and no NUL anywhere -/
def Environment.Fits (v : String × String) : Prop :=
  v.1 ≠ "" ∧ '=' ∉ v.1.toList ∧ '\x00' ∉ v.1.toList ∧ '\x00' ∉ v.2.toList

theorem Environment.hasNull_iff {s : String} : hasNull s = true ↔ '\x00' ∈ s.toList := by
  rw [hasNull, List.contains_iff_mem]

theorem Store.refusal?_environment_eq_none_iff {contents : Environment} {e : String × String} :
    (Store.environment contents).refusal? e = none ↔ Environment.Fits e := by
  have hcheck : (Store.environment contents).refusal? e = none
      ↔ ∃ v, Environment.check (.text e.1) (.text e.2) = .ok v := by
    rw [refusal?]
    cases Environment.check (.text e.1) (.text e.2) with
    | ok v => simp
    | error x => simp
  rw [hcheck, Environment.check, Environment.Fits]
  by_cases hnull : Environment.hasNull e.1 || Environment.hasNull e.2
  · have hmem := hnull
    rw [Bool.or_eq_true, Environment.hasNull_iff, Environment.hasNull_iff] at hmem
    simp only [hnull, if_true, reduceCtorEq, exists_false, false_iff]
    exact fun h => hmem.elim h.2.2.1 h.2.2.2
  · have hmem := hnull
    rw [Bool.or_eq_true, Environment.hasNull_iff, Environment.hasNull_iff, not_or] at hmem
    simp only [hnull, Bool.false_eq_true, if_false, hmem, not_false_eq_true, and_true]
    by_cases hequals : '=' ∈ e.1.toList
    · simp [hequals]
    · by_cases hempty : e.1 = "" <;> simp [hequals, hempty]

namespace Store

variable {s t : Store}

theorem lookup_congr (h : s.entries = t.entries) : s.lookup = t.lookup := by
  funext key
  rw [lookup_eq, lookup_eq, h]

theorem proxies_congr (h : s.entries = t.entries) : s.proxies = t.proxies := by
  simp only [proxies, proxyOf?, lookup_congr h]

theorem exemptHosts_congr (h : s.entries = t.entries) : s.exemptHosts = t.exemptHosts := by
  simp only [exemptHosts, lookup_congr h]

/-- reading a text under a default is reading the entries -/
theorem get_text (s : Store) (key : String) (default : Value) :
    s.get (.text key) default = .ok ((s.entries.get? (.text key)).getD default) := by
  cases s with
  | properties t frozen => rfl
  | mapping t => rfl
  | environment contents =>
    show _ = Except.ok ((Table.get? contents.table (.text key)).getD default)
    rw [Environment.get?_table]
    rfl

end Store

/-! ## where a write is recorded -/

namespace Console

/-- what handlers write of a write is the same in both places where it can be recorded -/
def Blind (c : Console) : Prop :=
  ∀ h ∈ c.logger.handlers, h.sink ≠ .nothing → ∀ key value,
    let r := Store.writeRecord key value
    r.render? (c.manner.stamp .properties r) h.template
      = r.render? (c.manner.stamp .variables r) h.template

variable {c : Console}

theorem Blind.of_mute (h : c.logger.Mute) : c.Blind := fun k hk hsink => absurd (h k hk) hsink

theorem Blind.emit (h : c.Blind) (r : Log.Record) (site : Log.Site) : (c.emit r site).Blind := by
  obtain ⟨err, directory, hemit⟩ := c.emit_eq r site
  rw [hemit]
  intro k hk hsink
  -- sinks and templates are those from before
  have hmem := List.mem_map_of_mem (f := Log.Handler.bare) hk
  dsimp only at hmem
  rw [Log.LoggerState.map_bare_heard] at hmem
  obtain ⟨j, hj, hjk⟩ := List.mem_map.mp hmem
  obtain ⟨hsame, htemplate, -⟩ := Log.Handler.mk.inj hjk
  have hrender := h j hj (by rwa [hsame])
  rwa [htemplate] at hrender

theorem Blind.emit_write (h : c.Blind) (s t : Store) (key value : Value) :
    c.emit (Store.writeRecord key value) s.site = c.emit (Store.writeRecord key value) t.site := by
  have hplaces : c.emit (Store.writeRecord key value) .properties
      = c.emit (Store.writeRecord key value) .variables :=
    emit_congr (Session.quiet_writeRecord key value) fun k hk hsink => h k hk hsink key value
  cases s <;> cases t <;> first | rfl | exact hplaces | exact hplaces.symm

end Console

namespace Session

open Injection

theorem blind_calls {s : Session} (h : s.console.Blind) (cs : List Call) :
    (s.calls cs).console.Blind :=
  calls_keeps (P := Console.Blind) (fun _ r site hc => hc.emit r site) (fun _ _ hc => hc)
    (fun _ _ hc => hc) h cs

/-! ## sessions over either store -/

/-- two sessions that look the same and refuse none of the entries that fit -/
structure Alike (fits : String × String → Prop) (s t : Session) : Prop where
  entries : s.store.entries = t.store.entries
  console : s.console = t.console
  blind : s.console.Blind
  standard : s.standard? = t.standard?
  takes : ∀ n e, fits e → s.faultAt? n e = none ∧ t.faultAt? n e = none

/-- the same outcome, with sessions that are alike -/
def Agree (fits : String × String → Prop) {α : Type} (x y : α × Session) : Prop :=
  ∃ a s t, x = (a, s) ∧ y = (a, t) ∧ Alike fits s t

namespace Alike

variable {fits : String × String → Prop} {s t : Session}

theorem call (h : Alike fits s t) {c : Call} (hc : ∀ e ∈ Call.sets [c], fits e) :
    Alike fits (s.call c) (t.call c) := by
  have hseen : (s.call c).store.entries = (t.call c).store.entries ∧
      (s.call c).console = (t.call c).console := by
    cases c with
    | set e =>
      have he := hc e List.mem_cons_self
      rw [call_set_of_clear (h.takes s.writes e he).1, call_set_of_clear (h.takes t.writes e he).2]
      simp only [Store.entries_write, h.entries, ← h.console, true_and]
      exact h.blind.emit_write s.store t.store _ _
    | say line => simp only [Session.call, report_eq, h.entries, h.console, and_self]
    | complain line => simp only [Session.call, reportTrouble_eq, h.entries, h.console, and_self]
    | note r => simp only [Session.call, emit, h.entries, h.console, and_self]
  refine ⟨hseen.1, hseen.2, blind_calls h.blind [c], ?_, ?_⟩
  · exact (s.standard?_calls [c]).trans (h.standard.trans (t.standard?_calls [c]).symm)
  · rw [faultAt?_call, faultAt?_call]
    exact h.takes

theorem calls (h : Alike fits s t) {cs : List Call} (hcs : ∀ e ∈ Call.sets cs, fits e) :
    Alike fits (s.calls cs) (t.calls cs) := by
  induction cs generalizing s t with
  | nil => exact h
  | cons c cs ih =>
    have hsplit : ∀ e ∈ Call.sets [c] ++ Call.sets cs, fits e := by
      rwa [← Call.sets_append]
    obtain ⟨hc, hcs⟩ := List.forall_mem_append.mp hsplit
    exact ih (h.call hc) hcs

theorem report (h : Alike fits s t) (line : String) :
    Agree fits (s.report line) (t.report line) := by
  have hresult : (t.report line).1 = (s.report line).1 := by
    rw [report_eq, report_eq, h.console]
  exact ⟨(s.report line).1, (s.report line).2, (t.report line).2, rfl, Prod.ext hresult rfl,
    h.call (c := .say line) (by simp)⟩

theorem reportFailure (h : Alike fits s t) (reason : Value) :
    Alike fits (s.reportFailure reason) (t.reportFailure reason) := by
  rw [reportFailure_eq, reportFailure_eq, ← h.console]
  refine h.calls fun e he => ?_
  rw [Call.sets_cons, Call.sets_map_note] at he
  cases he

/-- neither store refuses any of the entries, so that both take all of them -/
theorem cut (h : Alike fits s t) {es : List (String × String)} (hes : ∀ e ∈ es, fits e) :
    s.Cut es es [] ∧ t.Cut es es [] := by
  have hmem : ∀ n, ∀ x ∈ es.zipIdx n, fits x.1 := fun n x hx =>
    hes x.1 (List.fst_mem_of_mem_zipIdx hx)
  exact ⟨⟨(List.append_nil es).symm, fun x hx => (h.takes x.2 x.1 (hmem _ x hx)).1, by simp⟩,
    ⟨(List.append_nil es).symm, fun x hx => (h.takes x.2 x.1 (hmem _ x hx)).2, by simp⟩⟩

theorem inject (h : Alike fits s t) {raw : Value}
    (hraw : ∀ d, raw.descriptor? = some d → ∀ e ∈ d.entries, fits e) :
    Agree fits (s.inject raw) (t.inject raw) := by
  cases raw with
  | text text =>
    cases hd : Descriptor.parse? text with
    | none =>
      simp only [Session.inject, Value.asText, hd]
      exact ⟨_, _, _, rfl, rfl, h.call (c := .note _) (by simp)⟩
    | some d =>
      have hfits := hraw d hd
      obtain ⟨hs, ht⟩ := h.cut hfits
      exact ⟨_, _, _, inject_of_cut_nil hd hs, inject_of_cut_nil hd ht,
        h.calls (by simpa using hfits)⟩
  | _ => exact ⟨_, _, _, rfl, rfl, h.call (c := .note _) (by simp)⟩

theorem apply (h : Alike fits s t) {raw : Value}
    (hraw : ∀ d, raw.descriptor? = some d → ∀ e ∈ d.entries, fits e) :
    Agree fits (s.apply raw) (t.apply raw) := by
  unfold Session.apply
  obtain ⟨i, s', t', hs, ht, h'⟩ := h.inject hraw
  rw [hs, ht]
  cases i with
  | skipped => exact ⟨_, _, _, rfl, rfl, h'⟩
  | failed d reason => exact ⟨_, _, _, rfl, rfl, h'.reportFailure _⟩
  | done d =>
    obtain ⟨result, s'', t'', hs', ht', h''⟩ := h'.report (successLine d)
    simp only [hs', ht']
    cases result with
    | ok => exact ⟨_, _, _, rfl, rfl, h''⟩
    | error f =>
      have hnote : Alike fits (s''.emit (unreportedRecord f)) (t''.emit (unreportedRecord f)) :=
        h''.call (c := .note _) (by simp)
      exact ⟨_, _, _, rfl, rfl, hnote.reportFailure _⟩

/-- an injection into the standard store is one into the same store for both -/
theorem applyStandard (h : Alike fits s t) {raw : Value}
    (hraw : ∀ d, raw.descriptor? = some d → ∀ e ∈ d.entries, fits e) :
    Agree fits (s.applyStandard raw) (t.applyStandard raw) := by
  unfold Session.applyStandard
  rw [← h.standard]
  cases s.standard? with
  | none => exact h.apply hraw
  | some store =>
    obtain ⟨i, cs, haccount⟩ := exists_account { store, console := s.console } raw
    dsimp only
    rw [← h.console, haccount.outcome]
    refine ⟨i, _, _, rfl, rfl, ?_⟩
    exact ⟨h.entries, rfl, blind_calls (s := { store, console := s.console }) h.blind cs, rfl,
      h.takes⟩

end Alike

/-! ## steps -/

namespace Step

/-- the entries that the step asks the store to take -/
def entries : Step → List (String × String)
  | .apply raw | .inject raw | .applyOnce raw _ => raw.descriptor?.elim [] Descriptor.entries
  | .set (.text key) (.text value) => [(key, value)]
  | _ => []

/-- a step that every kind of store knows, with texts for keys and for the values under them -/
def IsTextual : Step → Prop
  | .set key value => key.isText ∧ value.isText
  | .get key _ => key.isText
  | .clear | .freeze _ | .route _ => False
  | _ => True

end Step

/-- the answer, apart from the environment that an opener will find itself in -/
def Answer.unplaced : Answer → Answer
  | .opener o => .opener { o with environment := [] }
  | answer => answer

/-- what is seen of a step: its outcome, the console with all texts and records, and a copy of the
store's entries -/
def seen (x : Except Fault Answer × Session) : Except Fault Answer × Console × Table :=
  (x.1.map Answer.unplaced, x.2.console, x.2.store.entries)

namespace Alike

variable {fits : String × String → Prop} {s t : Session}

theorem seen_eq (h : Alike fits s t) {x y : Except Fault Answer}
    (hxy : x.map Answer.unplaced = y.map Answer.unplaced) : seen (x, s) = seen (y, t) := by
  rw [seen, seen, hxy, h.console, h.entries]

/-- **One step** is seen to do the same to both sessions, and leaves them alike. -/
theorem perform (h : Alike fits s t) {step : Step} (htext : step.IsTextual)
    (hstep : ∀ e ∈ step.entries, fits e) :
    seen (s.perform step) = seen (t.perform step) ∧
      Alike fits (s.perform step).2 (t.perform step).2 := by
  have hraw {raw : Value} (hes : ∀ e ∈ raw.descriptor?.elim [] Descriptor.entries, fits e) :
      ∀ d, raw.descriptor? = some d → ∀ e ∈ d.entries, fits e := by
    intro d hd
    rwa [hd] at hes
  cases step with
  | apply raw =>
    obtain ⟨i, s', t', hs, ht, h'⟩ := h.apply (hraw hstep)
    simp only [Session.perform, hs, ht]
    exact ⟨h'.seen_eq rfl, h'⟩
  | inject raw =>
    obtain ⟨i, s', t', hs, ht, h'⟩ := h.inject (hraw hstep)
    simp only [Session.perform, hs, ht]
    exact ⟨h'.seen_eq rfl, h'⟩
  | applyOnce raw given =>
    cases given with
    | true =>
      obtain ⟨i, s', t', hs, ht, h'⟩ := h.apply (hraw hstep)
      simp only [Session.perform, if_true, hs, ht]
      exact ⟨h'.seen_eq rfl, h'⟩
    | false =>
      obtain ⟨i, s', t', hs, ht, h'⟩ := h.applyStandard (hraw hstep)
      simp only [Session.perform, Bool.false_eq_true, if_false, hs, ht]
      exact ⟨h'.seen_eq rfl, h'⟩
  | report line =>
    simp only [Session.perform]
    cases lineOf line with
    | error m => exact ⟨h.seen_eq rfl, h⟩
    | ok line =>
      obtain ⟨result, s', t', hs, ht, h'⟩ := h.report line
      simp only [hs, ht]
      exact ⟨h'.seen_eq rfl, h'⟩
  | reportFailure reason =>
    have h' := h.reportFailure reason
    exact ⟨h'.seen_eq rfl, h'⟩
  | set key value =>
    obtain ⟨hkey, hvalue⟩ := htext
    cases key with
    | text name =>
      cases value with
      | text v =>
        have he : fits (name, v) := hstep _ List.mem_cons_self
        have h' : Alike fits (s.call (.set (name, v))) (t.call (.set (name, v))) := h.call (by simpa)
        simp only [Session.call] at h'
        simp only [Session.perform, set_of_clear (h.takes s.writes _ he).1,
          set_of_clear (h.takes t.writes _ he).2] at h' ⊢
        exact ⟨h'.seen_eq rfl, h'⟩
      | _ => cases hvalue
    | _ => cases hkey
  | get key default =>
    cases key with
    | text name =>
      refine ⟨h.seen_eq ?_, h⟩
      rw [Store.get_text, Store.get_text, h.entries]
    | _ => cases htext
  | setCopy key value => exact ⟨h.seen_eq rfl, h⟩
  | proxies =>
    refine ⟨h.seen_eq ?_, h⟩
    rw [Store.proxies_congr h.entries]
  | exemptHosts =>
    refine ⟨h.seen_eq ?_, h⟩
    rw [Store.exemptHosts_congr h.entries]
  | opener =>
    refine ⟨h.seen_eq ?_, h⟩
    simp only [opener, Store.opener, Store.proxies_congr h.entries, Store.exemptHosts_congr h.entries,
      h.console]
    cases t.store.exemptHosts <;> rfl
  | clear => cases htext
  | freeze frozen => cases htext
  | route url => cases htext

theorem trace (h : Alike fits s t) {steps : List Step} (htext : ∀ step ∈ steps, step.IsTextual)
    (hsteps : ∀ step ∈ steps, ∀ e ∈ step.entries, fits e) :
    (s.trace steps).map seen = (t.trace steps).map seen := by
  induction steps generalizing s t with
  | nil => rfl
  | cons step steps ih =>
    obtain ⟨hfirst, hlater⟩ := List.forall_mem_cons.mp htext
    obtain ⟨hstep, hrest⟩ := List.forall_mem_cons.mp hsteps
    obtain ⟨hseen, h'⟩ := h.perform hfirst hstep
    simp only [Session.trace, List.map_cons, hseen, ih h' hlater hrest]

end Alike

/-! ## the three kinds -/

/-- an environment can hold what the step writes: no NUL is in an argument that is a text, and an
entry fits -/
def Step.FitsEnvironment : Step → Prop
  | .apply (.text raw) | .inject (.text raw) | .applyOnce (.text raw) _ => '\x00' ∉ raw.toList
  | .set (.text key) (.text value) => Environment.Fits (key, value)
  | _ => True

theorem fits_entries {raw : String} {d : Descriptor} (hd : Descriptor.parse? raw = some d)
    (hnull : '\x00' ∉ raw.toList) : ∀ e ∈ d.entries, Environment.Fits e := by
  obtain ⟨rfl, -, -⟩ := Descriptor.parse?_eq_some_iff.mp hd
  simp only [String.toList_append, List.mem_append, not_or] at hnull
  obtain ⟨⟨hhost, -⟩, hport⟩ := hnull
  have hempty : '\x00' ∉ "".toList := by decide
  have hfits (key value : String) (hkey : key ≠ "" ∧ '=' ∉ key.toList ∧ '\x00' ∉ key.toList)
      (hvalue : '\x00' ∉ value.toList) : Environment.Fits (key, value) :=
    ⟨hkey.1, hkey.2.1, hkey.2.2, hvalue⟩
  simp only [Descriptor.entries, List.forall_mem_cons, List.not_mem_nil, false_implies,
    implies_true, and_true]
  exact ⟨hfits _ _ (by decide) hhost, hfits _ _ (by decide) hport, hfits _ _ (by decide) hhost,
    hfits _ _ (by decide) hport, hfits _ _ (by decide) hempty⟩

theorem Step.fits_of_mem_entries {step : Step} (h : step.FitsEnvironment) :
    ∀ e ∈ step.entries, Environment.Fits e := by
  have hraw {raw : Value} (hnull : ∀ text, raw = .text text → '\x00' ∉ text.toList) :
      ∀ e ∈ raw.descriptor?.elim [] Descriptor.entries, Environment.Fits e := by
    cases hd : raw.descriptor? with
    | none => simp
    | some d =>
      cases raw with
      | text text => exact fits_entries hd (hnull text rfl)
      | _ => cases hd
  cases step with
  | apply raw => exact hraw fun text heq => by subst heq; exact h
  | inject raw => exact hraw fun text heq => by subst heq; exact h
  | applyOnce raw given => exact hraw fun text heq => by subst heq; exact h
  | set key value =>
    cases key with
    | text name =>
      cases value with
      | text v => exact List.forall_mem_singleton.mpr h
      | _ => exact fun e he => absurd he List.not_mem_nil
    | _ => exact fun e he => absurd he List.not_mem_nil
  | _ => exact fun e he => absurd he List.not_mem_nil

theorem faultAt?_of_refusal {s : Session} (hfaults : s.faults = []) {e : String × String}
    (he : s.store.refusal? e = none) (n : Nat) : s.faultAt? n e = none := by
  have hnone : s.scheduled? n = none := by
    rw [scheduled?, hfaults]
    rfl
  simp only [faultAt?, hnone, he]

/-- **One kind of store for another.**  Whatever texts are written and read, properties that are
not frozen and a mapping with the same entries do the same step by step: they answer alike, and
leave the same texts, records and entries behind.  So does an environment, as long as all that is
written fits into it.  Handlers may write any of it down but the place in the program where a write
is recorded, in which the stores differ. -/
theorem trace_interchangeable (contents : Environment) {console : Console} (hblind : console.Blind)
    (surroundings : Environment) (standard? : Option Store) {steps : List Step}
    (htext : ∀ step ∈ steps, step.IsTextual) :
    let holding (store : Store) : Session :=
      { store, console, environment := surroundings, standard? }
    let run (store : Store) := ((holding store).trace steps).map seen
    run (.mapping contents.table) = run (.properties contents.table false) ∧
      ((∀ step ∈ steps, step.FitsEnvironment) →
        run (.environment contents) = run (.properties contents.table false)) := by
  intro holding run
  have hmapping : Alike (fun _ => True) (holding (.mapping contents.table))
      (holding (.properties contents.table false)) :=
    ⟨rfl, rfl, hblind, rfl,
      fun n e _ => ⟨faultAt?_of_refusal rfl rfl n, faultAt?_of_refusal rfl rfl n⟩⟩
  have henvironment : Alike Environment.Fits (holding (.environment contents))
      (holding (.properties contents.table false)) :=
    ⟨rfl, rfl, hblind, rfl, fun n e he =>
      ⟨faultAt?_of_refusal rfl (Store.refusal?_environment_eq_none_iff.mpr he) n,
        faultAt?_of_refusal rfl rfl n⟩⟩
  refine ⟨hmapping.trace htext fun _ _ _ _ => trivial, fun hfits => ?_⟩
  exact henvironment.trace htext fun step hstep => Step.fits_of_mem_entries (hfits step hstep)

/-- a console whose streams fail now and then, and on which a line number would give the store
away -/
def faltering : Console where
  out := { faults := { writes := [1] } }
  err := { faults := { flushes := [0] } }
  directory := { path := "/" }
  manner := { stamp := fun site _ => { line := if site = .properties then 64 else 88 } }

/-- an injection whose report fails, one of no text, one into another store, and entries read and
written around them -/
theorem trace_interchangeable_faltering :
    let contents : Environment := [("http.nonProxyHosts", "*")]
    let standard : Store := .properties [] false
    let steps : List Step := [.apply (.text "h:1"), .apply (.text "a:b"), .inject .null,
      .applyOnce (.text "o:9") false, .set (.text "http.proxyPort") (.text "2"),
      .get (.text "=") (.int 0), .opener]
    let run (store : Store) :=
      (trace { store, console := faltering, standard? := some standard } steps).map seen
    faltering.Blind ∧ (∀ step ∈ steps, step.IsTextual) ∧
      (∀ step ∈ steps, step.FitsEnvironment) ∧
      run (.mapping contents.table) = run (.properties contents.table false) ∧
      run (.environment contents) = run (.properties contents.table false) := by
  intro contents standard steps run
  have hblind : faltering.Blind := .of_mute (List.forall_mem_singleton.mpr rfl)
  have htext : ∀ step ∈ steps, step.IsTextual := by simp [steps, Step.IsTextual, Value.isText]
  have hfits : ∀ step ∈ steps, step.FitsEnvironment := by
    simp [steps, Step.FitsEnvironment, Environment.Fits]
  obtain ⟨hmapping, henvironment⟩ :=
    trace_interchangeable contents hblind [] (some standard) htext
  exact ⟨hblind, htext, hfits, hmapping, henvironment hfits⟩

end Session

end ProxyInjector
