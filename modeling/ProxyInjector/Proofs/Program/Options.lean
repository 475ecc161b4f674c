import ProxyInjector.Program.Run
import ProxyInjector.Proofs.Log.Setup

/-!
# How a run comes by its options

Reading a command line that is in order writes nothing; the values of the host program go over what
it says, the last of each name; and logging is set up as the result says.

* `prepare_ok`                   these three steps, for a run that gets through them;
* `ProcessState.Prepares`        a run gets through them;
* `ProcessState.settings?`       how it is to set up logging;
* `ProcessState.Names`           the store that it names;
* `ProcessState.main_of_words_ok`   a run by the three steps.
-/

namespace ProxyInjector.Program

/-! ## command line and values -/

theorem readOptions_ok {words : Value} {c c' : Console} {o : Options}
    (h : readOptions words c = (.ok o, c')) : c' = c := by
  unfold readOptions readValues at h
  split at h
  · cases h
  · next values c'' hvalues =>
    have hc : c'' = c := by
      split at hvalues
      · cases hvalues
      · split at hvalues
        · exact (Prod.mk.inj hvalues).2.symm
        · cases hvalues
    dsimp only at h
    split at h
    · split at h <;> cases h
    · exact (Prod.mk.inj h).2.symm.trans hc

theorem prepare_ok {words : Value} {values : List (String × Value)} {c c' : Console} {o : Options}
    (h : prepare words values c = (.ok o, c')) :
    ∃ parsed, readOptions words c = (.ok parsed, c) ∧ o = parsed.override values ∧
      c.configureLog o.logSettings = (.ok (), c') := by
  unfold prepare at h
  split at h
  · cases h
  · split at h
    · cases h
    · next parsed c'' hread =>
      obtain rfl : c'' = c := readOptions_ok hread
      dsimp only at h
      split at h
      · cases h
      · next c''' hlog =>
        cases h
        exact ⟨parsed, hread, rfl, hlog⟩

theorem Options.store_set (o : Options) (name : String) (v : Value) :
    (o.set name v).store = if name = "store" then v else o.store := by
  unfold Options.set
  split <;> first | rfl | exact (if_neg ‹_›).symm

/-- of the values for the store the last counts, and any of them before the command line's -/
theorem Options.store_override (o : Options) (values : List (String × Value)) :
    (o.override values).store
      = ((values.reverse.find? (·.1 == "store")).map (·.2)).getD o.store := by
  induction values generalizing o with
  | nil => rfl
  | cons v values ih =>
    show ((o.set v.1 v.2).override values).store = _
    rw [ih, Options.store_set, List.reverse_cons, List.find?_append]
    cases values.reverse.find? (·.1 == "store") with
    | some w => rfl
    | none => by_cases hv : v.1 = "store" <;> simp [hv]

theorem ok_of_toOption {ε α : Type} {x : Except ε α} {a : α} (h : x.toOption = some a) :
    x = .ok a := by
  cases x with
  | ok b => exact congrArg _ (Option.some.inj h)
  | error e => cases h

namespace ProcessState

/-! ## runs that are prepared -/

/-- the run gets through its command line and the set-up of logging, to these options and this
console -/
def Prepares (p : ProcessState) (call : Invocation) (o : Options) (c : Console) : Prop :=
  ∃ words, call.words = .ok words ∧ prepare words call.values p.console = (.ok o, c)

/-- the options that the run gets to, if it does -/
def prepared? (p : ProcessState) (call : Invocation) : Option Options :=
  call.words.toOption.bind fun words => (prepare words call.values p.console).1.toOption

/-- the settings that the run sets logging up with, if it gets so far -/
def settings? (p : ProcessState) (call : Invocation) : Option Log.Settings :=
  call.words.toOption.bind fun words =>
    (readOptions words p.console).1.toOption.map fun parsed =>
      (parsed.override call.values).logSettings

/-- the store that the run names: the host program's, or else the command line's -/
def Names (p : ProcessState) (call : Invocation) (target : Target) : Prop :=
  ∃ words parsed, call.words = .ok words ∧ readOptions words p.console = (.ok parsed, p.console) ∧
    Target.resolve (((call.values.reverse.find? (·.1 == "store")).map (·.2)).getD parsed.store)
      = .ok target

section
variable {p : ProcessState} {call : Invocation} {o : Options} {c : Console}

theorem prepared?_eq_some_iff : p.prepared? call = some o ↔ ∃ c, p.Prepares call o c := by
  unfold prepared? Prepares
  cases call.words with
  | error f => simp [Except.toOption]
  | ok words =>
    rcases hprepare : prepare words call.values p.console with ⟨_ | o', c⟩ <;>
      simp [Except.toOption, hprepare]

theorem checkWords_eq_ok {values : List (String × Value)} (hvalues : ∀ v ∈ values, v.1 ≠ wordsName)
    (operation : String) : checkWords operation values = .ok () := by
  refine if_neg fun hany => ?_
  obtain ⟨v, hv, hname⟩ := List.any_eq_true.mp hany
  exact hvalues v hv (beq_iff_eq.mp hname)

/-- where no value stands for the words, the run takes the words and the values as they are -/
theorem taken_of_values {values : List (String × Value)} (hvalues : ∀ v ∈ values, v.1 ≠ wordsName)
    (words : Value) :
    Invocation.words { args := words, overrides := values } = .ok words ∧
      Invocation.values { args := words, overrides := values } = values := by
  refine ⟨?_, List.filter_eq_self.mpr fun v hv => bne_iff_ne.mpr (hvalues v hv)⟩
  simp only [Invocation.words, checkWords_eq_ok hvalues]
  rfl

/-- words that are read and settings that go through prepare a run -/
theorem prepares_of_readOptions {words : Value} {values : List (String × Value)} {parsed : Options}
    (hread : readOptions words p.console = (.ok parsed, p.console))
    (hvalues : ∀ v ∈ values, v.1 ≠ wordsName)
    (hlog : p.console.configureLog (parsed.override values).logSettings = (.ok (), c)) :
    p.Prepares { args := words, overrides := values } (parsed.override values) c := by
  obtain ⟨hwords, hfilter⟩ := taken_of_values hvalues words
  exact ⟨words, hwords, by simp only [hfilter, prepare, checkWords_eq_ok hvalues, hread, hlog]⟩

theorem main_of_words_error {f : Fault} (hwords : call.words = .error f) :
    p.main call = (.error (.fault f), p) := by
  rw [main, hwords]

theorem prepared?_of_words_ok {words : Value} (hwords : call.words = .ok words) :
    p.prepared? call = (prepare words call.values p.console).1.toOption := by
  rw [prepared?, hwords]
  rfl

/-- once the words are known, a run reads them, sets up logging as they and the values say, and goes
on to the injection -/
theorem main_of_words_ok {words : Value} (hwords : call.words = .ok words) :
    p.main call =
      match readOptions words p.console with
      | (.error e, c) => (.error e, { p with console := c })
      | (.ok parsed, c) =>
        match c.configureLog (parsed.override call.values).logSettings with
        | (.error e, c) => (.error (.fault (.log e)), { p with console := c })
        | (.ok (), c) => { p with console := c }.inject (parsed.override call.values) := by
  -- the values do not name the words any more
  have hcheck : checkWords "FlagParser.initialize" call.values = .ok () :=
    checkWords_eq_ok (fun v hv => bne_iff_ne.mp (List.mem_filter.mp hv).2) _
  rw [main, hwords]
  simp only [prepare, hcheck]
  rcases readOptions words p.console with ⟨_ | parsed, c⟩
  · rfl
  · rcases hlog : c.configureLog (parsed.override call.values).logSettings with ⟨_ | _, c'⟩ <;>
      simp only [hlog]

theorem main_of_values {values : List (String × Value)} (hvalues : ∀ v ∈ values, v.1 ≠ wordsName)
    (p : ProcessState) (words : Value) :
    p.main { args := words, overrides := values } =
      match readOptions words p.console with
      | (.error e, c) => (.error e, { p with console := c })
      | (.ok parsed, c) =>
        match c.configureLog (parsed.override values).logSettings with
        | (.error e, c) => (.error (.fault (.log e)), { p with console := c })
        | (.ok (), c) => { p with console := c }.inject (parsed.override values) := by
  obtain ⟨hwords, hfilter⟩ := taken_of_values hvalues words
  rw [main_of_words_ok hwords, hfilter]

theorem main_of_prepares (h : p.Prepares call o c) :
    p.main call = { p with console := c }.inject o := by
  obtain ⟨words, hwords, hprepare⟩ := h
  rw [main, hwords]
  dsimp only
  rw [hprepare]

/-- by then the logger is a new one, and the streams have seen nothing -/
theorem Prepares.console_eq (h : p.Prepares call o c) :
    ∃ sink template level, Log.Level.ofValue o.logLevel = .ok level ∧
      c = { p.console with
        logger := ⟨level, false, [{ sink, template }]⟩
        directory := Log.openSink p.console.directory sink } := by
  obtain ⟨words, -, hprepare⟩ := h
  obtain ⟨parsed, -, -, hlog⟩ := prepare_ok hprepare
  exact Console.configureLog_ok hlog

/-- a run that is prepared at a level -/
theorem exists_prepares_of_level {level : Log.Level} (h : (p.prepared? call).bind
      (fun o => (Log.Level.ofValue o.logLevel).toOption) = some level) :
    ∃ o c, p.prepared? call = some o ∧ p.Prepares call o c ∧
      Log.Level.ofValue o.logLevel = .ok level := by
  obtain ⟨o, ho, hvalue⟩ := Option.bind_eq_some_iff.mp h
  obtain ⟨c, hc⟩ := prepared?_eq_some_iff.mp ho
  obtain ⟨-, -, level', hlevel, -⟩ := hc.console_eq
  rw [hlevel] at hvalue
  obtain rfl : level' = level := Option.some.inj hvalue
  exact ⟨o, c, ho, hc, hlevel⟩

theorem Prepares.out_eq (h : p.Prepares call o c) : c.out = p.console.out := by
  obtain ⟨sink, template, level, -, rfl⟩ := h.console_eq
  rfl

theorem Prepares.names (h : p.Prepares call o c) {target : Target}
    (htarget : Target.resolve o.store = .ok target) : p.Names call target := by
  obtain ⟨words, hwords, hprepare⟩ := h
  obtain ⟨parsed, hread, rfl, -⟩ := prepare_ok hprepare
  rw [Options.store_override] at htarget
  exact ⟨words, parsed, hwords, hread, htarget⟩

end

end ProcessState

end ProxyInjector.Program
