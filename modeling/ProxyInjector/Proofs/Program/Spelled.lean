import ProxyInjector.Proofs.CommandLine.Spelled
import ProxyInjector.Proofs.Program.Verdict

/-!
# Options given as values and as words

What a host program gives a run as values can be said in words as well, each value behind an equals
sign and the proxy behind a double dash, whatever they hold.  Only a bare double dash is no value
there, since it would be dropped.

* `Setup`                        the options of a run, as values and as words;
* `Options.ofValues_assign`      words that set values do to the options what the values would;
* `Setup.readOptions_words`      what the words of a setup come to;
* `ProcessState.main_spelled`    a run over words that are in order, with the values of a setup, is
                                 the run over the words of the setup.
-/

namespace ProxyInjector.Program

open CommandLine

/-! ## options one behind the other -/

namespace Options

variable {o : Options}

theorem set_comm {a b : String} (h : a ≠ b) (v w : Value) :
    (o.set a v).set b w = (o.set b w).set a v := by
  unfold set
  split <;> split <;> first | rfl | contradiction

/-- values under different names may come in any order -/
theorem override_perm {values values' : List (String × Value)} (h : values.Perm values')
    (hnames : (values.map (·.1)).Nodup) : o.override values = o.override values' := by
  refine h.foldl_eq' (fun a ha b hb o => ?_) o
  by_cases hab : a.1 = b.1
  · rw [List.inj_on_of_nodup_map hnames ha hb hab]
  · exact set_comm hab a.2 b.2

theorem version_set (o : Options) (name : String) (v : Value) :
    (o.set name v).version = o.version := by
  unfold set
  split <;> rfl

theorem version_override (o : Options) (values : List (String × Value)) :
    (o.override values).version = o.version := by
  induction values generalizing o with
  | nil => rfl
  | cons v values ih =>
    show ((o.set v.1 v.2).override values).version = _
    rw [ih, version_set]

/-- a slot set is the option set -/
theorem ofValues_put (s : Slots) {target : String} (h : target ≠ "version") (v : Value) :
    ofValues (s.put target { value := v }).entries.fields
      = (ofValues s.entries.fields).set target v := by
  have hget (name : String) :
      (((s.put target { value := v }).entries.fields.find? (·.1 == name)).map (·.2)).getD .null
        = if target = name then v
          else ((s.entries.fields.find? (·.1 == name)).map (·.2)).getD .null := by
    rw [Entries.find?_fields, Entries.find?_fields]
    show (((s.put target { value := v }).get? name).map _).getD _ = _
    rw [Slots.get?_put]
    split <;> rfl
  unfold set
  split <;> simp_all [ofValues]

theorem ofValues_assign (s : Slots) {sets : List (String × Value)}
    (h : ∀ a ∈ sets, a.1 ≠ "version") :
    ofValues (s.assign sets).entries.fields = (ofValues s.entries.fields).override sets := by
  induction sets generalizing s with
  | nil => rfl
  | cons a sets ih =>
    obtain ⟨ha, hsets⟩ := List.forall_mem_cons.mp h
    show ofValues ((s.put a.1 { value := a.2 }).assign sets).entries.fields = _
    rw [ih _ hsets, ofValues_put s ha]
    rfl

end Options

/-! ## setups -/

def Target.name : Target → String
  | .properties => propertiesName
  | .environment => environmentName

/-- the options of a run that a host program may give -/
structure Setup where
  logFile : String
  logLevel : String
  logFormat : String
  store : Target
  shell : Bool
  fromAddress : Bool
  proxy : String

namespace Setup

def values (w : Setup) : List (String × Value) :=
  [("log_file", .text w.logFile), ("log_level", .text w.logLevel),
    ("log_format", .text w.logFormat), ("store", .text w.store.name), ("shell", .bool w.shell),
    ("from_address", .bool w.fromAddress), ("proxy", .text w.proxy)]

def words (w : Setup) : List String :=
  ["--log-file=" ++ w.logFile, "--log-level=" ++ w.logLevel, "--log-format=" ++ w.logFormat,
    "--store=" ++ w.store.name] ++ (if w.shell then ["--shell"] else [])
    ++ (if w.fromAddress then ["--from-address"] else []) ++ ["--", w.proxy]

/-- the options among the words -/
def spellings (w : Setup) : List Spelling :=
  [⟨(fileFlag, 4), "--log-file", w.logFile⟩, ⟨(levelFlag, 3), "--log-level", w.logLevel⟩,
    ⟨(formatFlag, 5), "--log-format", w.logFormat⟩, ⟨(storeFlag, 6), "--store", w.store.name⟩]
    ++ (if w.shell then [⟨(shellFlag, 8), "--shell", none⟩] else [])
    ++ (if w.fromAddress then [⟨(addressFlag, 7), "--from-address", none⟩] else [])

/-- what the words set -/
def sets (w : Setup) : List (String × Value) :=
  w.spellings.map Spelling.sets ++ [("proxy", .text w.proxy)]

section
variable {w : Setup}

theorem texts_words (w : Setup) : w.words.map Value.text
    = w.spellings.map (fun s => .text s.word) ++ [.text "--", .text w.proxy] := by
  unfold words spellings
  cases w.shell <;> cases w.fromAddress <;> rfl

theorem spellings_valid (hbar : "--" ∉ [w.logFile, w.logLevel, w.logFormat]) :
    ∀ s ∈ w.spellings, s.Valid parser := by
  simp only [List.mem_cons, List.not_mem_nil, or_false, not_or] at hbar
  obtain ⟨hfile, hlevel, hformat⟩ := hbar
  have hstore : w.store.name ≠ "--" ∧
      storeFlag.check (.text w.store.name) = .ok (.text w.store.name) := by
    cases w.store <;> exact ⟨by decide, rfl⟩
  have hshell : Spelling.Valid parser ⟨(shellFlag, 8), "--shell", none⟩ :=
    .switch rfl (by decide) ⟨rfl, rfl⟩
  have haddress : Spelling.Valid parser ⟨(addressFlag, 7), "--from-address", none⟩ :=
    .switch rfl (by decide) ⟨rfl, rfl⟩
  unfold spellings
  simp only [List.forall_mem_append, List.forall_mem_cons, List.not_mem_nil, false_implies,
    implies_true, and_true]
  refine ⟨⟨⟨?_, ?_, ?_, ?_⟩, ?_⟩, ?_⟩
  · exact .text rfl (by decide) ⟨rfl, rfl, rfl⟩ (Ne.symm hfile) rfl
  · exact .text rfl (by decide) ⟨rfl, rfl, rfl⟩ (Ne.symm hlevel) rfl
  · exact .text rfl (by decide) ⟨rfl, rfl, rfl⟩ (Ne.symm hformat) rfl
  · exact .text rfl (by decide) ⟨rfl, rfl, rfl⟩ hstore.1 hstore.2
  · cases w.shell with
    | true => exact List.forall_mem_singleton.mpr hshell
    | false => exact fun _ h => by cases h
  · cases w.fromAddress with
    | true => exact List.forall_mem_singleton.mpr haddress
    | false => exact fun _ h => by cases h

theorem names_values (w : Setup) : w.values.map (·.1)
    = ["log_file", "log_level", "log_format", "store", "shell", "from_address", "proxy"] := rfl

theorem name_mem : ∀ a ∈ w.sets, a.1 ∈ w.values.map (·.1) := by
  rw [names_values]
  unfold sets spellings
  cases w.shell <;> cases w.fromAddress <;>
    simp [Spelling.sets, fileFlag, levelFlag, formatFlag, storeFlag, shellFlag, addressFlag, switch]

theorem ne_of_mem {name other : String} (h : name ∈ w.values.map (·.1))
    (hother : other ∉ ["log_file", "log_level", "log_format", "store", "shell", "from_address",
      "proxy"]) : name ≠ other := by
  rintro rfl
  exact hother h

/-- all flags with texts for defaults are among the words -/
theorem flags_given : ∀ f ∈ parser.flags.zipIdx,
    f.2 ∈ [1, 3, 4, 5, 6] ∨ f.1.required = false ∧ ∀ s, f.1.default ≠ some (.text s) := by
  show ∀ f ∈ [(Parser.helpFlag, 0), (proxyFlag, 1), (versionFlag, 2), (levelFlag, 3), (fileFlag, 4),
    (formatFlag, 5), (storeFlag, 6), (addressFlag, 7), (shellFlag, 8)], _
  simp only [List.forall_mem_cons, List.not_mem_nil, false_implies, implies_true, and_true]
  exact ⟨.inr ⟨rfl, nofun⟩, .inl (by decide), .inr ⟨rfl, nofun⟩, .inl (by decide), .inl (by decide),
    .inl (by decide), .inl (by decide), .inr ⟨rfl, nofun⟩, .inr ⟨rfl, nofun⟩⟩

theorem places_subset (w : Setup) :
    [1, 3, 4, 5, 6] ⊆ 1 :: (w.spellings.map fun s => s.flag.2).reverse := by
  have hgiven : [3, 4, 5, 6] ⊆ (w.spellings.map fun s => s.flag.2).reverse := by
    intro n hn
    rw [List.mem_reverse]
    unfold spellings
    rw [List.append_assoc, List.map_append]
    exact List.mem_append_left _ ((by decide : [3, 4, 5, 6] ⊆ [4, 3, 5, 6]) hn)
  exact List.cons_subset_cons 1 hgiven

theorem readSlots_words (hbar : "--" ∉ [w.logFile, w.logLevel, w.logFormat]) :
    parser.readSlots (w.words.map .text) = .ok (parser.defaults.assign w.sets) := by
  have htargets : parser.checkTargets = .ok () := rfl
  have hnames : ∀ o ∈ parser.options, '=' ∉ o.1.toList := by decide +kernel
  have hbehind : parser.recognizeAll [.text "--", .text w.proxy] = .ok (behindSwitch w.proxy) := rfl
  have hwords : parser.recognizeAll (w.words.map .text)
      = .ok (w.spellings.map Spelling.argument ++ behindSwitch w.proxy) := by
    rw [texts_words, Parser.recognizeAll_spellings hnames (spellings_valid hbar), hbehind]
    rfl
  have htaken := takeAll_spelled (spellings_valid hbar) w.proxy parser.defaults
  have hsettled : Parser.settle parser.flags.zipIdx
      (1 :: (w.spellings.map fun s => s.flag.2).reverse) (parser.defaults.assign w.sets) []
        = .ok (parser.defaults.assign w.sets, []) := by
    refine Parser.settle_of_given (fun f hf => ?_) _ _
    exact (flags_given f hf).imp_left fun h => places_subset w h
  have hextras : (parser.defaults.assign w.sets).get? Parser.extrasTarget = none := by
    refine Slots.get?_assign_of_not_mem _ fun hmem => ?_
    obtain ⟨a, ha, htarget⟩ := List.mem_map.mp hmem
    exact ne_of_mem (name_mem a ha) (by decide) htarget
  unfold sets at hsettled hextras ⊢
  simp only [Parser.readSlots, htargets, hwords, positionals_eq, step_ok, bind, Except.bind,
    htaken, hsettled, Parser.splitExtras, hextras]
  rfl

theorem readOptions_words (hbar : "--" ∉ [w.logFile, w.logLevel, w.logFormat]) (c : Console) :
    readOptions (.list (w.words.map .text)) c
      = (.ok ((Options.ofValues parser.defaults.entries.fields).override w.sets), c) := by
  have hresult : (parser.read (w.words.map .text)).result
      = .ok (parser.defaults.assign w.sets).entries.fields := by
    unfold Parser.read
    rw [readSlots_words hbar]
  have hversion : ∀ a ∈ w.sets, a.1 ≠ "version" :=
    fun a ha => ne_of_mem (name_mem a ha) (by decide)
  have hoff : ¬ ((Options.ofValues parser.defaults.entries.fields).override w.sets).version.truthy
      = true := by
    rw [Options.version_override]
    decide
  rw [ProcessState.readOptions_of_ok hresult, Options.ofValues_assign _ hversion, if_neg hoff]

/-- the values and the words leave the same options, up to a version that nobody asks for -/
theorem override_values (w : Setup) (o : Options) : o.override w.values =
    { (Options.ofValues parser.defaults.entries.fields).override w.sets with
      version := o.version } := by
  unfold sets spellings values
  cases w.shell <;> cases w.fromAddress <;> rfl

end

end Setup

namespace ProcessState

/-- **Values and words.**  Where the words of a run are in order and ask for neither help nor
version, and the host program gives it all of a setup, in any order, the run is in every respect the
one over the words of the setup alone.  A bare double dash for a setting of the log is the one text
that cannot be said behind an equals sign. -/
theorem main_spelled (p : ProcessState) (w : Setup) {args : Value} {values : List (String × Value)}
    {parsed : Options} (hread : (readOptions args p.console).1 = .ok parsed)
    (hvalues : values.Perm w.values) (hbar : "--" ∉ [w.logFile, w.logLevel, w.logFormat]) :
    p.main { args, overrides := values } = p.main { args := .list (w.words.map .text) } := by
  have hparsed : readOptions args p.console = (.ok parsed, p.console) := by
    have hpair : readOptions args p.console = (.ok parsed, (readOptions args p.console).2) :=
      Prod.ext hread rfl
    rw [hpair, readOptions_ok hpair]
  have hnames : ∀ v ∈ values, v.1 ≠ wordsName := by
    intro v hv
    have hname : v.1 ∈ w.values.map (·.1) := List.mem_map_of_mem (hvalues.mem_iff.mp hv)
    exact Setup.ne_of_mem hname (by decide)
  have hnodup : (values.map (·.1)).Nodup := by
    rw [(hvalues.map _).nodup_iff, Setup.names_values]
    decide
  have hoptions := Options.override_perm (o := parsed) hvalues hnodup
  rw [Setup.override_values] at hoptions
  rw [main_of_values hnames, main_of_words, hparsed, Setup.readOptions_words hbar]
  dsimp only
  rw [hoptions]
  -- the options differ in the version, which nothing looks at from here on
  rfl

/-- a log file and a proxy that look like options -/
theorem main_spelled_dashed :
    let w : Setup :=
      { logFile := "-h", logLevel := "d", logFormat := "--store=%(message)s", store := .environment
        shell := true, fromAddress := false, proxy := "--:8" }
    let call : Invocation :=
      { args := .list [.text "--from-address", .text "h:1"], overrides := w.values.reverse }
    (∃ parsed, (readOptions call.args relayed.console).1 = .ok parsed) ∧
    call.overrides.Perm w.values ∧ "--" ∉ [w.logFile, w.logLevel, w.logFormat] ∧
    relayed.main call = relayed.main { args := .list (w.words.map .text) } ∧
    (relayed.main call).1.toOption = some (.done ⟨"--", "8"⟩) := by
  intro w call
  have hread : ∃ parsed, (readOptions call.args relayed.console).1 = .ok parsed := by
    have hsome : (readOptions call.args relayed.console).1.toOption.isSome = true := by
      decide +kernel
    obtain ⟨parsed, hparsed⟩ := Option.isSome_iff_exists.mp hsome
    exact ⟨parsed, ok_of_toOption hparsed⟩
  have hperm : call.overrides.Perm w.values := List.reverse_perm _
  have hbar : "--" ∉ [w.logFile, w.logLevel, w.logFormat] := by decide
  have hdone : (relayed.main call).1.toOption = some (.done ⟨"--", "8"⟩) := by decide +kernel
  obtain ⟨parsed, hparsed⟩ := hread
  exact ⟨⟨parsed, hparsed⟩, hperm, hbar, relayed.main_spelled w hparsed hperm hbar, hdone⟩

end ProcessState

end ProxyInjector.Program
