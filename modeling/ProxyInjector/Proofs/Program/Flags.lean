import ProxyInjector.Program.Run
import ProxyInjector.Proofs.CommandLine.Help
import ProxyInjector.Proofs.CommandLine.Reading

/-!
# What the flags of the program come to

* `parser_simple`     the flags are simple, and no two have one target;
* `exists_help`, `exists_usage`   the program can say what it is called with;
* `Options.Read`      the proxy and the store that words can say;
* `options_read`      words say nothing else.
-/

namespace ProxyInjector.Program

open CommandLine

theorem switch_simple {names : List String} {target help : String} (hnames : names ≠ [])
    (htarget : target ∉ ["__class__", "__dict__", "__weakref__", Parser.extrasTarget])
    (hlength : ∀ n ∈ names, 2 ≤ n.length) : (switch names target help).Simple :=
  ⟨.switch hnames rfl rfl rfl, htarget, rfl, rfl, hlength⟩

theorem setting_simple {f : Flag} {name : String} (hnames : f.names = [name])
    (hlong : Flag.IsLong name)
    (hform : f.arity = .one ∧ f.action = .store ∧ f.conversion = some .text)
    (hchoices : ∀ c, f.choices = some c → ∃ vs, c = .among vs)
    (htarget : f.target ∉ ["__class__", "__dict__", "__weakref__", Parser.extrasTarget])
    (hplain : f.oddTarget = none ∧ f.required = false) : f.Simple := by
  obtain ⟨harity, haction, hconversion⟩ := hform
  have hlength : 2 ≤ name.length := by
    obtain ⟨c, cs, h⟩ := hlong
    rw [← String.length_toList, h]
    simp
  refine ⟨.setting ?_ ?_ harity haction hconversion hchoices, htarget, hplain.1, hplain.2, ?_⟩
  · rw [hnames]
    exact List.cons_ne_nil _ _
  · rw [hnames]
    exact List.forall_mem_singleton.mpr hlong
  · rw [hnames]
    exact List.forall_mem_singleton.mpr hlength

/-- a property of all flags, one by one -/
theorem forall_flags {P : Flag → Prop} (h : P Parser.helpFlag ∧ P proxyFlag ∧ P versionFlag ∧
    P levelFlag ∧ P fileFlag ∧ P formatFlag ∧ P storeFlag ∧ P addressFlag ∧ P shellFlag) :
    ∀ f ∈ parser.flags, P f := by
  show ∀ f ∈ Parser.helpFlag :: flags, P f
  simpa only [flags, List.forall_mem_cons, List.not_mem_nil, false_implies, implies_true, and_true]
    using h

theorem flags_simple : ∀ f ∈ parser.flags, f.Simple := by
  have hhelp : Parser.helpFlag.Simple :=
    ⟨.help (by decide) rfl rfl rfl, by decide, rfl, rfl, by decide⟩
  have hproxy : proxyFlag.Simple :=
    ⟨.operand rfl rfl rfl rfl rfl rfl, by decide, rfl, rfl, by decide⟩
  have hversion : versionFlag.Simple := switch_simple (by decide) (by decide) (by decide)
  have haddress : addressFlag.Simple := switch_simple (by decide) (by decide) (by decide)
  have hshell : shellFlag.Simple := switch_simple (by decide) (by decide) (by decide)
  have hlevel : levelFlag.Simple :=
    setting_simple rfl ⟨_, _, rfl⟩ ⟨rfl, rfl, rfl⟩ nofun (by decide) ⟨rfl, rfl⟩
  have hfile : fileFlag.Simple :=
    setting_simple rfl ⟨_, _, rfl⟩ ⟨rfl, rfl, rfl⟩ nofun (by decide) ⟨rfl, rfl⟩
  have hformat : formatFlag.Simple :=
    setting_simple rfl ⟨_, _, rfl⟩ ⟨rfl, rfl, rfl⟩ nofun (by decide) ⟨rfl, rfl⟩
  have hstore : storeFlag.Simple :=
    setting_simple rfl ⟨_, _, rfl⟩ ⟨rfl, rfl, rfl⟩ (fun c hc => ⟨_, (Option.some.inj hc).symm⟩)
      (by decide) ⟨rfl, rfl⟩
  exact forall_flags
    ⟨hhelp, hproxy, hversion, hlevel, hfile, hformat, hstore, haddress, hshell⟩

theorem parser_simple : parser.Simple := ⟨flags_simple, by decide⟩

theorem exists_usage : ∃ usage, parser.usage? = some usage := by
  have h : parser.usage?.isSome = true := by decide +kernel
  exact Option.isSome_iff_exists.mp h

theorem flags_described : ∀ f ∈ parser.flags, f.Described := by
  have hdescribed {f : Flag} {text : String} (hhelp : f.help = .text text)
      (hstandIn : f.standIn = .null) (hchoices : ∀ kind, f.choices ≠ some (.closed kind))
      (htext : Flag.IsPlainHelp text) : f.Described := ⟨hstandIn, hchoices, text, hhelp, htext⟩
  have hplain {c : Char} {cs : List Char} (h : Text.isBlank c = false ∧ '%' ∉ c :: cs) :
      Flag.IsPlainHelp (String.ofList (c :: cs)) := Flag.isPlainHelp_ofList h
  refine forall_flags ⟨?_, ?_, ?_, ?_, ?_, ?_, ?_, ?_, ?_⟩
  · exact hdescribed rfl rfl nofun (hplain (by decide))
  · exact hdescribed rfl rfl nofun (hplain (by decide))
  · exact hdescribed rfl rfl nofun (hplain (by decide))
  · exact hdescribed rfl rfl nofun
      (((hplain (by decide)).append (hplain (by decide))).append (hplain (by decide)))
  · exact hdescribed rfl rfl nofun (hplain (by decide))
  · exact hdescribed rfl rfl nofun (hplain (by decide))
  · exact hdescribed rfl rfl (fun _ h => by cases h)
      ((hplain (by decide)).append (hplain (by decide)))
  · exact hdescribed rfl rfl nofun ((hplain (by decide)).append (hplain (by decide)))
  · exact hdescribed rfl rfl nofun ((hplain (by decide)).append (hplain (by decide)))

theorem exists_help : ∃ text, parser.help = .ok text := by
  obtain ⟨usage, husage⟩ := exists_usage
  obtain ⟨chars, hchars, -⟩ := Option.map_eq_some_iff.mp husage
  exact Parser.exists_help flags_described (Option.isSome_of_eq_some hchars)

/-- before anything is read, flags have their defaults -/
theorem exists_default : ∀ f ∈ parser.flags, f.default.isSome →
    ∃ slot, parser.defaults.get? f.target = some slot ∧ f.default = some slot.value := by
  exact forall_flags ⟨nofun, fun _ => ⟨_, rfl, rfl⟩, fun _ => ⟨_, rfl, rfl⟩,
    fun _ => ⟨_, rfl, rfl⟩, fun _ => ⟨_, rfl, rfl⟩, fun _ => ⟨_, rfl, rfl⟩,
    fun _ => ⟨_, rfl, rfl⟩, fun _ => ⟨_, rfl, rfl⟩, fun _ => ⟨_, rfl, rfl⟩⟩

theorem defaults_sound (words : List String) : parser.defaults.Sound parser words := by
  refine ⟨rfl, rfl, fun f hf hsome => ?_, rfl⟩
  obtain ⟨slot, hslot, hvalue⟩ := exists_default f hf hsome
  exact ⟨slot, hslot, .default hvalue⟩

/-- the value that a sound command line leaves to one of the flags -/
theorem exists_of_sound {slots : Slots} {words : List String} (h : slots.Sound parser words)
    {f : Flag} (hf : f ∈ parser.flags) (hdefault : f.default.isSome) :
    ∃ v, ((slots.entries.fields.find? fun v => v.1 == f.target).map (·.2)).getD .null = v ∧
      f.Admits words v := by
  obtain ⟨slot, hslot, hadmits⟩ := h.admits f hf hdefault
  refine ⟨slot.value, ?_, hadmits⟩
  rw [Entries.find?_fields, show slots.entries.get? f.target = some slot from hslot]
  rfl

theorem admits_proxy {words : List String} {v : Value} (h : proxyFlag.Admits words v) :
    v = .null ∨ ∃ s, v = .text s := by
  cases h with
  | default h => exact .inl (Option.some.inj h).symm
  | constant h => cases h
  | text _ => exact .inr ⟨_, rfl⟩
  | nothing h => cases h

theorem admits_store {words : List String} {v : Value} (h : storeFlag.Admits words v) :
    v = .text propertiesName ∨ v = .text environmentName ∨
      v = .list [] ∧ storeFlag.Dashed words := by
  cases h with
  | default h => exact .inl (Option.some.inj h).symm
  | constant h => cases h
  | nothing _ h => exact .inr (.inr ⟨rfl, h⟩)
  | @text s h =>
    have hany :
        [Value.text environmentName, .text propertiesName].any (·.same (.text s)) = true := by
      cases hany : [Value.text environmentName, .text propertiesName].any (·.same (.text s)) with
      | true => rfl
      | false =>
        rw [Flag.check, show storeFlag.choices = some (.among [.text environmentName,
          .text propertiesName]) from rfl] at h
        simp only [Choices.contains, hany] at h
        cases h
    simp only [List.any_cons, List.any_nil, Value.same_text, Bool.or_false, Bool.or_eq_true,
      beq_iff_eq] at hany
    rcases hany with rfl | rfl
    · exact .inr (.inl rfl)
    · exact .inl rfl

structure Options.Read (words : List String) (o : Options) : Prop where
  proxy : o.proxy = .null ∨ ∃ s, o.proxy = .text s
  store : (∃ target, Target.resolve o.store = .ok target) ∨
    o.store = .list [] ∧ storeFlag.Dashed words

theorem options_read {words : List String} {values : Parser.Values}
    (h : (parser.read (words.map .text)).result = .ok values) :
    (Options.ofValues values).Read words := by
  obtain ⟨hends, -, -⟩ := Parser.read_sound parser_simple (defaults_sound words)
  rw [h] at hends
  obtain ⟨slots, hslots, rfl⟩ := hends
  have hmem : proxyFlag ∈ parser.flags ∧ storeFlag ∈ parser.flags := by
    show proxyFlag ∈ Parser.helpFlag :: flags ∧ storeFlag ∈ Parser.helpFlag :: flags
    simp [flags]
  obtain ⟨v, hv, hproxy⟩ := exists_of_sound hslots hmem.1 rfl
  obtain ⟨w, hw, hstore⟩ := exists_of_sound hslots hmem.2 rfl
  replace hv : (Options.ofValues slots.entries.fields).proxy = v := hv
  replace hw : (Options.ofValues slots.entries.fields).store = w := hw
  constructor
  · rw [hv]
    exact admits_proxy hproxy
  · rw [hw]
    rcases admits_store hstore with rfl | rfl | hdashed
    · exact .inl ⟨.properties, rfl⟩
    · exact .inl ⟨.environment, rfl⟩
    · exact .inr hdashed

end ProxyInjector.Program
