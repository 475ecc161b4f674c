import ProxyInjector.Proofs.CommandLine.Lines
import ProxyInjector.Proofs.Program.Exits
import ProxyInjector.Proofs.Program.Listening

/-!
# Options in any order

A command line of the program may give its settings and switches in any order and more than once,
each setting in one word or in two, with the proxy anywhere between them.

* `Group`                a setting with its value, or a switch, as words;
* `namespaceOf`          what such a command line comes to: of each setting the last value;
* `readValues_groups`    and nothing else is read of it.
-/

namespace ProxyInjector.Program

open CommandLine

/-! ## settings -/

inductive Setting where
  | logLevel
  | logFile
  | logFormat
  | store
deriving DecidableEq

namespace Setting

def name : Setting → String
  | .logLevel => "--log-level"
  | .logFile => "--log-file"
  | .logFormat => "--log-format"
  | .store => "--store"

def default : Setting → Value
  | .logLevel => .text "WARNING"
  | .logFile => .null
  | .logFormat => .text Log.standardTemplate
  | .store => .text "properties"

/-- any value will do, except for the store -/
def Takes (s : Setting) (value : String) : Prop :=
  s = .store → value = "environ" ∨ value = "properties"

def flag : Setting → Known
  | .logLevel => (levelFlag, 3)
  | .logFile => (fileFlag, 4)
  | .logFormat => (formatFlag, 5)
  | .store => (storeFlag, 6)

theorem option?_name (s : Setting) : parser.option? s.name = some s.flag := by
  cases s <;> rfl

theorem name_dashed (s : Setting) :
    startsWithDash s.name = true ∧ '=' ∉ s.name.toList ∧ s.name ≠ "--" := by
  cases s <;> decide

theorem flag_form (s : Setting) :
    s.flag.1.arity = .one ∧ s.flag.1.action = .store ∧ s.flag.1.conversion = some .text := by
  cases s <;> exact ⟨rfl, rfl, rfl⟩

theorem check_of_takes {s : Setting} {value : String} (h : s.Takes value) :
    s.flag.1.check (.text value) = .ok (.text value) := by
  cases s with
  | store => rcases h rfl with rfl | rfl <;> rfl
  | _ => rfl

/-- the name under which a setting is found among the values -/
def target : Setting → String
  | .logLevel => "log_level"
  | .logFile => "log_file"
  | .logFormat => "log_format"
  | .store => "store"

theorem target_flag (s : Setting) : s.flag.1.target = s.target := by
  cases s <;> rfl

theorem target_inj {s t : Setting} (h : s.target = t.target) : s = t := by
  revert h
  cases s <;> cases t <;> decide

theorem target_ne (s : Setting) :
    s.target ≠ "version" ∧ s.target ≠ "from_address" ∧ s.target ≠ "shell" := by
  cases s <;> decide

end Setting

/-! ## groups of words -/

inductive Group where
  /-- a setting and its value, each a word -/
  | apart (s : Setting) (value : String)
  /-- a setting with its value behind an equals sign -/
  | joined (s : Setting) (value : String)
  | shell
  | fromAddress
deriving DecidableEq

namespace Group

def words : Group → List String
  | .apart s value => [s.name, value]
  | .joined s value => [s.name ++ "=" ++ value]
  | .shell => ["--shell"]
  | .fromAddress => ["--from-address"]

/-- a value of its own word does not look like an option, and one behind an equals sign is no bare
double dash -/
def Valid : Group → Prop
  | .apart s value => value.toList.head? ≠ some '-' ∧ s.Takes value
  | .joined s value => value ≠ "--" ∧ s.Takes value
  | _ => True

/-- what the group says of a setting -/
def value? (s : Setting) : Group → Option String
  | .apart t value | .joined t value => if t = s then some value else none
  | _ => none

end Group

/-- the last value that a setting is given, or its default -/
def lastValue (s : Setting) (gs : List Group) : Value :=
  ((gs.filterMap (Group.value? s)).getLast?.map .text).getD s.default

/-- the values of a command line of groups and a proxy -/
def namespaceOf (gs : List Group) (proxy : Option String) : Parser.Values := [
  ("proxy", proxy.elim .null .text),
  ("version", .bool false),
  ("log_level", lastValue .logLevel gs),
  ("log_file", lastValue .logFile gs),
  ("log_format", lastValue .logFormat gs),
  ("store", lastValue .store gs),
  ("from_address", .bool (decide (.fromAddress ∈ gs))),
  ("shell", .bool (decide (.shell ∈ gs)))]

/-! ## groups as phrases -/

theorem startsWithDash_eq_false_iff {w : String} :
    startsWithDash w = false ↔ w.toList.head? ≠ some '-' := by
  rw [startsWithDash, beq_eq_false_iff_ne]

namespace Group

def phrase : Group → Phrase
  | .apart s value => .apart s.flag s.name value
  | .joined s value => .joined ⟨s.flag, s.name, some value⟩
  | .shell => .joined ⟨(shellFlag, 8), "--shell", none⟩
  | .fromAddress => .joined ⟨(addressFlag, 7), "--from-address", none⟩

theorem words_phrase (g : Group) : g.phrase.words = g.words := by
  cases g <;> rfl

theorem Valid.phrase {g : Group} (h : g.Valid) : g.phrase.Valid parser := by
  cases g with
  | apart s value =>
    obtain ⟨hplain, htakes⟩ := h
    obtain ⟨hdashed, -, hbar⟩ := s.name_dashed
    exact .apart s.option?_name hdashed hbar s.flag_form (startsWithDash_eq_false_iff.mpr hplain)
      (Setting.check_of_takes htakes)
  | joined s value =>
    obtain ⟨hbar, htakes⟩ := h
    exact .joined (.text s.option?_name s.name_dashed s.flag_form hbar
      (Setting.check_of_takes htakes))
  | shell => exact .joined (.switch rfl (by decide) ⟨rfl, rfl⟩)
  | fromAddress => exact .joined (.switch rfl (by decide) ⟨rfl, rfl⟩)

def target : Group → String
  | .apart s _ | .joined s _ => s.target
  | .shell => "shell"
  | .fromAddress => "from_address"

def value : Group → Value
  | .apart _ value | .joined _ value => .text value
  | .shell | .fromAddress => .bool true

theorem sets_phrase (g : Group) : g.phrase.sets = (g.target, g.value) := by
  cases g with
  | apart s value | joined s value => exact Prod.ext s.target_flag rfl
  | shell | fromAddress => rfl

/-- what groups set -/
def sets (gs : List Group) : List (String × Value) := gs.map fun g => (g.target, g.value)

theorem map_sets_phrase (gs : List Group) : (gs.map phrase).map Phrase.sets = sets gs := by
  rw [List.map_map]
  exact List.map_congr_left fun g _ => g.sets_phrase

theorem lastOf?_setting (s : Setting) (gs : List Group) :
    lastOf? (sets gs) s.target = (gs.filterMap (value? s)).getLast?.map .text := by
  rw [lastOf?, sets, List.filterMap_map, ← List.getLast?_map, List.map_filterMap]
  refine congrArg _ (List.filterMap_congr fun g _ => ?_)
  obtain ⟨-, haddress, hshell⟩ := s.target_ne
  cases g with
  | apart t value | joined t value =>
    show (if t.target = s.target then some (Value.text value) else none) = _
    by_cases h : t = s
    · simp [value?, h]
    · simp [value?, h, mt Setting.target_inj h]
  | shell => exact if_neg (Ne.symm hshell)
  | fromAddress => exact if_neg (Ne.symm haddress)

/-- a switch is on if it is there -/
theorem lastOf?_switch {g : Group} (hon : g.value = .bool true)
    (hother : ∀ g' : Group, g' ≠ g → g'.target ≠ g.target) (gs : List Group) :
    lastOf? (sets gs) g.target = if g ∈ gs then some (.bool true) else none := by
  induction gs with
  | nil => rfl
  | cons g' gs ih =>
    show lastOf? ([(g'.target, g'.value)] ++ sets gs) g.target = _
    rw [lastOf?_append, ih, lastOf?_singleton]
    by_cases h : g' = g
    · subst h
      by_cases hmem : g' ∈ gs <;> simp [hmem, hon]
    · rw [if_neg (hother g' h)]
      simp [Ne.symm h]

theorem lastOf?_shell (gs : List Group) :
    lastOf? (sets gs) "shell" = if .shell ∈ gs then some (.bool true) else none := by
  refine lastOf?_switch (g := .shell) rfl (fun g hg => ?_) gs
  cases g with
  | apart s value | joined s value => exact s.target_ne.2.2
  | shell => exact absurd rfl hg
  | fromAddress => decide

theorem lastOf?_fromAddress (gs : List Group) :
    lastOf? (sets gs) "from_address" = if .fromAddress ∈ gs then some (.bool true) else none := by
  refine lastOf?_switch (g := .fromAddress) rfl (fun g hg => ?_) gs
  cases g with
  | apart s value | joined s value => exact s.target_ne.2.1
  | shell => decide
  | fromAddress => exact absurd rfl hg

/-- nobody asks for the version -/
theorem lastOf?_version (gs : List Group) : lastOf? (sets gs) "version" = none := by
  refine lastOf?_eq_none fun a ha => ?_
  obtain ⟨g, -, rfl⟩ := List.mem_map.mp ha
  cases g with
  | apart s value | joined s value => exact s.target_ne.1
  | shell | fromAddress => show _ ≠ _; decide

end Group

/-! ## the command line -/

theorem fields_defaults : parser.defaults.entries.fields = [("proxy", .null),
    ("version", .bool false), ("log_level", .text "WARNING"), ("log_file", .null),
    ("log_format", .text Log.standardTemplate), ("store", .text "properties"),
    ("from_address", .bool false), ("shell", .bool false)] := by
  rfl

theorem keys_defaults : parser.defaults.entries.map (·.1) = ["proxy", "version", "log_level",
    "log_file", "log_format", "store", "from_address", "shell"] := by
  rfl

theorem parser_tidy : parser.Tidy (proxyFlag, 1) where
  simple := parser_simple
  noSign := by decide +kernel
  positionals := positionals_eq
  targets := by
    rw [keys_defaults]
    exact forall_flags ⟨fun h => absurd rfl h, by decide, by decide, by decide, by decide,
      by decide, by decide, by decide, by decide⟩
  nodup := by
    rw [keys_defaults]
    decide
  honest := by
    intro f hf slot text hslot hdefault _
    obtain ⟨slot', hslot', hvalue⟩ := exists_default f.1 (List.fst_mem_of_mem_zipIdx hf)
      (by rw [hdefault]; rfl)
    rw [hslot] at hslot'
    obtain rfl := Option.some.inj hslot'
    exact Option.some.inj (hvalue.symm.trans hdefault)
  noExtras := rfl

/-- the last values of all targets, in their order -/
theorem fields_read (gs : List Group) (proxy : Option String) :
    (parser.defaults.entries.fields.map fun e => (e.1,
      if e.1 = "proxy" then proxy.elim .null .text else (lastOf? (Group.sets gs) e.1).getD e.2))
      = namespaceOf gs proxy := by
  have hlevel := Group.lastOf?_setting .logLevel gs
  have hfile := Group.lastOf?_setting .logFile gs
  have hformat := Group.lastOf?_setting .logFormat gs
  have hstore := Group.lastOf?_setting .store gs
  simp only [Setting.target] at hlevel hfile hformat hstore
  have hswitch (p : Prop) [Decidable p] :
      (if p then some (Value.bool true) else none).getD (.bool false) = .bool (decide p) := by
    by_cases hp : p <;> simp [hp]
  rw [fields_defaults]
  simp only [List.map_cons, List.map_nil, hlevel, hfile, hformat, hstore, Group.lastOf?_shell,
    Group.lastOf?_fromAddress, Group.lastOf?_version, hswitch, namespaceOf, lastValue,
    Setting.default]
  rfl

/-- **Options in any order.**  Whatever settings and switches a command line gives, in one word or
two, in whatever order and how often, and wherever the proxy stands among them: each setting has the
last value that it is given, or its default, the switches are on that are there, and the proxy is
the one that is given, or none. -/
theorem readValues_groups {before behind : List Group} (hgroups : ∀ g ∈ before ++ behind, g.Valid)
    {proxy : Option String} (hproxy : ∀ w, proxy = some w → w.toList.head? ≠ some '-')
    (c : Console) :
    readValues (.list ((before.flatMap Group.words ++ proxy.toList
        ++ behind.flatMap Group.words).map .text)) c
      = (.ok (namespaceOf (before ++ behind) proxy), c) := by
  have hphrases : ∀ ph ∈ before.map Group.phrase ++ behind.map Group.phrase, ph.Valid parser := by
    rw [← List.map_append, List.forall_mem_map]
    exact fun g hg => (hgroups g hg).phrase
  have hread := Parser.read_line parser_tidy hphrases
    fun w hw => startsWithDash_eq_false_iff.mpr (hproxy w hw)
  have hwords (gs : List Group) : (gs.map Group.phrase).flatMap Phrase.words
      = gs.flatMap Group.words := by
    rw [List.flatMap_map]
    exact congrArg gs.flatMap (funext Group.words_phrase)
  rw [hwords, hwords, ← List.map_append, Group.map_sets_phrase] at hread
  rw [readValues_texts, hread]
  exact congrArg (fun values => (Except.ok values, c)) (fields_read _ proxy)

/-- two stores, values that are empty or look like an option, and the proxy between them -/
theorem readValues_groups_mixed :
    let before : List Group := [.apart .store "environ", .shell, .joined .logLevel "-d"]
    let behind : List Group := [.joined .store "properties", .apart .logFile "", .shell]
    let c := ProcessState.relayed.console
    (∀ g ∈ before ++ behind, g.Valid) ∧
      (∀ w, some "h:1" = some w → w.toList.head? ≠ some '-') ∧
      readValues (.list (["--store", "environ", "--shell", "--log-level=-d", "h:1",
        "--store=properties", "--log-file", "", "--shell"].map .text)) c
        = (.ok [("proxy", .text "h:1"), ("version", .bool false), ("log_level", .text "-d"),
            ("log_file", .text ""), ("log_format", .text Log.standardTemplate),
            ("store", .text "properties"), ("from_address", .bool false),
            ("shell", .bool true)], c) := by
  intro before behind c
  have hgroups : ∀ g ∈ before ++ behind, g.Valid := by
    simp [before, behind, Group.Valid, Setting.Takes]
  have hproxy : ∀ w, some "h:1" = some w → w.toList.head? ≠ some '-' := by
    intro w hw
    rw [← Option.some.inj hw]
    decide
  exact ⟨hgroups, hproxy, readValues_groups hgroups hproxy c⟩

end ProxyInjector.Program
