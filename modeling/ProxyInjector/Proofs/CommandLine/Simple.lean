import Mathlib.Data.List.Nodup
import ProxyInjector.CommandLine.Reading

/-!
# Simple flags

A parser may be given flags that fault when they are used.  Simple flags do not: they ask for help,
switch something on, take one text, or stand for one text that may be left out.

* `Ends E P`          a result that satisfies `P`, or a stop that satisfies `E`;
* `Halt.Regular`      help, or something wrong that can be told;
* `Flag.Simple`       the flags, and what they may get (`Suits`) and set (`Admits`);
* `Flag.Form.use`     a simple flag makes a value that it may set out of what it may get;
* `Parser.Simple`     all flags are simple, and each has a target of its own.
-/

namespace ProxyInjector.CommandLine

/-! ## ends -/

section
variable {ε α β : Type} {E F : ε → Prop} {P : α → Prop} {Q : β → Prop}

/-- a result that satisfies `P`, or a stop that satisfies `E` -/
def Ends (E : ε → Prop) (P : α → Prop) : Except ε α → Prop
  | .ok a => P a
  | .error e => E e

theorem Ends.bind {x : Except ε α} {f : α → Except ε β} (hx : Ends E P x)
    (hf : ∀ a, P a → Ends E Q (f a)) : Ends E Q (x >>= f) := by
  cases x with
  | ok a => exact hf a hx
  | error e => exact hx

theorem Ends.mono {x : Except ε α} {P' : α → Prop} (hx : Ends E P x) (hP : ∀ a, P a → P' a) :
    Ends E P' x := by
  cases x with
  | ok a => exact hP a hx
  | error e => exact hx

end

/-! ## stops that say what is wrong -/

/-- help is asked for, or the command line is wrong in a way that can be told -/
inductive Halt.Regular : Halt → Prop where
  | help : Regular .help
  | refused {r : Refusal} {message : String} (h : r.message? = .ok message) : Regular (.refused r)

/-- a regular stop with no object of a flag among the values -/
def Stop.Regular (stop : Stop) : Prop := stop.slots.objects = [] ∧ stop.halt.Regular

theorem Slots.ends_step {α : Type} {s : Slots} (hs : s.objects = []) {P : α → Prop}
    {x : Except Halt α} (hx : Ends Halt.Regular P x) : Ends Stop.Regular P (s.step x) := by
  cases x with
  | ok a => exact hx
  | error h => exact ⟨hs, hx⟩

theorem Refusal.about_ok {f : Flag} (hf : f.names ≠ []) (text : String) :
    ∃ message, about f text = .ok message := by
  have hlabel : f.label? = .ok (some (.text ("/".intercalate f.names))) := by
    have hpositional : f.isPositional = false := by simpa [Flag.isPositional] using hf
    simp [Flag.label?, hpositional]
  rw [about, hlabel]
  exact ⟨_, rfl⟩

namespace Flag

/-! ## flags -/

/-- a name of two dashes and more -/
def IsLong (name : String) : Prop := ∃ c cs, name.toList = '-' :: '-' :: c :: cs

/-- what a simple flag may be -/
inductive Form (f : Flag) : Prop where
  | help (named : f.names ≠ []) (arity : f.arity = .exactly 0) (action : f.action = .help)
      (conversion : f.conversion = none)
  | switch (named : f.names ≠ []) (arity : f.arity = .exactly 0) (action : f.action = .setConstant)
      (conversion : f.conversion = none)
  | setting (named : f.names ≠ []) (long : ∀ n ∈ f.names, IsLong n) (arity : f.arity = .one)
      (action : f.action = .store) (conversion : f.conversion = some .text)
      (choices : ∀ c, f.choices = some c → ∃ vs, c = .among vs)
  | operand (nameless : f.names = []) (arity : f.arity = .optional) (action : f.action = .store)
      (conversion : f.conversion = none) (choices : f.choices = none)
      (default : f.default = some .null)

structure Simple (f : Flag) : Prop where
  form : f.Form
  target : f.target ∉ ["__class__", "__dict__", "__weakref__", Parser.extrasTarget]
  isText : f.oddTarget = none
  optional : f.required = false
  names : ∀ n ∈ f.names, 2 ≤ n.length

/-- one of the words is a name of the flag, perhaps shortened, with a bare double dash behind an
equals sign -/
def Dashed (words : List String) (f : Flag) : Prop :=
  ∃ w ∈ words, ∃ n ∈ f.names, ∃ front, front <+: n.toList ∧ w.toList = front ++ ['=', '-', '-']

/-- arguments that a simple flag may get out of the words -/
structure Suits (words : List String) (f : Flag) (args : List Value) : Prop where
  nothing : f.arity = .exactly 0 → args = []
  text : f.arity = .one → ∃ v, args = [.text v] ∧ (v = "--" → f.Dashed words)
  atMostOne : f.arity = .optional → withoutBar args = [] ∨ ∃ v, withoutBar args = [.text v]

/-- values that a simple flag may set: its own, a text that its choices allow, or nothing in the
place of a double dash -/
inductive Admits (words : List String) (f : Flag) : Value → Prop where
  | default {v : Value} (h : f.default = some v) : Admits words f v
  | constant (h : f.action = .setConstant) : Admits words f f.constant
  | text {s : String} (h : f.check (.text s) = .ok (.text s)) : Admits words f (.text s)
  | nothing (harity : f.arity = .one) (h : f.Dashed words) : Admits words f (.list [])

section
variable {f : Flag} {words : List String}

theorem value_nothing (h : f.arity = .exactly 0) : f.value [] = .ok (some (.list [])) := by
  simp only [value, counted, h, Arity.isVerbatim]
  rfl

theorem withoutBar_cons {v : String} (hv : v ≠ "--") (args : List Value) :
    withoutBar (.text v :: args) = .text v :: withoutBar args := by
  rw [withoutBar.eq_def]
  split
  · next h => cases h
  · next h =>
    obtain ⟨h, -⟩ := List.cons.inj h
    exact absurd (Value.text.inj h) hv
  · next h =>
    cases h
    rfl

theorem value_text (harity : f.arity = .one) (hconversion : f.conversion = some .text) {v : String}
    (hv : v ≠ "--") : f.value [.text v] = (f.check (.text v)).map some := by
  have hcounted : f.counted [.text v] = [.text v] := by
    rw [counted, harity]
    exact withoutBar_cons hv []
  simp only [value, hcounted, harity, convert, hconversion]
  rfl

theorem value_dashed (harity : f.arity = .one) : f.value [.text "--"] = .ok (some (.list [])) := by
  simp only [value, counted, harity, Arity.isVerbatim]
  rfl

theorem Form.convert_text (hf : f.Form) (s : String) : f.convert (.text s) = .ok (.text s) := by
  unfold convert
  cases hf with
  | help _ _ _ conversion => rw [conversion]
  | switch _ _ _ conversion => rw [conversion]
  | setting _ _ _ _ conversion => rw [conversion]; rfl
  | operand _ _ _ conversion => rw [conversion]

theorem act_store (h : f.action = .store) {v : Value} (hv : f.Admits words v) (held : Held) :
    Ends Halt.Regular (f.Admits words) (f.act held v) := by
  rw [act, h]
  exact hv

/-- a text is one of the choices, or refused -/
theorem check_text (h : ∀ c, f.choices = some c → ∃ vs, c = .among vs) (v : String) :
    f.check (.text v) = .ok (.text v) ∨
      ∃ vs, f.check (.text v) = .error (.refused (.invalidChoice f (.text v) (.among vs))) := by
  cases hchoices : f.choices with
  | none => exact .inl (by rw [check, hchoices])
  | some c =>
    obtain ⟨vs, rfl⟩ := h c hchoices
    cases hany : vs.any (·.same (.text v)) with
    | true => exact .inl (by simp only [check, hchoices, Choices.contains, hany])
    | false => exact .inr ⟨vs, by simp only [check, hchoices, Choices.contains, hany]⟩

section
variable {args : List Value}

theorem counted_optional (h : f.arity = .optional) : f.counted args = withoutBar args := by
  rw [counted, h]
  rfl

theorem value_absent (hnames : f.names = []) (harity : f.arity = .optional)
    (hdefault : f.default = some .null) (hargs : withoutBar args = []) :
    f.value args = .ok (some .null) := by
  have hpositional : f.isPositional = true := by rw [isPositional, hnames]; rfl
  simp only [value, counted_optional harity, hargs, harity, hpositional, hdefault]
  rfl

theorem value_operand (harity : f.arity = .optional) (hconversion : f.conversion = none)
    {v : String} (hcheck : f.check (.text v) = .ok (.text v))
    (hargs : withoutBar args = [.text v]) : f.value args = .ok (some (.text v)) := by
  simp only [value, counted_optional harity, hargs, harity, convert, hconversion]
  show Except.map some (f.check (.text v)) = _
  rw [hcheck]
  rfl

/-- a simple flag makes of what it gets a value that it may set -/
theorem Form.use (hf : f.Form) (hargs : f.Suits words args) :
    Ends Halt.Regular (fun v? => ∃ v, v? = some v ∧
      ∀ held, Ends Halt.Regular (f.Admits words) (f.act held v)) (f.value args) := by
  cases hf with
  | help named arity action =>
    rw [hargs.nothing arity, value_nothing arity]
    refine ⟨_, rfl, fun held => ?_⟩
    rw [act, action]
    exact .help
  | switch named arity action =>
    rw [hargs.nothing arity, value_nothing arity]
    refine ⟨_, rfl, fun held => ?_⟩
    rw [act, action]
    exact .constant action
  | setting named long arity action conversion choices =>
    obtain ⟨v, rfl, hdashed⟩ := hargs.text arity
    by_cases hv : v = "--"
    · subst hv
      rw [value_dashed arity]
      exact ⟨_, rfl, act_store action (.nothing arity (hdashed rfl))⟩
    · rw [value_text arity conversion hv]
      rcases check_text choices v with hcheck | ⟨vs, hcheck⟩
      · rw [hcheck]
        exact ⟨_, rfl, act_store action (.text hcheck)⟩
      · rw [hcheck]
        obtain ⟨message, hmessage⟩ := Refusal.about_ok named _
        exact .refused hmessage
  | operand nameless arity action conversion choices default =>
    rcases hargs.atMostOne arity with hnone | ⟨v, hv⟩
    · rw [value_absent nameless arity default hnone]
      exact ⟨_, rfl, act_store action (.default default)⟩
    · have hcheck : f.check (.text v) = .ok (.text v) := by rw [check, choices]
      rw [value_operand arity conversion hcheck hv]
      exact ⟨_, rfl, act_store action (.text hcheck)⟩

end

end

end Flag

/-! ## parsers -/

structure Parser.Simple (p : Parser) : Prop where
  flags : ∀ f ∈ p.flags, f.Simple
  targets : (p.flags.map Flag.target).Nodup

namespace Parser.Simple

variable {p : Parser} {f : Known}

theorem known (h : p.Simple) (hf : f ∈ p.flags.zipIdx) : f.1.Simple :=
  h.flags f.1 (List.fst_mem_of_mem_zipIdx hf)

theorem eq_of_target (h : p.Simple) {f g : Flag} (hf : f ∈ p.flags) (hg : g ∈ p.flags)
    (htarget : f.target = g.target) : f = g :=
  List.inj_on_of_nodup_map h.targets hf hg htarget

/-- a flag with a name takes nothing, or one text -/
theorem arity (h : p.Simple) (hf : f ∈ p.flags.zipIdx) {name : String} (hname : name ∈ f.1.names) :
    f.1.arity = .exactly 0 ∨ f.1.arity = .one := by
  cases (h.known hf).form with
  | help _ arity => exact .inl arity
  | switch _ arity => exact .inl arity
  | setting _ _ arity => exact .inr arity
  | operand nameless =>
    rw [nameless] at hname
    cases hname

/-- of the flags with names only those with long ones take a text -/
theorem isLong (h : p.Simple) (hf : f ∈ p.flags.zipIdx) {name : String} (hname : name ∈ f.1.names)
    (harity : f.1.arity = .one) : Flag.IsLong name := by
  cases (h.known hf).form with
  | help _ arity => rw [arity] at harity; cases harity
  | switch _ arity => rw [arity] at harity; cases harity
  | setting _ long => exact long name hname
  | operand nameless =>
    rw [nameless] at hname
    cases hname

theorem arity_of_positional (h : p.Simple) (hf : f ∈ p.flags.zipIdx) (hnames : f.1.names = []) :
    f.1.arity = .optional := by
  cases (h.known hf).form with
  | help named => exact absurd hnames named
  | switch named => exact absurd hnames named
  | setting named => exact absurd hnames named
  | operand _ arity => exact arity

end Parser.Simple

namespace Parser

variable {p : Parser}

theorem mem_options {name : String} {f : Known} (h : (name, f) ∈ p.options) :
    f ∈ p.flags.zipIdx ∧ name ∈ f.1.names := by
  obtain ⟨g, hg, hmem⟩ := List.mem_flatMap.mp h
  obtain ⟨n, hn, heq⟩ := List.mem_map.mp hmem
  cases heq
  exact ⟨hg, List.mem_eraseDups.mp hn⟩

theorem option?_known {name : String} {f : Known} (h : p.option? name = some f) :
    f ∈ p.flags.zipIdx ∧ name ∈ f.1.names := by
  obtain ⟨o, ho, rfl⟩ := Option.map_eq_some_iff.mp h
  have hname : o.1 = name := by simpa using List.find?_some ho
  subst hname
  exact mem_options (List.mem_of_find?_eq_some ho)

end Parser

end ProxyInjector.CommandLine
