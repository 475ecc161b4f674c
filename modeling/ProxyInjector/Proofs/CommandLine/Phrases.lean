import ProxyInjector.Proofs.CommandLine.Spelled

/-!
# Options with words for their values

A phrase is an option as it may be written: in one word, or with its value in the next word.

* `Phrase`                          an option with its words;
* `Parser.recognizeAll_phrases`     the words are recognized, whatever follows them;
* `Parser.takeAllFrom_phrases`      phrases set their values one behind the other, whatever follows;
* `Progress.takePositionals_word`   a word that is no option goes to the positional flag, in front
                                    of phrases (`Parser.takeAllFrom_word`) and at the end.
-/

namespace ProxyInjector.CommandLine

/-! ## phrases -/

/-- an option in one word, or a name with its value in the next word -/
inductive Phrase where
  | joined (s : Spelling)
  | apart (flag : Known) (name value : String)

namespace Phrase

def flag : Phrase → Known
  | .joined s => s.flag
  | .apart flag _ _ => flag

def words : Phrase → List String
  | .joined s => [s.word]
  | .apart _ name value => [name, value]

def arguments : Phrase → List Argument
  | .joined s => [s.argument]
  | .apart flag name value =>
    [(.text name, .option ⟨some flag, name, none⟩), (.text value, .plain)]

/-- what the option sets -/
def sets : Phrase → String × Value
  | .joined s => s.sets
  | .apart flag _ value => (flag.1.target, .text value)

/-- the option is the flag's, and the flag takes what is written there -/
inductive Valid (p : Parser) : Phrase → Prop
  | joined {s : Spelling} (h : s.Valid p) : Valid p (.joined s)
  | apart {flag : Known} {name value : String} (named : p.option? name = some flag)
    (dashed : startsWithDash name = true) (noBar : name ≠ "--")
    (form : flag.1.arity = .one ∧ flag.1.action = .store ∧ flag.1.conversion = some .text)
    (plain : startsWithDash value = false)
    (check : flag.1.check (.text value) = .ok (.text value)) : Valid p (.apart flag name value)

theorem Valid.known {p : Parser} {ph : Phrase} (h : ph.Valid p) : ph.flag ∈ p.flags.zipIdx := by
  cases h with
  | joined h => exact (Parser.option?_known h.named).1
  | apart named => exact (Parser.option?_known named).1

theorem Valid.form {p : Parser} {ph : Phrase} (h : ph.Valid p) : ph.flag.1.names ≠ [] ∧
    (ph.flag.1.action = .setConstant ∨ ph.flag.1.action = .store) := by
  cases h with
  | @joined s h =>
    refine ⟨List.ne_nil_of_mem (Parser.option?_known h.named).2, ?_⟩
    cases hv : s.value with
    | none => exact .inl (h.alone hv).2
    | some v => exact .inr (h.withText v hv).2.1
  | apart named _ _ form =>
    exact ⟨List.ne_nil_of_mem (Parser.option?_known named).2, .inr form.2.1⟩

theorem target_sets (ph : Phrase) : ph.sets.1 = ph.flag.1.target := by
  cases ph <;> rfl

end Phrase

theorem ne_bar_of_plain {w : String} (h : startsWithDash w = false) : w ≠ "--" := by
  rintro rfl
  cases h

namespace Parser

variable {p : Parser}

theorem recognize_name {name : String} {f : Known} (hnamed : p.option? name = some f)
    (hdashed : startsWithDash name = true) :
    p.recognize (.text name) = .ok (.option ⟨some f, name, none⟩) := by
  have hne : name ≠ "" := by
    rintro rfl
    cases hdashed
  have htruthy : (Value.text name).truthy = true := bne_iff_ne.mpr hne
  have htext : p.recognizeText name = .ok (.option ⟨some f, name, none⟩) := by
    rw [recognizeText, hdashed, hnamed]
    rfl
  unfold recognize
  rw [htruthy]
  exact htext

theorem recognize_plain {w : String} (h : startsWithDash w = false) :
    p.recognize (.text w) = .ok .plain := by
  have htext : p.recognizeText w = .ok .plain := by
    rw [recognizeText, h]
    rfl
  unfold recognize
  split
  · rfl
  · exact htext

theorem recognizeAll_cons {w : String} (hbar : w ≠ "--") {role : Role}
    (hrole : p.recognize (.text w) = .ok role) (rest : List Value) :
    p.recognizeAll (.text w :: rest) = (p.recognizeAll rest).map ((.text w, role) :: ·) := by
  have hdouble : isDoubleDash (.text w) = false := beq_false_of_ne hbar
  rw [recognizeAll, hdouble, if_neg Bool.false_ne_true, hrole]
  cases p.recognizeAll rest <;> rfl

/-! ## reading them -/

theorem recognizeAll_phrase (hp : ∀ o ∈ p.options, '=' ∉ o.1.toList) {ph : Phrase}
    (h : ph.Valid p) (rest : List Value) :
    p.recognizeAll (ph.words.map .text ++ rest)
      = (p.recognizeAll rest).map (ph.arguments ++ ·) := by
  cases h with
  | @joined s h => exact recognizeAll_spellings hp (List.forall_mem_singleton.mpr h) rest
  | apart named dashed noBar _ plain _ =>
    show p.recognizeAll (.text _ :: .text _ :: rest) = _
    rw [recognizeAll_cons noBar (recognize_name named dashed),
      recognizeAll_cons (ne_bar_of_plain plain) (recognize_plain plain)]
    cases p.recognizeAll rest <;> rfl

theorem recognizeAll_phrases (hp : ∀ o ∈ p.options, '=' ∉ o.1.toList) {phs : List Phrase}
    (hphs : ∀ ph ∈ phs, ph.Valid p) (rest : List Value) :
    p.recognizeAll ((phs.flatMap Phrase.words).map .text ++ rest)
      = (p.recognizeAll rest).map (phs.flatMap Phrase.arguments ++ ·) := by
  induction phs with
  | nil =>
    rw [List.flatMap_nil, List.map_nil, List.nil_append]
    cases p.recognizeAll rest <;> rfl
  | cons ph phs ih =>
    obtain ⟨hph, hphs⟩ := List.forall_mem_cons.mp hphs
    rw [List.flatMap_cons, List.map_append, List.append_assoc, recognizeAll_phrase hp hph, ih hphs,
      List.flatMap_cons]
    cases p.recognizeAll rest with
    | error e => rfl
    | ok args => simp [Except.map]

/-- an option with its value behind it takes the two -/
theorem takeOption_apart (hp : p.Simple) {f : Known} {name value : String}
    (h : (Phrase.apart f name value).Valid p) (t : Progress) (rest : List Argument) :
    p.takeOption t ⟨some f, name, none⟩ (.text name) ((.text value, .plain) :: rest)
      = .ok ({ t with
          slots := t.slots.put f.1.target { value := .text value }
          seen := f.2 :: t.seen }, rest) := by
  cases h with
  | apart named _ _ form plain check =>
    obtain ⟨harity, haction, hconversion⟩ := form
    obtain ⟨hknown, -⟩ := option?_known named
    have hvalue : f.1.value [.text value] = .ok (some (.text value)) := by
      rw [Flag.value_text harity hconversion (ne_bar_of_plain plain), check]
      rfl
    have hact (held : Held) : f.1.act held (.text value) = .ok (.text value) := by
      rw [Flag.act, haction]
    have htaken := t.take_of_value (hp.known hknown) hvalue hact
    have hunfold : p.unfold f name (Progress.marks ((.text value, .plain) :: rest)) none
        = .ok ([(f, none)], 1) := by
      rw [unfold_text harity]
      rfl
    simp only [takeOption, hunfold, Slots.step, Except.mapError, bind, Except.bind, withArguments,
      Option.map_none, Option.getD_none, List.take_succ_cons, List.take_zero, Progress.words,
      List.map_cons, List.map_nil, Progress.takeEach, htaken, List.drop_succ_cons, List.drop_zero]

theorem takeAllFrom_phrase (hp : p.Simple) {ph : Phrase} (h : ph.Valid p) (fuel : Nat)
    (t : Progress) (rest : List Argument) :
    p.takeAllFrom (fuel + 1) t (ph.arguments ++ rest)
      = p.takeAllFrom fuel { t with
          slots := t.slots.put ph.sets.1 { value := ph.sets.2 }
          seen := ph.flag.2 :: t.seen } rest := by
  cases ph with
  | joined s =>
    cases h with
    | joined h => exact takeAllFrom_spellings hp (List.forall_mem_singleton.mpr h) fuel t rest
  | apart f name value =>
    show p.takeAllFrom (fuel + 1) t
      ((.text name, .option ⟨some f, name, none⟩) :: (.text value, .plain) :: rest) = _
    rw [takeAllFrom_option, takeOption_apart hp h]
    rfl

theorem takeAllFrom_phrases (hp : p.Simple) {phs : List Phrase} (hphs : ∀ ph ∈ phs, ph.Valid p)
    (fuel : Nat) (t : Progress) (rest : List Argument) :
    p.takeAllFrom (fuel + phs.length) t (phs.flatMap Phrase.arguments ++ rest)
      = p.takeAllFrom fuel { t with
          slots := t.slots.assign (phs.map Phrase.sets)
          seen := (phs.map fun ph => ph.flag.2).reverse ++ t.seen } rest := by
  induction phs generalizing t with
  | nil => rfl
  | cons ph phs ih =>
    obtain ⟨hph, hphs⟩ := List.forall_mem_cons.mp hphs
    have hseen : ((ph :: phs).map fun ph => ph.flag.2).reverse ++ t.seen
        = (phs.map fun ph => ph.flag.2).reverse ++ ph.flag.2 :: t.seen := by simp
    rw [List.length_cons, ← Nat.add_assoc, List.flatMap_cons, List.append_assoc,
      takeAllFrom_phrase hp hph, hseen]
    exact ih hphs _

end Parser

/-! ## the positional flag -/

theorem Flag.Simple.operand {f : Flag} (h : f.Simple) (hnames : f.names = []) :
    f.arity = .optional ∧ f.action = .store ∧ f.conversion = none ∧ f.choices = none ∧
      f.default = some .null := by
  cases h.form with
  | help named => exact absurd hnames named
  | switch named => exact absurd hnames named
  | setting named => exact absurd hnames named
  | operand _ arity action conversion choices default =>
    exact ⟨arity, action, conversion, choices, default⟩

theorem partialCounts_word {ms : List Mark} (h : Arity.run Arity.isBar ms = 0) :
    partialCounts [.optional] (.plain :: ms) = [1] := by
  have hcounts : Arity.optional.counts true (.plain :: ms)
      = Arity.down (1 + Arity.run Arity.isBar ms) 1 ++ [0] := rfl
  have hone : countsOf? [.optional] (.plain :: ms) = some [1] := by
    rw [countsOf?, hcounts, h]
    rfl
  show ((List.range 1).reverse.findSome?
    fun n => countsOf? ([Arity.optional].take (n + 1)) (.plain :: ms)).getD [] = [1]
  simp [hone]

namespace Progress

section
variable {f : Known} (hf : f.1.Simple) (hnames : f.1.names = []) (t : Progress)
include hf hnames

/-- a word that is no option goes to the positional flag -/
theorem takePositionals_word (ht : t.pending = [f]) {w : String} (hw : w ≠ "--")
    {rest : List Argument} (hrest : Arity.run Arity.isBar (marks rest) = 0) :
    t.takePositionals ((.text w, .plain) :: rest) = .ok ({ t with
      slots := t.slots.put f.1.target { value := .text w }
      seen := f.2 :: t.seen
      pending := [] }, rest) := by
  obtain ⟨harity, haction, hconversion, hchoices, -⟩ := hf.operand hnames
  have hcheck : f.1.check (.text w) = .ok (.text w) := by rw [Flag.check, hchoices]
  have hvalue : f.1.value [.text w] = .ok (some (.text w)) :=
    Flag.value_operand harity hconversion hcheck (Flag.withoutBar_cons hw [])
  have hact (held : Held) : f.1.act held (.text w) = .ok (.text w) := by rw [Flag.act, haction]
  have htaken := t.take_of_value hf hvalue hact
  have hcounts : partialCounts [f.1.arity] (marks ((.text w, .plain) :: rest)) = [1] := by
    rw [harity]
    exact partialCounts_word hrest
  simp only [takePositionals, ht, List.map_cons, List.map_nil, hcounts, deal, words,
    List.take_succ_cons, List.take_zero, takeEach, htaken, bind, Except.bind]
  rfl

/-- without a word the positional flag is left its default -/
theorem takePositionals_nil (ht : t.pending = [f]) :
    t.takePositionals [] = .ok ({ t with
      slots := t.slots.put f.1.target { value := .null }
      seen := f.2 :: t.seen
      pending := [] }, []) := by
  obtain ⟨harity, haction, -, -, hdefault⟩ := hf.operand hnames
  have hvalue : f.1.value [] = .ok (some .null) :=
    Flag.value_absent hnames harity hdefault rfl
  have hact (held : Held) : f.1.act held .null = .ok .null := by rw [Flag.act, haction]
  have htaken := t.take_of_value hf hvalue hact
  have hcounts : partialCounts [f.1.arity] (marks []) = [0] := by
    rw [harity]
    decide
  simp only [takePositionals, ht, List.map_cons, List.map_nil, hcounts, deal, words,
    List.take_nil, takeEach, htaken, bind, Except.bind]
  rfl

end

/-- nothing is left to take -/
theorem takePositionals_done {t : Progress} (ht : t.pending = []) :
    t.takePositionals [] = .ok (t, []) := by
  obtain ⟨slots, pending, seen, extras⟩ := t
  obtain rfl : pending = [] := ht
  rfl

end Progress

namespace Parser

variable {p : Parser}

/-- where no option is left, positional flags take all -/
theorem takeAllFrom_plain {args : List Argument} (hplain : args.all isPlain = true) (fuel : Nat)
    {t u : Progress} (h : t.takePositionals args = .ok (u, [])) :
    p.takeAllFrom (fuel + 1) t args = .ok u := by
  unfold takeAllFrom
  rw [if_pos hplain, h]
  show Except.ok { u with extras := u.extras ++ [] } = _
  rw [List.append_nil]

/-- a word in front of phrases goes to the positional flag -/
theorem takeAllFrom_word {f : Known} (hf : f.1.Simple) (hnames : f.1.names = []) (fuel : Nat)
    {t : Progress} (ht : t.pending = [f]) {w : String} (hw : w ≠ "--") (phs : List Phrase) :
    p.takeAllFrom (fuel + 2) t ((.text w, .plain) :: phs.flatMap Phrase.arguments)
      = p.takeAllFrom (fuel + 1) { t with
          slots := t.slots.put f.1.target { value := .text w }
          seen := f.2 :: t.seen
          pending := [] } (phs.flatMap Phrase.arguments) := by
  cases phs with
  | nil =>
    have hrest : Arity.run Arity.isBar (Progress.marks []) = 0 := rfl
    have htaken := t.takePositionals_word hf hnames ht hw hrest
    rw [List.flatMap_nil, takeAllFrom_plain rfl _ htaken,
      takeAllFrom_plain rfl _ (Progress.takePositionals_done rfl)]
  | cons ph phs =>
    obtain ⟨v, o, rest, hhead⟩ : ∃ v o rest,
        (ph :: phs).flatMap Phrase.arguments = (v, .option o) :: rest := by
      cases ph <;> exact ⟨_, _, _, rfl⟩
    have hrest : Arity.run Arity.isBar (Progress.marks ((v, .option o) :: rest)) = 0 := rfl
    have htaken := t.takePositionals_word hf hnames ht hw hrest
    have hplain : ((Value.text w, Role.plain) :: (v, .option o) :: rest).all isPlain = false := rfl
    rw [hhead]
    conv_lhs => unfold takeAllFrom
    rw [hplain, if_neg Bool.false_ne_true]
    dsimp only
    rw [htaken]
    exact if_pos (Nat.lt_succ_self _)

end Parser

end ProxyInjector.CommandLine
