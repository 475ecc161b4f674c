import ProxyInjector.Proofs.CommandLine.Simple

/-!
# Flags that arguments name

Whatever flags a parser has and whatever it reads, it gives arguments to its own flags only: to
those that the arguments name, and to the positional ones.

* `Yields P`               a result that satisfies `P`, if there is one;
* `recognizeText_offers`   what a word may be;
* `recognizeAll_known`     what arguments name are flags of the parser;
* `unfold_known`           so are the flags that stand together in one argument;
* `withArguments_known`    these get the arguments of the option;
* `deal_known`             the positional flags get others.
-/

namespace ProxyInjector.CommandLine

/-! ## ends that are only looked at where there is a result -/

section
variable {α β : Type} {P : α → Prop} {Q : β → Prop}

/-- the result, if there is one, satisfies `P` -/
abbrev Yields (P : α → Prop) {ε : Type} : Except ε α → Prop := Ends (fun _ => True) P

theorem Yields.of {ε : Type} {x : Except ε α} (h : ∀ a, x = .ok a → P a) : Yields P x := by
  cases x with
  | ok a => exact h a rfl
  | error e => trivial

theorem Yields.ok {ε : Type} {x : Except ε α} (hx : Yields P x) {a : α} (h : x = .ok a) : P a := by
  subst h
  exact hx

theorem Ends.yields {ε : Type} {E : ε → Prop} {R : α → Prop} {x : Except ε α} (hx : Ends E R x)
    (hR : ∀ a, R a → P a) : Yields P x := by
  cases x with
  | ok a => exact hR a hx
  | error e => trivial

theorem Yields.step {s : Slots} {x : Except Halt α} (hx : Yields P x) : Yields P (s.step x) := by
  cases x with
  | ok a => exact hx
  | error e => trivial

theorem Yields.suit {s : Slots} {x : Except Unsuited α} (hx : Yields P x) :
    Yields P (s.suit x) := by
  cases x with
  | ok a => exact hx
  | error e => trivial

theorem Yields.map {ε : Type} {x : Except ε α} {f : α → β} (hx : Yields (fun a => Q (f a)) x) :
    Yields Q (x.map f) := by
  cases x with
  | ok a => exact hx
  | error e => trivial

theorem Yields.any {ε : Type} (x : Except ε α) : Yields (fun _ => True) x := .of fun _ _ => trivial

end

/-! ## flags of the parser -/

namespace Parser

/-- options that an argument may be: none that the parser has, one of the parser's by its name or
the beginning of it, one with a value behind an equals sign, or one of a single letter with a value
behind that -/
inductive Offers (p : Parser) (arg : List Char) : Occurrence → Prop where
  | unknown {name : String} : Offers p arg ⟨none, name, none⟩
  | bare {f : Known} {name : String} (hf : f ∈ p.flags.zipIdx) (hname : name ∈ f.1.names) :
      Offers p arg ⟨some f, name, none⟩
  | valued {f : Known} {name : String} {front value : List Char} (hf : f ∈ p.flags.zipIdx)
      (hname : name ∈ f.1.names) (hcut : Text.cut? '=' arg = some (front, value))
      (hfront : front <+: name.toList) : Offers p arg ⟨some f, name, some value⟩
  | lettered {f : Known} {name : String} {letter : Char} {value : List Char}
      (hf : f ∈ p.flags.zipIdx) (hname : name ∈ f.1.names) (hletter : name.toList = ['-', letter]) :
      Offers p arg ⟨some f, name, some value⟩

section
variable {p : Parser}

theorem offers_of_assigned? {arg : List Char} {o : Occurrence} (h : p.assigned? arg = some o) :
    p.Offers arg o := by
  obtain ⟨⟨name, value⟩, hcut, h⟩ := Option.bind_eq_some_iff.mp h
  obtain ⟨f, hoption, rfl⟩ := Option.map_eq_some_iff.mp h
  obtain ⟨hf, hname⟩ := option?_known hoption
  exact .valued hf hname hcut ⟨[], by simp⟩

theorem offers_of_mem_candidates {arg : List Char} {o : Occurrence} (h : o ∈ p.candidates arg) :
    p.Offers arg o := by
  unfold candidates at h
  split at h
  · obtain ⟨x, hx, rfl⟩ := List.mem_map.mp h
    obtain ⟨hx, hstarts⟩ := List.mem_filter.mp hx
    obtain ⟨hf, hname⟩ := mem_options hx
    cases hcut : Text.cut? '=' _ with
    | none => exact .bare hf hname
    | some c => exact .valued hf hname hcut (by simpa [Text.beforeFirst, hcut] using hstarts)
  · obtain ⟨x, hx, ho⟩ := List.mem_filterMap.mp h
    obtain ⟨hf, hname⟩ := mem_options hx
    split at ho
    · next hletter =>
      cases ho
      exact .lettered hf hname hletter
    · split at ho
      · cases ho
        exact .bare hf hname
      · cases ho
  · cases h

theorem recognizeText_offers (p : Parser) (arg : String) :
    Ends Halt.Regular
      (fun role => role = .plain ∨ ∃ o, role = .option o ∧ p.Offers arg.toList o)
      (p.recognizeText arg) := by
  unfold recognizeText
  split
  · exact .inl rfl
  · split
    · next f hoption =>
      obtain ⟨hf, hname⟩ := option?_known hoption
      exact .inr ⟨_, rfl, .bare hf hname⟩
    · split
      · exact .inl rfl
      · split
        · next o hassigned => exact .inr ⟨o, rfl, offers_of_assigned? hassigned⟩
        · split
          · unfold unknownRole
            split
            · exact .inl rfl
            · split
              · exact .inl rfl
              · exact .inr ⟨_, rfl, .unknown⟩
          · next o hone =>
            refine .inr ⟨o, rfl, offers_of_mem_candidates ?_⟩
            rw [hone]
            exact List.mem_singleton_self o
          · exact .refused rfl

end

end Parser

/-- what an argument names is a flag of the parser -/
def Role.Known (p : Parser) : Role → Prop
  | .option o => ∀ f, o.flag = some f → f ∈ p.flags.zipIdx
  | .plain | .bar => True

namespace Parser

section
variable {p : Parser}

theorem Offers.known {arg : List Char} {o : Occurrence} (h : p.Offers arg o) :
    (Role.option o).Known p := by
  intro f hf
  cases h with
  | unknown => cases hf
  | bare hknown | valued hknown | lettered hknown =>
    cases hf
    exact hknown

theorem recognize_known (arg : Value) : Yields (Role.Known p) (p.recognize arg) := by
  unfold recognize
  split
  · trivial
  · split
    · refine (recognizeText_offers p _).yields fun role hrole => ?_
      rcases hrole with rfl | ⟨o, rfl, ho⟩
      · trivial
      · exact ho.known
    · split <;> trivial
    all_goals trivial

theorem recognizeAll_known (args : List Value) :
    Yields (fun as => ∀ a ∈ as, a.2.Known p) (p.recognizeAll args) := by
  induction args with
  | nil => exact fun a ha => by cases ha
  | cons arg args ih =>
    rw [recognizeAll]
    split
    · refine List.forall_mem_cons.mpr ⟨trivial, fun a ha => ?_⟩
      obtain ⟨v, -, rfl⟩ := List.mem_map.mp ha
      trivial
    · refine (recognize_known arg).bind fun role hrole => ih.bind fun rest hrest => ?_
      exact List.forall_mem_cons.mpr ⟨hrole, hrest⟩

/-- an option of the parser gives arguments to flags of the parser -/
theorem unfold_known {f : Known} (hf : f ∈ p.flags.zipIdx) (name : String) (behind : List Mark)
    (value : Option (List Char)) :
    Yields (fun x => ∀ g ∈ x.1, g.1 ∈ p.flags.zipIdx) (p.unfold f name behind value) := by
  fun_induction unfold p f name behind value with
  | case1 f name n => exact List.forall_mem_singleton.mpr hf
  | case4 f name _ value => exact List.forall_mem_singleton.mpr hf
  | case8 f name c cs _ _ next g hoption _ _ ih =>
    -- a further letter of the same argument
    rw [dite_eq_ite] at ih
    refine (ih (option?_known hoption).1).bind fun x hx => ?_
    exact List.forall_mem_cons.mpr ⟨hf, hx⟩
  | _ => trivial

theorem withArguments_known (behind : List Value) {given : List (Known × Option String)}
    (h : ∀ g ∈ given, g.1 ∈ p.flags.zipIdx) :
    ∀ g ∈ withArguments behind given, g.1 ∈ p.flags.zipIdx := by
  fun_induction withArguments behind given with
  | case1 =>
    intro g hg
    cases hg
  | case2 f value =>
    have hf : f ∈ p.flags.zipIdx := h _ (List.mem_singleton_self _)
    exact List.forall_mem_singleton.mpr hf
  | case3 f value given _ ih =>
    obtain ⟨hf, hgiven⟩ := List.forall_mem_cons.mp h
    exact List.forall_mem_cons.mpr ⟨hf, ih hgiven⟩

end

end Parser

/-- positional flags are dealt their arguments in turn -/
theorem Progress.deal_known {p : Parser} {fs : List Known} (hfs : ∀ f ∈ fs, f ∈ p.flags.zipIdx)
    (ns : List Nat) (args : List Argument) : ∀ g ∈ deal fs ns args, g.1 ∈ p.flags.zipIdx := by
  fun_induction deal fs ns args with
  | case1 f fs n ns args ih =>
    obtain ⟨hf, hfs⟩ := List.forall_mem_cons.mp hfs
    exact List.forall_mem_cons.mpr ⟨hf, ih hfs⟩
  | case2 =>
    intro g hg
    cases hg

end ProxyInjector.CommandLine
