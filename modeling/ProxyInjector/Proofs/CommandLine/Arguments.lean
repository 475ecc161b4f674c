import ProxyInjector.Proofs.CommandLine.Known

/-!
# What simple flags get

The words of a command line are recognized one by one, up to a double dash.  An option then takes
what came with its name, or the argument behind it; a positional flag takes at most one argument,
and double dashes around it.

* `Offers.fits`            what a word names is a flag of the parser, or none;
* `Front`, `Behind`        arguments up to the double dash and behind it;
* `unfold_given`           what an option gives to the flags that it names;
* `withoutBar_of_counts`   what a positional flag gets.
-/

namespace ProxyInjector.CommandLine

/-! ## roles -/

/-- what a word names is a flag of the parser, and what comes with the name is a bare double dash
only where the word says so -/
def Occurrence.Fits (p : Parser) (words : List String) (o : Occurrence) : Prop :=
  ∀ f, o.flag = some f → f ∈ p.flags.zipIdx ∧ o.name ∈ f.1.names ∧
    (f.1.arity = .one → o.value = some ['-', '-'] → f.1.Dashed words)

section
variable {p : Parser} {words : List String} {w : String}

/-- a name, perhaps shortened, with its value behind an equals sign -/
theorem dashed_of_cut? {f : Flag} {n : String} {front value : List Char} (hw : w ∈ words)
    (hn : n ∈ f.names) (hcut : Text.cut? '=' w.toList = some (front, value))
    (hfront : front <+: n.toList) (hvalue : value = ['-', '-']) : f.Dashed words :=
  ⟨w, hw, n, hn, front, hfront, by rw [Text.eq_of_cut? hcut, hvalue]⟩

theorem Parser.Offers.fits (hp : p.Simple) (hw : w ∈ words) {o : Occurrence}
    (h : p.Offers w.toList o) : o.Fits p words := by
  intro f hf
  cases h with
  | unknown => cases hf
  | bare hknown hname =>
    cases hf
    exact ⟨hknown, hname, fun _ hvalue => by cases hvalue⟩
  | valued hknown hname hcut hfront =>
    cases hf
    refine ⟨hknown, hname, fun _ hvalue => ?_⟩
    exact dashed_of_cut? hw hname hcut hfront (Option.some.inj hvalue)
  | lettered hknown hname hletter =>
    cases hf
    refine ⟨hknown, hname, fun harity _ => ?_⟩
    -- a name of one letter is none of a flag that takes a text
    obtain ⟨c, cs, hlong⟩ := hp.isLong hknown hname harity
    rw [hletter] at hlong
    cases hlong

end

/-! ## arguments -/

/-- arguments behind the double dash -/
def Behind (args : List Argument) : Prop := ∀ a ∈ args, ∃ w, a = (.text w, .plain)

/-- arguments up to the double dash and behind it -/
inductive Front (p : Parser) (words : List String) : List Argument → Prop where
  | nil : Front p words []
  | bar {rest : List Argument} (h : Behind rest) : Front p words ((.text "--", .bar) :: rest)
  | plain {w : String} {rest : List Argument} (hw : w ≠ "--") (h : Front p words rest) :
      Front p words ((.text w, .plain) :: rest)
  | option {w : String} {o : Occurrence} {rest : List Argument} (hw : w ≠ "--")
      (ho : o.Fits p words) (h : Front p words rest) : Front p words ((.text w, .option o) :: rest)

/-- what is left of a command line while it is read -/
def Left (p : Parser) (words : List String) (args : List Argument) : Prop :=
  Front p words args ∨ Behind args

section
variable {p : Parser} {words : List String} {args : List Argument}

theorem Front.recognizeAll (hp : p.Simple) {ws : List String} (hws : ws ⊆ words) :
    Ends Halt.Regular (Front p words) (p.recognizeAll (ws.map .text)) := by
  induction ws with
  | nil => exact .nil
  | cons w ws ih =>
    obtain ⟨hw, hws⟩ := List.cons_subset.mp hws
    rw [List.map_cons, Parser.recognizeAll]
    by_cases hbar : w = "--"
    · subst hbar
      refine .bar fun a ha => ?_
      obtain ⟨v, hv, rfl⟩ := List.mem_map.mp ha
      obtain ⟨w, -, rfl⟩ := List.mem_map.mp hv
      exact ⟨w, rfl⟩
    · have hdouble : Parser.isDoubleDash (.text w) = false := by
        simpa [Parser.isDoubleDash] using hbar
      rw [hdouble, if_neg Bool.false_ne_true]
      have hrole : Ends Halt.Regular
          (fun role => role = .plain ∨ ∃ o : Occurrence, role = .option o ∧ o.Fits p words)
          (p.recognize (.text w)) := by
        unfold Parser.recognize
        split
        · exact .inl rfl
        · refine (Parser.recognizeText_offers p w).mono fun role hrole => ?_
          rcases hrole with rfl | ⟨o, rfl, ho⟩
          · exact .inl rfl
          · exact .inr ⟨o, rfl, ho.fits hp hw⟩
      refine hrole.bind fun role hrole => (ih hws).bind fun rest hrest => ?_
      rcases hrole with rfl | ⟨o, rfl, ho⟩
      · exact .plain hbar hrest
      · exact .option hbar ho hrest

theorem Left.tail {a : Argument} (h : Left p words (a :: args)) : Left p words args := by
  rcases h with h | h
  · cases h with
    | bar h => exact .inr h
    | plain _ h => exact .inl h
    | option _ _ h => exact .inl h
  · exact .inr fun b hb => h b (List.mem_cons_of_mem a hb)

theorem Left.drop (h : Left p words args) (n : Nat) : Left p words (args.drop n) := by
  induction n generalizing args with
  | zero => exact h
  | succ n ih =>
    cases args with
    | nil => exact h
    | cons a args => exact ih h.tail

theorem Left.dropWhile (h : Left p words args) (f : Argument → Bool) :
    Left p words (args.dropWhile f) := by
  induction args with
  | nil => exact h
  | cons a args ih =>
    rw [List.dropWhile_cons]
    split
    · exact ih h.tail
    · exact h

theorem Left.isText (h : Left p words args) : ∀ a ∈ args, a.1.isText = true := by
  induction args with
  | nil => simp
  | cons a args ih =>
    refine List.forall_mem_cons.mpr ⟨?_, ih h.tail⟩
    rcases h with h | h
    · cases h <;> rfl
    · obtain ⟨w, rfl⟩ := h a List.mem_cons_self
      rfl

/-- an option stands in front of the double dash -/
theorem Left.option {v : Value} {o : Occurrence} (h : Left p words ((v, .option o) :: args)) :
    o.Fits p words ∧ Front p words args := by
  rcases h with h | h
  · cases h with
    | option _ ho h => exact ⟨ho, h⟩
  · obtain ⟨w, hw⟩ := h _ List.mem_cons_self
    cases hw

end

/-! ## lengths -/

namespace Arity

theorem run_takeWhile_bar (ms : List Mark) : run isBar (ms.takeWhile (· != .bar)) = 0 := by
  cases ms with
  | nil => rfl
  | cons m ms => cases m <;> rfl

theorem counts_nothing (ms : List Mark) : (exactly 0).counts false ms = [0] := by
  have hpast (ms : List Mark) : past? (0 : Int).toNat ms = .some 0 := by
    cases ms <;> rfl
  rw [counts, if_neg Bool.false_ne_true, fits, hpast, from?]
  simp only [List.drop_zero, run_takeWhile_bar]
  rfl

theorem counts_one (ms : List Mark) :
    one.counts false ms = if ms.head? = Option.some .plain then [1] else [] := by
  cases ms with
  | nil => rfl
  | cons m ms =>
    cases m with
    | plain =>
      have hcounts : one.counts false (.plain :: ms)
          = down (1 + run isBar (ms.takeWhile (· != .bar))) 1 := rfl
      rw [hcounts, run_takeWhile_bar]
      rfl
    | option => rfl
    | bar => rfl

end Arity

/-! ## what flags get -/

namespace Parser

section
variable {p : Parser} {f : Known} {name : String} {behind : List Mark}

theorem unfold_nothing (harity : f.1.arity = .exactly 0) :
    p.unfold f name behind none = .ok ([(f, none)], 0) := by
  rw [unfold.eq_def]
  simp only [harity, Arity.counts_nothing]

theorem unfold_nothing_nil (harity : f.1.arity = .exactly 0) (hname : 2 ≤ name.length) :
    p.unfold f name behind (some []) = .error (.refused (.ignoredValue f.1 "")) := by
  rw [unfold.eq_def]
  simp only [harity, Arity.counts_nothing, if_neg (Nat.not_lt.mpr hname)]

theorem unfold_nothing_cons (harity : f.1.arity = .exactly 0) (hname : 2 ≤ name.length) (c : Char)
    (cs : List Char) : p.unfold f name behind (some (c :: cs)) =
      match isShort name, p.option? (String.ofList ['-', c]) with
      | true, some g => (p.unfold g (String.ofList ['-', c]) behind
          (if cs = [] then none else some cs)).map fun x => ((f, none) :: x.1, x.2)
      | _, _ => .error (.refused (.ignoredValue f.1 (String.ofList (c :: cs)))) := by
  rw [unfold.eq_def]
  simp only [harity, Arity.counts_nothing, if_neg (Nat.not_lt.mpr hname)]
  cases isShort name with
  | false => rfl
  | true => cases p.option? (String.ofList ['-', c]) <;> rfl

theorem unfold_text (harity : f.1.arity = .one) :
    p.unfold f name behind none =
      if behind.head? = some .plain then .ok ([(f, none)], 1)
      else .error (.refused (.unmatched f.1)) := by
  rw [unfold.eq_def]
  by_cases hplain : behind.head? = some .plain <;>
    simp only [harity, Arity.counts_one, hplain, if_true, if_false]

theorem unfold_text_some (harity : f.1.arity = .one) (value : List Char) :
    p.unfold f name behind (some value) = .ok ([(f, some (String.ofList value))], 0) := by
  rw [unfold.eq_def]
  simp only [harity, Arity.counts_one]
  rfl

end

end Parser

section
variable {p : Parser} {words : List String}

/-- the flag is one of the parser's, and gets what it may get -/
def Given (p : Parser) (words : List String) (g : Known × List Value) : Prop :=
  g.1 ∈ p.flags.zipIdx ∧ g.1.1.Suits words g.2

theorem Flag.suits_nothing {f : Flag} (h : f.arity = .exactly 0) : f.Suits words [] where
  nothing _ := rfl
  text h' := by rw [h] at h'; cases h'
  atMostOne h' := by rw [h] at h'; cases h'

theorem Flag.suits_text {f : Flag} (h : f.arity = .one) {v : String}
    (hv : v = "--" → f.Dashed words) : f.Suits words [.text v] where
  nothing h' := by rw [h] at h'; cases h'
  text _ := ⟨v, rfl, hv⟩
  atMostOne h' := by rw [h] at h'; cases h'

/-- an option in front of `rest` gives flags what they may get, letter by letter if it is short -/
theorem unfold_given (hp : p.Simple) {rest : List Argument} (hrest : Front p words rest)
    {f : Known} (hf : f ∈ p.flags.zipIdx) {name : String} (hname : name ∈ f.1.names)
    {value : Option (List Char)}
    (hvalue : f.1.arity = .one → value = some ['-', '-'] → f.1.Dashed words) :
    Ends Halt.Regular
      (fun x => x.1 ≠ [] ∧
        ∀ g ∈ Parser.withArguments (Progress.words (rest.take x.2)) x.1, Given p words g)
      (p.unfold f name (Progress.marks rest) value) := by
  induction hn : (value.getD []).length using Nat.strongRecOn generalizing f name value with
  | ind n ih =>
  have hlength : 2 ≤ name.length := (hp.known hf).names name hname
  have hrefused {r : Refusal} {text : String} (hr : r.message? = Refusal.about f.1 text) :
      Halt.Regular (.refused r) := by
    obtain ⟨message, hmessage⟩ := Refusal.about_ok (List.ne_nil_of_mem hname) text
    exact .refused (hr.trans hmessage)
  rcases hp.arity hf hname with harity | harity
  · match value with
    | none =>
      rw [Parser.unfold_nothing harity]
      exact ⟨List.cons_ne_nil _ _, List.forall_mem_singleton.mpr ⟨hf, Flag.suits_nothing harity⟩⟩
    | some [] =>
      rw [Parser.unfold_nothing_nil harity hlength]
      exact hrefused rfl
    | some (c :: cs) =>
      rw [Parser.unfold_nothing_cons harity hlength]
      split
      · next g _ hoption =>
        obtain ⟨hg, hgname⟩ := Parser.option?_known hoption
        have hone : g.1.arity ≠ .one := by
          intro hone
          obtain ⟨d, ds, hlong⟩ := hp.isLong hg hgname hone
          rw [String.toList_ofList] at hlong
          cases hlong
        have hshorter :
            ((if cs = [] then none else some cs : Option (List Char)).getD []).length < n := by
          rw [← hn]
          split <;> simp
        have hgiven := ih _ hshorter hg hgname (fun h => absurd h hone) rfl
        revert hgiven
        rcases p.unfold g _ (Progress.marks rest) _ with h | ⟨given, count⟩
        · exact id
        · rintro ⟨hne, hgiven⟩
          refine ⟨List.cons_ne_nil _ _, ?_⟩
          obtain ⟨x, xs, rfl⟩ := List.exists_cons_of_ne_nil hne
          exact List.forall_mem_cons.mpr ⟨⟨hf, Flag.suits_nothing harity⟩, hgiven⟩
      · exact hrefused rfl
  · cases value with
    | none =>
      rw [Parser.unfold_text harity]
      cases hrest with
      | nil => exact hrefused rfl
      | bar _ => exact hrefused rfl
      | option _ _ _ => exact hrefused rfl
      | plain hw _ =>
        exact ⟨List.cons_ne_nil _ _,
          List.forall_mem_singleton.mpr ⟨hf, Flag.suits_text harity fun h => absurd h hw⟩⟩
    | some value =>
      rw [Parser.unfold_text_some harity]
      refine ⟨List.cons_ne_nil _ _, List.forall_mem_singleton.mpr
        ⟨hf, Flag.suits_text harity fun h => hvalue harity ?_⟩⟩
      rw [← String.toList_ofList (l := value), h]
      rfl

end

/-! ## positional flags -/

namespace Arity

theorem le_of_mem_down {high low n : Nat} (h : n ∈ down high low) : n ≤ high := by
  obtain ⟨m, hm, rfl⟩ := List.mem_map.mp h
  have hlt := List.mem_range.mp (List.mem_reverse.mp hm)
  omega

/-- a flag that takes at most one argument gets no more, but for the double dashes around it -/
theorem le_of_mem_counts {ms : List Mark} {n : Nat} (h : n ∈ optional.counts true ms) :
    n ≤ run isBar ms + 1 + run isBar (ms.drop (run isBar ms + 1)) := by
  rw [counts, if_pos rfl, fits] at h
  rcases List.mem_append.mp h with h | h
  · have hpast : past? 1 ms = Option.some (run isBar ms + 1) ∨ past? 1 ms = none := by
      have hbar : (fun m => m == Mark.bar) = isBar := rfl
      rw [past?, hbar]
      split
      · exact .inl (by simp [past?])
      · exact .inr rfl
    rcases hpast with hpast | hpast
    · rw [hpast] at h
      exact le_of_mem_down h
    · rw [hpast] at h
      cases h
  · have hle := le_of_mem_down h
    rw [Nat.zero_add, List.drop_zero] at hle
    omega

end Arity

section
variable {p : Parser} {words : List String} {args : List Argument}

theorem run_isBar_behind (h : Behind args) : Arity.run Arity.isBar (Progress.marks args) = 0 := by
  cases args with
  | nil => rfl
  | cons a args =>
    obtain ⟨w, rfl⟩ := h a List.mem_cons_self
    rfl

theorem run_isBar_bar (h : Behind args) :
    Arity.run Arity.isBar (Progress.marks ((.text "--", .bar) :: args)) = 1 :=
  congrArg (· + 1) (run_isBar_behind h)

/-- in front of the double dash one text may be taken, and the double dash behind it -/
theorem withoutBar_front {w : String} {role : Role} (hw : w ≠ "--") (h : Front p words args)
    {n : Nat} (hn : n ≤ 1 + Arity.run Arity.isBar (Progress.marks args)) :
    Flag.withoutBar (Progress.words (((.text w, role) :: args).take n)) = [] ∨
      ∃ v, Flag.withoutBar (Progress.words (((.text w, role) :: args).take n)) = [.text v] := by
  have hone : Flag.withoutBar [.text w] = [.text w] := Flag.withoutBar_cons hw []
  match n with
  | 0 => exact .inl rfl
  | 1 => exact .inr ⟨w, hone⟩
  | n + 2 =>
    cases h with
    | nil => exact .inr ⟨w, hone⟩
    | plain _ _ => exact absurd hn (by simp [Progress.marks, Role.mark, Arity.run, Arity.isBar])
    | option _ _ _ => exact absurd hn (by simp [Progress.marks, Role.mark, Arity.run, Arity.isBar])
    | bar h =>
      rw [run_isBar_bar h] at hn
      obtain rfl : n = 0 := by omega
      refine .inr ⟨w, ?_⟩
      exact Flag.withoutBar_cons hw [.text "--"]

theorem withoutBar_of_counts (h : Left p words args) {n : Nat}
    (hn : n ∈ Arity.optional.counts true (Progress.marks args)) :
    Flag.withoutBar (Progress.words (args.take n)) = [] ∨
      ∃ v, Flag.withoutBar (Progress.words (args.take n)) = [.text v] := by
  have hle := Arity.le_of_mem_counts hn
  rcases h with h | h
  · cases h with
    | nil => rw [List.take_nil]; exact .inl rfl
    | plain hw h => exact withoutBar_front hw h hle
    | option hw _ h => exact withoutBar_front hw h hle
    | @bar rest h =>
      have hrest : Arity.run Arity.isBar (Progress.marks (rest.drop 1)) = 0 :=
        run_isBar_behind fun a ha => h a (List.mem_of_mem_drop ha)
      have hn : n ≤ 2 := by
        rw [run_isBar_bar h] at hle
        refine Nat.le_trans hle (Nat.le_of_eq ?_)
        rw [show (Progress.marks ((.text "--", .bar) :: rest)).drop (1 + 1)
          = Progress.marks (rest.drop 1) from (List.map_drop ..).symm, hrest]
      match n with
      | 0 => exact .inl rfl
      | 1 => exact .inl rfl
      | 2 =>
        cases rest with
        | nil => exact .inl rfl
        | cons a rest =>
          obtain ⟨w, rfl⟩ := h a List.mem_cons_self
          exact .inr ⟨w, rfl⟩
  · cases args with
    | nil => rw [List.take_nil]; exact .inl rfl
    | cons a args =>
      obtain ⟨w, rfl⟩ := h a List.mem_cons_self
      have hrest : Arity.run Arity.isBar (Progress.marks args) = 0 :=
        run_isBar_behind fun b hb => h b (List.mem_cons_of_mem _ hb)
      have hn : n ≤ 1 := Nat.le_trans hle (Nat.le_of_eq (congrArg (1 + ·) hrest))
      match n with
      | 0 => exact .inl rfl
      | 1 =>
        by_cases hw : w = "--"
        · subst hw
          exact .inl rfl
        · exact .inr ⟨w, Flag.withoutBar_cons hw []⟩

end

end ProxyInjector.CommandLine
