import ProxyInjector.Proofs.CommandLine.Arguments

/-!
# Texts read by simple flags

A command line of texts that is read by simple flags comes to values, to help, or to a refusal that
can be told: no flag faults.  A flag that takes a text has one that its choices allow, with one
exception.  A bare double dash behind an equals sign is dropped, and the flag has an empty list,
which nobody checks.

* `Slots.Sound`            the values while they are read;
* `takeAllFrom_sound`      the loop keeps them sound;
* `Parser.read_sound`      the whole.
-/

namespace ProxyInjector.CommandLine

/-! ## the values -/

/-- the values are in the table and nowhere else, every flag has one that it may set, and no
argument is set aside among them -/
structure Slots.Sound (p : Parser) (words : List String) (s : Slots) : Prop where
  owner : s.owner = none
  left : s.left = []
  admits : ∀ f ∈ p.flags, f.default.isSome →
    ∃ slot, s.get? f.target = some slot ∧ f.Admits words slot.value
  noExtras : s.get? Parser.extrasTarget = none

namespace Slots

variable {p : Parser} {words : List String} {s : Slots}

theorem Sound.objects (h : s.Sound p words) : s.objects = [] := by
  rw [Slots.objects, h.owner, h.left]

theorem set_eq {f : Flag} (h : f.Simple) (s : Slots) (v : Value) (owner : Option Owner) :
    s.set f.target v owner = .ok (s.put f.target { value := v }) := by
  have htarget := h.target
  simp only [List.mem_cons, List.not_mem_nil, or_false, not_or] at htarget
  obtain ⟨hclass, hdict, hweak, -⟩ := htarget
  have htable : (f.target == tableTarget) = false := beq_false_of_ne hdict
  have hcheck : checkTarget f.target v = .ok () := by
    unfold checkTarget
    split <;> first | contradiction | rfl
  unfold Slots.set
  rw [htable]
  split
  · next h => cases h
  · rw [hcheck]
    rfl

theorem Sound.put (h : s.Sound p words) (hp : p.Simple) {f : Flag} (hf : f ∈ p.flags) {v : Value}
    (hv : f.Admits words v) : (s.put f.target { value := v }).Sound p words := by
  refine ⟨h.owner, h.left, fun g hg hdefault => ?_, ?_⟩
  · rw [get?_put]
    split
    · next heq =>
      obtain rfl := hp.eq_of_target hf hg heq
      exact ⟨_, rfl, hv⟩
    · exact h.admits g hg hdefault
  · have hne : f.target ≠ Parser.extrasTarget := fun heq => (hp.flags f hf).target (by simp [heq])
    rw [get?_put, if_neg hne]
    exact h.noExtras

end Slots

/-! ## the reading -/

structure Progress.Sound (p : Parser) (words : List String) (s : Progress) : Prop where
  slots : s.slots.Sound p words
  pending : ∀ f ∈ s.pending, f ∈ p.flags.zipIdx ∧ f.1.names = []
  extras : ∀ v ∈ s.extras, v.isText = true

namespace Progress

variable {p : Parser} {words : List String} {s : Progress}

theorem Sound.take (h : s.Sound p words) (hp : p.Simple) {f : Known} {args : List Value}
    (hf : Given p words (f, args)) :
    Ends Stop.Regular (fun t => t.Sound p words ∧ t.pending = s.pending) (s.take f args) := by
  obtain ⟨hknown, hargs⟩ := hf
  have hsimple := hp.known hknown
  unfold Progress.take
  refine (Slots.ends_step h.slots.objects (hsimple.form.use hargs)).bind ?_
  rintro - ⟨v, rfl, hact⟩
  refine (Slots.ends_step h.slots.objects (hact _)).bind fun new hnew => ?_
  dsimp only
  rw [Slots.set_eq hsimple]
  exact ⟨⟨h.slots.put hp (List.fst_mem_of_mem_zipIdx hknown) hnew, h.pending, h.extras⟩, rfl⟩

theorem Sound.takeEach (h : s.Sound p words) (hp : p.Simple) {given : List (Known × List Value)}
    (hgiven : ∀ g ∈ given, Given p words g) :
    Ends Stop.Regular (fun t => t.Sound p words ∧ t.pending = s.pending) (s.takeEach given) := by
  induction given generalizing s with
  | nil => exact ⟨h, rfl⟩
  | cons g given ih =>
    obtain ⟨hg, hrest⟩ := List.forall_mem_cons.mp hgiven
    refine (h.take hp hg).bind fun t ht => ?_
    exact (ih ht.1 hrest).mono fun u hu => ⟨hu.1, hu.2.trans ht.2⟩

theorem marks_drop (args : List Argument) (n : Nat) : marks (args.drop n) = (marks args).drop n :=
  List.map_drop ..

/-- positional flags get what they may get -/
theorem deal_given (hp : p.Simple) {fs : List Known}
    (hfs : ∀ f ∈ fs, f ∈ p.flags.zipIdx ∧ f.1.names = []) {args : List Argument}
    (hargs : Left p words args) {ns : List Nat} {k : Nat}
    (hns : countsOf? ((fs.map fun f => f.1.arity).take k) (marks args) = some ns) :
    ∀ g ∈ deal fs ns args, Given p words g := by
  induction fs generalizing args ns k with
  | nil => intro g hg; cases hg
  | cons f fs ih =>
    obtain ⟨⟨hknown, hnames⟩, hfs⟩ := List.forall_mem_cons.mp hfs
    have harity := hp.arity_of_positional hknown hnames
    cases k with
    | zero =>
      cases hns
      intro g hg
      cases hg
    | succ k =>
      rw [List.map_cons, List.take_succ_cons, countsOf?] at hns
      obtain ⟨n, hn, hrest⟩ := List.exists_of_findSome?_eq_some hns
      obtain ⟨ns', hns', rfl⟩ := Option.map_eq_some_iff.mp hrest
      rw [← marks_drop] at hns'
      refine List.forall_mem_cons.mpr ⟨⟨hknown, ?_, ?_, fun _ => ?_⟩, ih hfs (hargs.drop n) hns'⟩
      · intro h; rw [harity] at h; cases h
      · intro h; rw [harity] at h; cases h
      · rw [harity] at hn
        exact withoutBar_of_counts hargs hn

theorem Sound.takePositionals (h : s.Sound p words) (hp : p.Simple) {args : List Argument}
    (hargs : Left p words args) :
    Ends Stop.Regular (fun x => x.1.Sound p words ∧ Left p words x.2) (s.takePositionals args) := by
  unfold Progress.takePositionals
  have hgiven : ∀ g ∈ deal s.pending
      (partialCounts (s.pending.map fun f => f.1.arity) (marks args)) args, Given p words g := by
    unfold partialCounts
    cases hcounts : (List.range (s.pending.map fun f => f.1.arity).length).reverse.findSome?
        (fun n => countsOf? ((s.pending.map fun f => f.1.arity).take (n + 1)) (marks args)) with
    | none =>
      intro g hg
      cases hpending : s.pending <;> rw [hpending] at hg <;> cases hg
    | some ns =>
      obtain ⟨n, -, hn⟩ := List.exists_of_findSome?_eq_some hcounts
      exact deal_given hp h.pending hargs hn
  refine (h.takeEach hp hgiven).bind fun t ht => ?_
  exact ⟨⟨ht.1.slots, fun f hf => h.pending f (List.mem_of_mem_drop hf), ht.1.extras⟩, hargs.drop _⟩

/-- arguments that no flag takes are set aside -/
theorem Sound.setAside (h : s.Sound p words) {args : List Argument} (hargs : Left p words args)
    {rest : List Argument} (hrest : rest ⊆ args) :
    { s with extras := s.extras ++ Progress.words rest }.Sound p words := by
  refine ⟨h.slots, h.pending, fun v hv => ?_⟩
  rcases List.mem_append.mp hv with hv | hv
  · exact h.extras v hv
  · obtain ⟨a, ha, rfl⟩ := List.mem_map.mp hv
    exact hargs.isText a (hrest ha)

end Progress

theorem textsFrom_ok {vs : List Value} (h : ∀ v ∈ vs, v.isText = true) (place : Nat) :
    ∃ texts, textsFrom place vs = .ok texts := by
  induction vs generalizing place with
  | nil => exact ⟨[], rfl⟩
  | cons v vs ih =>
    obtain ⟨hv, hvs⟩ := List.forall_mem_cons.mp h
    obtain ⟨texts, htexts⟩ := ih hvs (place + 1)
    cases v with
    | text s => exact ⟨s :: texts, by rw [textsFrom, htexts]; rfl⟩
    | _ => cases hv

namespace Parser

variable {p : Parser} {words : List String} {s : Progress} {args : List Argument}

theorem takeOption_sound (hp : p.Simple) (hs : s.Sound p words) {v : Value} {o : Occurrence}
    (hargs : Left p words ((v, .option o) :: args)) :
    Ends Stop.Regular (fun x => x.1.Sound p words ∧ Left p words x.2)
      (p.takeOption s o v args) := by
  obtain ⟨ho, hfront⟩ := hargs.option
  unfold takeOption
  split
  · exact ⟨hs.setAside hargs (List.cons_subset_cons _ (List.nil_subset _)), hargs.tail⟩
  · next f hf =>
    obtain ⟨hknown, hname, hvalue⟩ := ho f hf
    refine (Slots.ends_step hs.slots.objects (unfold_given hp hfront hknown hname hvalue)).bind ?_
    rintro ⟨given, n⟩ ⟨-, hgiven⟩
    refine (hs.takeEach hp hgiven).bind fun t ht => ?_
    exact ⟨ht.1, hargs.tail.drop n⟩

theorem takeAllFrom_sound (hp : p.Simple) (fuel : Nat) (hs : s.Sound p words)
    (hargs : Left p words args) :
    Ends Stop.Regular (·.Sound p words) (p.takeAllFrom fuel s args) := by
  induction fuel generalizing s args with
  | zero => exact hs
  | succ fuel ih =>
    unfold takeAllFrom
    split
    · refine (hs.takePositionals hp hargs).bind fun x hx => ?_
      exact hx.1.setAside hx.2 (List.Subset.refl _)
    · split
      · exact (takeOption_sound hp hs hargs).bind fun x hx => ih hx.1 hx.2
      · refine (hs.takePositionals hp hargs).bind fun x hx => ?_
        dsimp only
        split
        · exact ih hx.1 hx.2
        · exact ih (hx.1.setAside hargs (List.takeWhile_subset _)) (hargs.dropWhile _)

theorem settle_sound (hp : p.Simple) {fs : List Known} (hfs : fs ⊆ p.flags.zipIdx) (seen : List Nat)
    {slots : Slots} (hs : slots.Sound p words) :
    Ends Stop.Regular (fun x => x.1.Sound p words ∧ x.2 = []) (settle fs seen slots []) := by
  induction fs generalizing slots with
  | nil => exact ⟨hs, rfl⟩
  | cons f fs ih =>
    obtain ⟨f, i⟩ := f
    obtain ⟨hknown, hfs⟩ := List.cons_subset.mp hfs
    have hsimple := hp.known hknown
    unfold settle
    split
    · exact ih hfs hs
    · rw [hsimple.optional, if_neg Bool.false_ne_true]
      split
      · next slot s hslot hdefault =>
        split
        · have hput := hs.put hp (List.fst_mem_of_mem_zipIdx hknown) (.default hdefault)
          rw [hsimple.form.convert_text]
          show Ends _ _ (do settle fs seen (← slots.suit (slots.set f.target (.text s) none)) [])
          rw [Slots.set_eq hsimple]
          exact ih hfs hput
        · exact ih hfs hs
      · exact ih hfs hs

theorem readSlots_sound (hp : p.Simple) (hdefaults : p.defaults.Sound p words) {ws : List String}
    (hws : ws ⊆ words) : Ends Stop.Regular (·.Sound p words) (p.readSlots (ws.map .text)) := by
  have htargets : p.checkTargets = .ok () := by
    unfold checkTargets
    rw [List.findSome?_eq_none_iff.mpr fun f hf => (hp.flags f hf).isText]
  unfold readSlots
  rw [htargets]
  refine (Slots.ends_step rfl (Front.recognizeAll hp hws)).bind fun args hargs => ?_
  have hpending : ∀ f ∈ p.positionals, f ∈ p.flags.zipIdx ∧ f.1.names = [] := by
    intro f hf
    obtain ⟨hknown, hpositional⟩ := List.mem_filter.mp hf
    exact ⟨hknown, List.isEmpty_iff.mp hpositional⟩
  have hstart : Progress.Sound p words { slots := p.defaults, pending := p.positionals } :=
    ⟨hdefaults, hpending, by simp⟩
  refine Ends.bind (takeAllFrom_sound hp _ hstart (.inl hargs)) fun s hs => ?_
  refine (settle_sound hp (List.Subset.refl _) s.seen hs.slots).bind ?_
  rintro ⟨slots, missing⟩ ⟨hslots, rfl⟩
  have hextras : splitExtras slots = .ok (slots, []) := by
    unfold splitExtras
    rw [hslots.noExtras]
  obtain ⟨texts, htexts⟩ := textsFrom_ok hs.extras 0
  have hcheck : Ends Halt.Regular (fun _ => True) (checkExtras (s.extras ++ [])) := by
    unfold checkExtras
    rw [List.append_nil, htexts]
    cases texts with
    | nil => trivial
    | cons t ts => exact .refused rfl
  refine Ends.bind (P := fun _ => True) trivial fun _ _ => ?_
  refine Ends.bind (P := (· = (slots, []))) (by rw [hextras]; rfl) ?_
  rintro - rfl
  exact (Slots.ends_step hslots.objects hcheck).bind fun _ _ => hslots

end Parser

theorem Entries.find?_fields (t : Entries) (target : String) :
    (t.fields.find? fun v => v.1 == target).map (·.2) = (t.get? target).map (·.value) := by
  rw [Entries.fields, List.find?_map, Entries.get?, Option.map_map, Option.map_map]
  rfl

namespace Parser

variable {p : Parser} {ws : List String}

/-- **Texts read by simple flags.** -/
theorem read_sound (hp : p.Simple) (hdefaults : p.defaults.Sound p ws) :
    let r := p.read (ws.map .text)
    Ends Halt.Regular
      (fun values => ∃ slots : Slots, slots.Sound p ws ∧ values = slots.entries.fields)
      r.result ∧ r.owner = none ∧ r.after = p := by
  have hsound := readSlots_sound hp hdefaults (List.Subset.refl ws)
  unfold read
  revert hsound
  cases p.readSlots (ws.map .text) with
  | error stop =>
    rintro ⟨hobjects, hregular⟩
    exact ⟨hregular, rfl, by simp only [hobjects]; rfl⟩
  | ok slots =>
    intro hslots
    exact ⟨⟨slots, hslots, rfl⟩, hslots.owner, by simp only [hslots.objects]; rfl⟩

end Parser

end ProxyInjector.CommandLine
