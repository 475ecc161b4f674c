import ProxyInjector.Proofs.CommandLine.Known

/-!
# Objects of flags

What a parser sets are its own flags.  So the table of values is at most an object of a flag of the
parser that is set in the place of the table, and this object has the values after the reading,
whatever becomes of other objects.

* `Slots.Owned`         what every step of a reading keeps (`Progress.Owned.take`, `settle_owned`),
                        and so the whole (`takeAllFrom_owned`, `readSlots_owned`);
* `map_read`            a reading changes nothing of the flags but their objects;
* `Parser.read_owner`   the object that the values are has these values.
-/

namespace ProxyInjector.CommandLine

/-! ## the values while they are read -/

/-- an object that is the table is one of a flag of the parser that is set in the table's place -/
def Slots.Owned (p : Parser) (s : Slots) : Prop :=
  ∀ o, s.owner = some o → ∃ f, (f, o.place) ∈ p.flags.zipIdx ∧ f.target = tableTarget

namespace Slots

variable {p : Parser} {s : Slots}

theorem Owned.of_none (h : s.owner = none) : s.Owned p := by
  intro o ho
  rw [h] at ho
  cases ho

theorem Owned.set (h : s.Owned p) {f : Known} (hf : f ∈ p.flags.zipIdx) (v : Value)
    {owner : Option Owner} (howner : ∀ o ∈ owner, o.place = f.2) :
    Yields (Owned p) (s.set f.1.target v owner) := by
  unfold Slots.set
  split
  · next _ htable =>
    intro o ho
    refine ⟨f.1, ?_, beq_iff_eq.mp htable⟩
    rw [howner o ho]
    exact hf
  · exact Yields.map (.of fun _ _ => h)

/-- setting arguments aside leaves the owner -/
theorem Owned.split (h : s.Owned p) : Yields (fun x => x.1.Owned p) (Parser.splitExtras s) := by
  unfold Parser.splitExtras
  split
  · exact h
  · exact Yields.map (.of fun _ _ => h)

end Slots

structure Progress.Owned (p : Parser) (s : Progress) : Prop where
  slots : s.slots.Owned p
  pending : ∀ f ∈ s.pending, f ∈ p.flags.zipIdx

namespace Progress

variable {p : Parser} {s : Progress}

theorem Owned.take (h : s.Owned p) {f : Known} (hf : f ∈ p.flags.zipIdx) (args : List Value) :
    Yields (Owned p) (s.take f args) := by
  unfold Progress.take
  refine (Yields.any _).step.bind fun v _ => ?_
  cases v with
  | none => exact ⟨h.slots, h.pending⟩
  | some v =>
    refine (Yields.any _).step.bind fun new _ => ?_
    have howner : ∀ o ∈ (f.1.own? args).map (Owner.mk f.2), o.place = f.2 := by
      intro o ho
      obtain ⟨own, -, rfl⟩ := Option.map_eq_some_iff.mp ho
      rfl
    exact (h.slots.set hf new howner).suit.bind fun slots hslots => ⟨hslots, h.pending⟩

theorem Owned.takeEach (h : s.Owned p) {given : List (Known × List Value)}
    (hgiven : ∀ g ∈ given, g.1 ∈ p.flags.zipIdx) : Yields (Owned p) (s.takeEach given) := by
  induction given generalizing s with
  | nil => exact h
  | cons g given ih =>
    obtain ⟨hg, hgiven⟩ := List.forall_mem_cons.mp hgiven
    exact (h.take hg g.2).bind fun t ht => ih ht hgiven

theorem Owned.takePositionals (h : s.Owned p) {args : List Argument}
    (hargs : ∀ a ∈ args, a.2.Known p) :
    Yields (fun x => x.1.Owned p ∧ ∀ a ∈ x.2, a.2.Known p) (s.takePositionals args) := by
  unfold Progress.takePositionals
  refine (h.takeEach (deal_known h.pending _ args)).bind fun t ht => ?_
  exact ⟨⟨ht.slots, fun f hf => h.pending f (List.mem_of_mem_drop hf)⟩,
    fun a ha => hargs a (List.mem_of_mem_drop ha)⟩

end Progress

namespace Parser

variable {p : Parser} {s : Progress} {args : List Argument}

theorem takeOption_owned (hs : s.Owned p) {o : Occurrence} (ho : (Role.option o).Known p)
    (arg : Value) (hargs : ∀ a ∈ args, a.2.Known p) :
    Yields (fun x => x.1.Owned p ∧ ∀ a ∈ x.2, a.2.Known p) (p.takeOption s o arg args) := by
  unfold takeOption
  split
  · exact ⟨⟨hs.slots, hs.pending⟩, hargs⟩
  · next f hf =>
    refine (unfold_known (ho f hf) _ _ _).step.bind fun x hx => ?_
    refine (hs.takeEach (withArguments_known _ hx)).bind fun t ht => ?_
    exact ⟨ht, fun a ha => hargs a (List.mem_of_mem_drop ha)⟩

theorem takeAllFrom_owned (fuel : Nat) (hs : s.Owned p) (hargs : ∀ a ∈ args, a.2.Known p) :
    Yields (Progress.Owned p) (p.takeAllFrom fuel s args) := by
  induction fuel generalizing s args with
  | zero => exact hs
  | succ fuel ih =>
    unfold takeAllFrom
    split
    · exact (hs.takePositionals hargs).bind fun x hx => ⟨hx.1.slots, hx.1.pending⟩
    · split
      · obtain ⟨ho, hrest⟩ := List.forall_mem_cons.mp hargs
        exact (takeOption_owned hs ho _ hrest).bind fun x hx => ih hx.1 hx.2
      · refine (hs.takePositionals hargs).bind fun x hx => ?_
        dsimp only
        split
        · exact ih hx.1 hx.2
        · exact ih ⟨hx.1.slots, hx.1.pending⟩
            fun a ha => hargs a ((List.dropWhile_sublist _).subset ha)

theorem settle_owned {fs : List Known} (hfs : fs ⊆ p.flags.zipIdx) (seen : List Nat)
    {slots : Slots} (hs : slots.Owned p) (missing : List (Option Value)) :
    Yields (fun x => x.1.Owned p) (settle fs seen slots missing) := by
  induction fs generalizing slots missing with
  | nil => exact hs
  | cons f fs ih =>
    obtain ⟨f, i⟩ := f
    obtain ⟨hknown, hfs⟩ := List.cons_subset.mp hfs
    unfold settle
    split
    · exact ih hfs hs missing
    · split
      · exact (Yields.any _).suit.bind fun label _ => ih hfs hs _
      · split
        · split
          · refine (Yields.any _).step.bind fun v _ => ?_
            exact (hs.set hknown v (fun o ho => by cases ho)).suit.bind
              fun slots hslots => ih hfs hslots missing
          · exact ih hfs hs missing
        · exact ih hfs hs missing

theorem defaults_owner (p : Parser) : p.defaults.owner = none := by
  refine List.foldlRecOn (motive := fun slots : Slots => slots.owner = none) _ _ rfl ?_
  intro slots hslots f _
  dsimp only
  split
  · exact hslots
  · split
    · exact hslots
    · exact hslots

/-- all flags have targets where a reading comes to values, and the table is at most an object of a
flag that is set in its place -/
theorem readSlots_owned (args : List Value) :
    Yields (fun slots => slots.Owned p ∧ ∀ f ∈ p.flags, f.oddTarget = none)
      (p.readSlots args) := by
  have htargets : Yields (fun _ => ∀ f ∈ p.flags, f.oddTarget = none) p.checkTargets := by
    unfold checkTargets
    split
    · trivial
    · next h => exact List.findSome?_eq_none_iff.mp h
  unfold readSlots
  refine htargets.step.bind fun _ hodd => ?_
  refine (recognizeAll_known args).step.bind fun args hargs => ?_
  have hstart : Progress.Owned p { slots := p.defaults, pending := p.positionals } :=
    ⟨.of_none p.defaults_owner, fun f hf => List.mem_of_mem_filter hf⟩
  refine Ends.bind (takeAllFrom_owned _ hstart hargs) fun s hs => ?_
  refine (settle_owned (List.Subset.refl _) s.seen hs.slots []).bind fun x hx => ?_
  refine (Yields.any _).step.bind fun _ _ => ?_
  refine hx.split.suit.bind fun y hy => ?_
  exact (Yields.any _).step.bind fun _ _ => ⟨hy, hodd⟩

end Parser

/-! ## the parser after a reading -/

/-- the name under which a flag is recorded -/
def Flag.recorded (f : Flag) : Value := f.oddTarget.getD (.text f.target)

namespace Parser

theorem ownFields_replaceOwn (f : Flag) (a b : Flag.Own) (fields : Values) :
    ownFields (replaceOwn f a fields) b = if a = b then fields else ownFields f b := by
  cases a <;> cases b <;> rfl

variable {p : Parser}

theorem getElem?_replaceObject (p : Parser) (object : Owner × Entries) (place : Nat) :
    (p.replaceObject object).flags[place]? = p.flags[place]?.map fun f =>
      if object.1.place = place then replaceOwn f object.1.own object.2.fields else f :=
  List.getElem?_modify ..

/-- what has become of objects changes nothing else of the flags -/
theorem map_replaceObject {β : Type} {g : Flag → β}
    (hg : ∀ f own fields, g (replaceOwn f own fields) = g f) (p : Parser)
    (object : Owner × Entries) : (p.replaceObject object).flags.map g = p.flags.map g := by
  refine List.ext_getElem? fun place => ?_
  rw [List.getElem?_map, List.getElem?_map, getElem?_replaceObject, Option.map_map]
  congr 1
  funext f
  rw [Function.comp_apply]
  split
  · rw [hg]
  · rfl

theorem map_replaceObjects {β : Type} {g : Flag → β}
    (hg : ∀ f own fields, g (replaceOwn f own fields) = g f) (p : Parser)
    (objects : List (Owner × Entries)) :
    (p.replaceObjects objects).flags.map g = p.flags.map g := by
  induction objects generalizing p with
  | nil => rfl
  | cons object objects ih => exact (ih _).trans (map_replaceObject hg p object)

theorem objectFields_replaceObject_self {o : Owner} (h : o.place < p.flags.length) (t : Entries) :
    (p.replaceObject (o, t)).objectFields o = t.fields := by
  rw [objectFields, getElem?_replaceObject, List.getElem?_eq_getElem h]
  simp only [Option.map_some, Option.getD_some, if_true, ownFields_replaceOwn]

theorem objectFields_replaceObject_of_ne {o : Owner} {object : Owner × Entries}
    (h : object.1 ≠ o) : (p.replaceObject object).objectFields o = p.objectFields o := by
  rw [objectFields, objectFields, getElem?_replaceObject, Option.map_map]
  congr 2
  funext f
  rw [Function.comp_apply]
  split
  · next hplace =>
    -- the other object of the same flag
    have hown : object.1.own ≠ o.own := fun hown => by
      obtain ⟨⟨place, own⟩, t⟩ := object
      cases hplace
      cases hown
      exact h rfl
    rw [ownFields_replaceOwn, if_neg hown]
  · rfl

theorem objectFields_replaceObjects {o : Owner} {objects : List (Owner × Entries)}
    (h : ∀ object ∈ objects, object.1 ≠ o) :
    (p.replaceObjects objects).objectFields o = p.objectFields o := by
  induction objects generalizing p with
  | nil => rfl
  | cons object objects ih =>
    obtain ⟨hobject, hobjects⟩ := List.forall_mem_cons.mp h
    exact (ih hobjects).trans (objectFields_replaceObject_of_ne hobject)

theorem map_read {β : Type} {g : Flag → β}
    (hg : ∀ f own fields, g (replaceOwn f own fields) = g f) (p : Parser) (args : List Value) :
    (p.read args).after.flags.map g = p.flags.map g := by
  unfold read
  cases p.readSlots args with
  | error stop => exact map_replaceObjects hg ..
  | ok slots => exact map_replaceObjects hg ..

theorem read_recorded (p : Parser) (args : List Value) :
    (p.read args).after.flags.map Flag.recorded = p.flags.map Flag.recorded :=
  map_read (fun _ own _ => by cases own <;> rfl) p args

theorem read_names (p : Parser) (args : List Value) :
    (p.read args).after.flags.map Flag.names = p.flags.map Flag.names :=
  map_read (fun _ own _ => by cases own <;> rfl) p args

/-- the table has its entries after a reading, if it is an object of a flag -/
theorem objectFields_objects {slots : Slots} {o : Owner} (howner : slots.owner = some o)
    (hplace : o.place < p.flags.length) :
    (p.replaceObjects slots.objects).objectFields o = slots.entries.fields := by
  have hobjects : slots.objects =
      (o, slots.entries) :: slots.left.filter fun object => object.1 != o := by
    rw [Slots.objects, howner]
  have hleft : ∀ object ∈ slots.left.filter fun object => object.1 != o, object.1 ≠ o :=
    fun object hobject => bne_iff_ne.mp (List.mem_filter.mp hobject).2
  calc (p.replaceObjects slots.objects).objectFields o
      = ((p.replaceObject (o, slots.entries)).replaceObjects
          (slots.left.filter fun object => object.1 != o)).objectFields o := by rw [hobjects]; rfl
    _ = (p.replaceObject (o, slots.entries)).objectFields o := objectFields_replaceObjects hleft
    _ = slots.entries.fields := objectFields_replaceObject_self hplace slots.entries

/-- **The object that the values are.** -/
theorem read_owner {args : List Value} {values : Values} {o : Owner}
    (hread : (p.read args).result = .ok values) (howner : (p.read args).owner = some o) :
    (p.read args).after.objectFields o = values ∧
      .text tableTarget ∈ p.flags.map Flag.recorded := by
  unfold read at hread howner ⊢
  cases hslots : p.readSlots args with
  | error stop =>
    rw [hslots] at hread
    cases hread
  | ok slots =>
    rw [hslots] at hread howner
    cases hread
    obtain ⟨howned, hodd⟩ := (readSlots_owned args).ok hslots
    obtain ⟨f, hknown, htarget⟩ := howned o howner
    have hf : f ∈ p.flags := List.fst_mem_of_mem_zipIdx hknown
    refine ⟨objectFields_objects howner (List.snd_lt_of_mem_zipIdx hknown), ?_⟩
    refine List.mem_map.mpr ⟨f, hf, ?_⟩
    rw [Flag.recorded, hodd f hf, htarget]
    rfl

end Parser

end ProxyInjector.CommandLine
