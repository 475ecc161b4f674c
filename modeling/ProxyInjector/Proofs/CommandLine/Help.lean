import ProxyInjector.CommandLine.Help
import ProxyInjector.Proofs.Template.Pieces
import ProxyInjector.Proofs.Text.Blank

/-!
# Help on flags whose help texts ask for nothing

A help text is a template, and may ask for what nobody knows of the flag.  One without a percent
sign asks for nothing.

* `Text.setText_ne_nil`   a text that starts with no blank is set in at least one line;
* `Flag.Described`        the help text of the flag is of both kinds;
* `Parser.exists_help`    a parser of such flags can show its help, if it can show its usage.
-/

namespace ProxyInjector

/-! ## lines -/

namespace Text

variable {c : Char}

theorem isBlank_of_isGap (h : isGap c = true) : isBlank c = true := by
  unfold isGap at h
  rcases Bool.or_eq_true _ _ ▸ h with h | h
  · rw [beq_iff_eq.mp h]
    rfl
  · unfold isBlank
    simp only [h, Bool.true_or]

theorem exists_collapse (h : isBlank c = false) (cs : List Char) :
    ∃ rest, collapse (c :: cs) = c :: rest := by
  have hgap : isGap c = false := Bool.eq_false_iff.mpr fun hgap => by
    rw [isBlank_of_isGap hgap] at h
    cases h
  have hfrom : collapseFrom false (c :: cs) = [c] ++ collapseFrom false cs := by
    rw [collapseFrom, hgap]
    rfl
  rw [collapse, hfrom, trim_append (List.cons_ne_nil _ _) (List.forall_mem_singleton.mpr h)]
  exact ⟨_, rfl⟩

theorem exists_word (before cs : List Char) (c : Char) :
    ∃ w, (word before (c :: cs)).1 = c :: w := by
  unfold word
  split
  · exact ⟨_, rfl⟩
  · split <;> exact ⟨_, rfl⟩

theorem exists_chunks (h : isBlank c = false) (cs : List Char) :
    ∃ w rest, chunks (c :: cs) = (c :: w) :: rest := by
  have hspace : c ≠ ' ' := by
    rintro rfl
    cases h
  have hhead : ¬ (c :: cs).head? = some ' ' := by simpa using hspace
  obtain ⟨w, hw⟩ := exists_word [] cs c
  have hchunk : (chunk [] (c :: cs)).1 = c :: w := by
    rw [chunk, if_neg hhead]
    exact hw
  have hchunks : chunks (c :: cs)
      = (chunk [] (c :: cs)).1 :: chunksFrom cs.length _ (chunk [] (c :: cs)).2 := rfl
  rw [hchunks, hchunk]
  exact ⟨w, _, rfl⟩

theorem cutLength_pos {room : Nat} (h : 0 < room) (w : List Char) : 0 < cutLength room w := by
  unfold cutLength
  split
  · exact h
  · split
    · exact h
    · exact Nat.succ_pos _

theorem setFrom_ne_nil {width fuel : Nat} (hwidth : 0 < width) (h : isBlank c = false)
    (w : List Char) (rest : List (List Char)) :
    setFrom width (fuel + 1) true ((c :: w) :: rest) ≠ [] := by
  have hline : ∃ v more, (cutLong width (fitting width 0 ((c :: w) :: rest)).1
      (fitting width 0 ((c :: w) :: rest)).2).1 = (c :: v) :: more := by
    unfold fitting
    split
    · dsimp only
      unfold cutLong
      split
      · exact ⟨w, _, rfl⟩
      · split <;> exact ⟨w, _, rfl⟩
    · next hlong =>
      obtain ⟨n, hn⟩ := Nat.exists_eq_succ_of_ne_zero
        (Nat.ne_of_gt (cutLength_pos hwidth (c :: w)))
      rw [cutLong, if_pos (by omega)]
      exact ⟨w.take n, [], by simp [hn]⟩
  obtain ⟨v, more, hline⟩ := hline
  have hblank : isBlankChunk (c :: v) = false := by simp [isBlankChunk, h]
  unfold setFrom
  simp only [Bool.not_true, Bool.false_and, Bool.false_eq_true, if_false, hline]
  cases more with
  | nil => simp [hblank]
  | cons x more => split <;> simp

theorem setText_ne_nil {width : Nat} (hwidth : 0 < width) (h : isBlank c = false)
    (cs : List Char) : setText width (c :: cs) ≠ [] := by
  obtain ⟨rest, hcollapse⟩ := exists_collapse h cs
  obtain ⟨w, more, hchunks⟩ := exists_chunks h rest
  rw [setText, hcollapse, hchunks, setChunks]
  exact setFrom_ne_nil hwidth h w more

end Text

namespace CommandLine

open Template (Filling)

/-! ## flags -/

namespace Flag

/-- the text starts with no blank and asks for nothing -/
def IsPlainHelp (text : String) : Prop :=
  (∃ c cs, text.toList = c :: cs ∧ Text.isBlank c = false) ∧ '%' ∉ text.toList

theorem isPlainHelp_ofList {c : Char} {cs : List Char}
    (h : Text.isBlank c = false ∧ '%' ∉ c :: cs) : IsPlainHelp (String.ofList (c :: cs)) := by
  rw [IsPlainHelp, String.toList_ofList]
  exact ⟨⟨c, cs, rfl, h.1⟩, h.2⟩

theorem IsPlainHelp.append {s t : String} (hs : IsPlainHelp s) (ht : IsPlainHelp t) :
    IsPlainHelp (s ++ t) := by
  obtain ⟨⟨c, cs, hc, hblank⟩, hs⟩ := hs
  rw [IsPlainHelp, String.toList_append]
  refine ⟨⟨c, cs ++ t.toList, by rw [hc, List.cons_append], hblank⟩, fun h => ?_⟩
  exact (List.mem_append.mp h).elim hs ht.2

structure Described (f : Flag) : Prop where
  standIn : f.standIn = .null
  choices : ∀ kind, f.choices ≠ some (.closed kind)
  help : ∃ text, f.help = .text text ∧ IsPlainHelp text

variable {f : Flag}

theorem Described.measure (h : f.Described) : f.measure = .ok f.spelling.length := by
  unfold Flag.measure
  rw [h.standIn]
  cases f.isPositional <;> rfl

theorem Described.fields (h : f.Described) (program : String) :
    ∃ fields, f.fields program = .ok fields := by
  have hchoices : ∃ filling, f.choicesField = .ok filling := by
    unfold choicesField
    split
    · exact ⟨_, rfl⟩
    · next kind hkind => exact absurd hkind (h.choices kind)
    · exact ⟨_, rfl⟩
  obtain ⟨filling, hchoices⟩ := hchoices
  rw [Flag.fields, hchoices]
  exact ⟨_, rfl⟩

theorem Described.helpEntry (h : f.Described) (program : String) (position : Nat) :
    ∃ text, f.helpEntry program position = .ok text := by
  obtain ⟨fields, hfields⟩ := h.fields program
  obtain ⟨help, hhelp, ⟨c, cs, hcs, hblank⟩, hplain⟩ := h.help
  have hexpanded : f.expanded program help = .ok (c :: cs) := by
    rw [expanded, hfields, ← hcs]
    exact congrArg (Except.mapError Unsuited.template) (Template.render_plain _ hplain)
  have htrim : Text.trim help.toList ≠ [] := by
    rw [hcs, show c :: cs = [c] ++ cs from rfl,
      Text.trim_append (List.cons_ne_nil _ _) (List.forall_mem_singleton.mpr hblank)]
    exact List.cons_ne_nil _ _
  obtain ⟨l, ls, hset⟩ := List.exists_cons_of_ne_nil
    (Text.setText_ne_nil (Nat.lt_of_lt_of_le (by decide)
      (Nat.le_max_right (textWidth - position) leastWidth)) hblank cs)
  unfold Flag.helpEntry
  rw [h.measure, hhelp]
  simp only [Except.bind, if_neg htrim, hexpanded, hset]
  split <;> exact ⟨_, rfl⟩

end Flag

/-! ## parsers -/

theorem exists_mapM {α β ε : Type} {f : α → Except ε β} {l : List α}
    (h : ∀ a ∈ l, ∃ b, f a = .ok b) : ∃ bs, l.mapM f = .ok bs := by
  induction l with
  | nil => exact ⟨[], rfl⟩
  | cons a l ih =>
    obtain ⟨⟨b, hb⟩, hl⟩ := List.forall_mem_cons.mp h
    obtain ⟨bs, hbs⟩ := ih hl
    rw [List.mapM_cons, hb, hbs]
    exact ⟨b :: bs, rfl⟩

namespace Parser

variable {p : Parser}

theorem exists_helpSection (position : Nat) (title : String) {flags : List Flag}
    (h : ∀ f ∈ flags, f.Described) : ∃ text, p.helpSection position title flags = .ok text := by
  obtain ⟨entries, hentries⟩ :=
    exists_mapM fun f hf => (h f hf).helpEntry p.program position
  unfold helpSection
  rw [hentries]
  split <;> exact ⟨_, rfl⟩

/-- **Help.**  A parser can show its help if it can show its usage and no help text asks for
anything. -/
theorem exists_help (h : ∀ f ∈ p.flags, f.Described) (husage : p.usageChars?.isSome) :
    ∃ text, p.help = .ok text := by
  have hfilter (q : Flag → Bool) : ∀ f ∈ p.flags.filter q, f.Described := fun f hf =>
    h f (List.mem_filter.mp hf).1
  have happend : ∀ f ∈ p.flags.filter Flag.isPositional
      ++ p.flags.filter (fun f => !f.isPositional),
      ∃ n, f.measure = .ok n := fun f hf =>
    (List.mem_append.mp hf).elim (fun hf => ⟨_, (hfilter _ f hf).measure⟩)
      fun hf => ⟨_, (hfilter _ f hf).measure⟩
  obtain ⟨sizes, hsizes⟩ := exists_mapM happend
  obtain ⟨usage, husage⟩ := Option.isSome_iff_exists.mp husage
  let position := min ((sizes.map (· + 2)).foldl max 0 + 2) helpColumn
  obtain ⟨first, hfirst⟩ :=
    p.exists_helpSection position "positional arguments" (hfilter Flag.isPositional)
  obtain ⟨second, hsecond⟩ :=
    p.exists_helpSection position "options" (hfilter fun f => !f.isPositional)
  unfold help
  simp only [hsizes, husage, bind, Except.bind]
  rw [hfirst]
  dsimp only
  rw [hsecond]
  exact ⟨_, rfl⟩

end Parser

end CommandLine

end ProxyInjector
