import ProxyInjector.Proofs.Log.Lines
import ProxyInjector.Proofs.Log.Runs

/-!
# Log files over a run

Log files only grow, and every record that is due in one takes exactly one line of it.

* `Settings.Plain`        the template that settings ask for, if they do, can always be filled in;
* `Log.Ready`             what holds between two acts: one handler at most, a level above zero, a
                          template that writes every record, and a file that is there;
* `LoggerState.Due`       a record is due in a file;
* `Console.files_after`   after any run a set-up changes no file, and creates the one it names at
                          most; a record adds a line to the file it is due in, and to no other.
-/

namespace ProxyInjector

namespace Log

/-- the template can always be filled in, whatever the record -/
def Settings.Plain (cfg : Settings) : Prop :=
  ∀ t, cfg.template = .text t → LineTemplate.Plain t

/-- the record is due in the file at `l`, in lines by the template `t` -/
structure LoggerState.Due (s : LoggerState) (r : Record) (l : Location) (t : String) : Prop where
  own : isOwn r.logger = true
  handlers : s.handlers.map Handler.bare = [{ sink := .file l, template := t }]
  level : s.effective ≤ r.level

theorem Formats.plain {cfg : Settings} (h : cfg.Plain) {t : String} (ht : Formats cfg.template t) :
    LineTemplate.Plain t := by
  generalize hv : cfg.template = v at ht
  cases ht with
  | given => exact h _ hv
  | bare => exact LineTemplate.bare_plain

theorem Level.Named.pos {v : Value} {l : Level} (h : Named v l) : 0 < l := by
  obtain ⟨_, -, hl, -⟩ := h
  revert l
  decide

/-- the files behind a set-up: where a sink is asked for, it is open -/
theorem directory_install (cfg : Settings) (s : LoggerState) (d : Directory) :
    (∃ sink, Goes d cfg.file sink ∧ (install cfg s d).2.2 = openSink d sink) ∨
      (∀ sink, ¬ Goes d cfg.file sink) ∧ (install cfg s d).2.2 = d := by
  unfold install
  cases hsink : sinkOf d cfg.file with
  | error e => exact .inr ⟨not_of_error (sinkOf_eq_ok_iff d cfg.file) hsink, rfl⟩
  | ok sink =>
    refine .inl ⟨sink, (sinkOf_eq_ok_iff _ _ _).mp hsink, ?_⟩
    dsimp only
    split
    · rfl
    · split <;> rfl

/-- a set-up that fails at an old handler leaves the files alone -/
theorem directory_configure (cfg : Settings) (s : LoggerState) (d : Directory) :
    (∃ sink, Goes d cfg.file sink ∧ (configure cfg s d).2.2 = openSink d sink) ∨
      (configure cfg s d).2.2 = d := by
  by_cases h : s.Closable
  · rw [configure_of_closable h]
    rcases directory_install cfg s d with hopen | ⟨-, hsame⟩
    · exact .inl hopen
    · exact .inr hsame
  · obtain ⟨before, k, behind, -, -, -, hconfigure⟩ := configure_of_not_closable h cfg d
    rw [hconfigure]
    exact .inr rfl

theorem Goes.unique {d : Directory} {v : Value} {a b : Sink} (ha : Goes d v a) (hb : Goes d v b) :
    a = b := by
  rw [← sinkOf_eq_ok_iff] at ha hb
  exact Except.ok.inj (ha.symm.trans hb)

/-! ## what holds between two acts -/

structure Ready (s : LoggerState) (d : Directory) : Prop where
  single : s.handlers.length ≤ 1
  level : 0 < s.effective
  lines : ∀ h ∈ s.handlers, LineTemplate.Plain h.template
  files : ∀ h ∈ s.handlers, ∀ l, h.sink = .file l → (d.text? l).isSome = true

namespace Ready

variable {s s' : LoggerState} {d d' : Directory}

theorem initial (d : Directory) : Ready {} d where
  single := Nat.le_refl 1
  level := by decide
  lines := List.forall_mem_singleton.mpr LineTemplate.bare_plain
  files := List.forall_mem_singleton.mpr fun _ h => nomatch h

/-- a file stays where text is appended -/
theorem append (h : Ready s d) (l : Location) (text : String) : Ready s (d.append l text) where
  single := h.single
  level := h.level
  lines := h.lines
  files := by
    intro k hk m hm
    rw [Directory.text?_append]
    split
    · rfl
    · exact h.files k hk m hm

/-- it does not matter what handlers hold -/
theorem heard (h : Ready s d) (stamp : Stamp) (r : Record) : Ready (s.heard d stamp r) d := by
  have hbare := s.map_bare_heard d stamp r
  have hfrom (k : Handler) (hk : k ∈ (s.heard d stamp r).handlers) :
      ∃ j ∈ s.handlers, j.sink = k.sink ∧ j.template = k.template := by
    have hmem := List.mem_map_of_mem (f := Handler.bare) hk
    rw [hbare] at hmem
    obtain ⟨j, hj, hjk⟩ := List.mem_map.mp hmem
    exact ⟨j, hj, (Handler.mk.inj hjk).1, (Handler.mk.inj hjk).2.1⟩
  have heffective : (s.heard d stamp r).effective = s.effective := by
    unfold LoggerState.effective
    rw [LoggerState.level_heard]
  refine ⟨?_, ?_, fun k hk => ?_, fun k hk l hl => ?_⟩
  · rw [LoggerState.length_heard]
    exact h.single
  · rw [heffective]
    exact h.level
  · obtain ⟨j, hj, -, htemplate⟩ := hfrom k hk
    exact htemplate ▸ h.lines j hj
  · obtain ⟨j, hj, hsink, -⟩ := hfrom k hk
    exact h.files j hj l (hsink.trans hl)

/-- a record is due in files only that are there -/
theorem file_of_due (h : Ready s d) {r : Record} {l : Location} {t : String} (hdue : s.Due r l t) :
    (d.text? l).isSome = true := by
  have hk : (⟨.file l, t, false⟩ : Handler) ∈ s.handlers.map Handler.bare :=
    hdue.handlers ▸ List.mem_cons_self
  obtain ⟨k, hmem, hbare⟩ := List.mem_map.mp hk
  exact h.files k hmem l (Handler.mk.inj hbare).1

theorem asked {cfg : Settings} (hcfg : cfg.Plain) {k : Handler} (hk : Asked cfg d k)
    (hd : d' = openSink d k.sink) (hlevel : 0 < s'.effective) (hs : s'.handlers = [k]) :
    Ready s' d' where
  single := by rw [hs]; exact Nat.le_refl 1
  level := hlevel
  lines := by
    rw [hs]
    exact List.forall_mem_singleton.mpr (hk.template.plain hcfg)
  files := by
    rw [hs, List.forall_mem_singleton]
    intro l hl
    rw [hd, hl]
    show ((d.append l "").text? l).isSome = true
    rw [Directory.text?_append, if_pos rfl]
    rfl

theorem configure (h : Ready s d) {cfg : Settings} (hcfg : cfg.Plain) :
    Ready (configure cfg s d).2.1 (configure cfg s d).2.2 := by
  have hset := setUp_configure cfg h.single d
  have hfiles : s.Closable → ∀ sink, Goes d cfg.file sink →
      (Log.configure cfg s d).2.2 = openSink d sink := by
    intro hclosable sink hsink
    rw [configure_of_closable hclosable]
    rcases directory_install cfg s d with ⟨sink', hsink', hd⟩ | ⟨hno, -⟩
    · rw [hd, hsink'.unique hsink]
    · exact absurd hsink (hno sink)
  generalize (Log.configure cfg s d).2.2 = d' at hfiles ⊢
  generalize (Log.configure cfg s d).2.1 = s' at hset ⊢
  generalize (Log.configure cfg s d).1 = result at hset
  cases hset with
  | done hs hk hl =>
    refine asked hcfg hk (hfiles hs _ hk.sink) ?_ rfl
    unfold LoggerState.effective
    split
    · decide
    · exact hl.pos
  | unlevelled hs hk => exact asked hcfg hk (hfiles hs _ hk.sink) h.level rfl
  | unhandled | unclosed =>
    exact { single := Nat.zero_le 1, level := h.level, lines := nofun, files := nofun }

end Ready

end Log

namespace Console

open Log

/-! ## records -/

variable {c : Console}

theorem directory_handle_of_not_file {h : Handler} (hsink : ∀ l, h.sink ≠ .file l) (r : Record)
    (stamp : Stamp) (c : Console) : (handle r stamp c h).directory = c.directory := by
  obtain ⟨sink, t, holds⟩ := h
  cases sink with
  | nothing => rfl
  | stream =>
    unfold handle deliver
    cases r.render? stamp t with
    | none => rfl
    | some line =>
      dsimp only
      split <;> rfl
  | file l => exact absurd rfl (hsink l)

/-- a file has the line at its end, if there is room for it -/
theorem directory_handle_of_file {h : Handler} {l : Location} (hsink : h.sink = .file l)
    {r : Record} {stamp : Stamp} {line : String} (hline : r.render? stamp h.template = some line)
    (c : Console) :
    (handle r stamp c h).directory = c.directory.append l (line ++ "\n") := by
  unfold handle
  rw [hsink, hline]
  show (deliver c r line (.file l)).directory = _
  unfold deliver
  dsimp only
  split
  · next hrefuses =>
    rw [Directory.append_of_refuses hrefuses]
    rfl
  · rfl

/-- the last resort writes to no file -/
theorem directory_lastResort (r : Record) (stamp : Stamp) (c : Console) :
    ((LoggerState.route.lastResort r).foldl (handle r stamp) c).directory = c.directory := by
  unfold LoggerState.route.lastResort
  split
  · exact directory_handle_of_not_file (h := { sink := .stream, template := bareTemplate })
      (fun _ h => nomatch h) r stamp c
  · rfl

theorem foldl_route_of_not_due {r : Record}
    (h : ¬ (isOwn r.logger = true ∧ c.logger.effective ≤ r.level)) (stamp : Stamp) (b : Console) :
    ((c.logger.route r).foldl (handle r stamp) b).directory = b.directory := by
  unfold LoggerState.route
  split
  · next hown =>
    have hrefused : c.logger.accepts r.level = false := by
      rw [LoggerState.accepts, Bool.and_eq_false_iff]
      exact .inr (decide_eq_false fun hlevel => h ⟨hown, hlevel⟩)
    rw [hrefused]
    rfl
  · exact directory_lastResort r stamp b

theorem route_of_due (hpos : 0 < c.logger.effective) {r : Record} (hown : isOwn r.logger = true)
    (hlevel : c.logger.effective ≤ r.level) :
    c.logger.route r = if c.logger.handlers = [] then LoggerState.route.lastResort r
      else c.logger.handlers := by
  have haccepts : c.logger.accepts r.level = true := by
    rw [LoggerState.accepts, Bool.and_eq_true]
    exact ⟨decide_eq_true (Int.lt_of_lt_of_le hpos hlevel), decide_eq_true hlevel⟩
  unfold LoggerState.route
  rw [if_pos hown, haccepts]
  rfl

/-- **One record.**  It adds a line to the file in which it is due, if it is due in one. -/
theorem directory_emit (h : Ready c.logger c.directory) (r : Record) (site : Site) :
    (∃ l t line, c.logger.Due r l t ∧ r.render? (c.manner.stamp site r) t = some line ∧
      (c.emit r site).directory = c.directory.append l (line ++ "\n")) ∨
    (∀ l t, ¬ c.logger.Due r l t) ∧ (c.emit r site).directory = c.directory := by
  obtain ⟨b, hb, hemit⟩ : ∃ b : Console, b.directory = c.directory ∧ (c.emit r site).directory
      = ((c.logger.route r).foldl (handle r (c.manner.stamp site r)) b).directory :=
    ⟨{ c with journal := c.journal ++ [r] }, rfl, rfl⟩
  rw [hemit, ← hb]
  generalize c.manner.stamp site r = stamp
  by_cases hdue : isOwn r.logger = true ∧ c.logger.effective ≤ r.level
  · obtain ⟨hown, hlevel⟩ := hdue
    rw [route_of_due h.level hown hlevel]
    cases hhandlers : c.logger.handlers with
    | nil =>
      refine .inr ⟨fun l t hd => ?_, directory_lastResort r stamp b⟩
      have hbare := hd.handlers
      rw [hhandlers] at hbare
      cases hbare
    | cons k ks =>
      have hks : ks = [] := by
        have hlength := h.single
        rw [hhandlers, List.length_cons] at hlength
        exact List.eq_nil_of_length_eq_zero (by omega)
      subst hks
      have hplain := h.lines k (hhandlers ▸ List.mem_cons_self)
      rw [if_neg (List.cons_ne_nil _ _)]
      show (∃ l t line, _) ∨ _ ∧ (handle r stamp b k).directory = b.directory
      by_cases hfile : ∃ l, k.sink = .file l
      · obtain ⟨l, hsink⟩ := hfile
        obtain ⟨line, hline⟩ := hplain.exists_line stamp r
        refine .inl ⟨l, k.template, line, ⟨hown, ?_, hlevel⟩, hline,
          directory_handle_of_file hsink hline b⟩
        rw [hhandlers, ← hsink]
        rfl
      · refine .inr ⟨fun l t' hd => ?_,
          directory_handle_of_not_file (fun l hl => hfile ⟨l, hl⟩) r stamp b⟩
        have hbare := hd.handlers
        rw [hhandlers] at hbare
        exact hfile ⟨l, (Handler.mk.inj (List.cons.inj hbare).1).1⟩
  · refine .inr ⟨fun l t hd => hdue ⟨hd.own, hd.level⟩, ?_⟩
    exact foldl_route_of_not_due hdue stamp b

theorem ready_emit (h : Ready c.logger c.directory) (r : Record) (site : Site) :
    Ready (c.emit r site).logger (c.emit r site).directory := by
  rw [logger_emit]
  rcases directory_emit h r site with ⟨l, t, line, -, -, hd⟩ | ⟨-, hd⟩
  · rw [hd]
    exact (h.heard _ r).append l _
  · rw [hd]
    exact h.heard _ r

/-! ## runs -/

theorem ready_after (h : c.logger = {}) {acts : List Act}
    (hacts : ∀ cfg, .setUp cfg ∈ acts → cfg.Plain) :
    Ready (c.after acts).logger (c.after acts).directory := by
  refine after_keeps (P := fun c => Ready c.logger c.directory) ?_ ?_ ?_
  · exact fun c cfg hcfg hc => hc.configure (hacts cfg hcfg)
  · exact fun c r site hc => ready_emit hc r site
  · rw [h]
    exact Ready.initial _

/-- a set-up changes no file, and creates the one it names at most -/
theorem text?_configureLog (c : Console) (cfg : Settings) (l : Location) :
    (c.configureLog cfg).2.directory.text? l = c.directory.text? l ∨
      c.directory.text? l = none ∧ (c.configureLog cfg).2.directory.text? l = some "" ∧
        Goes c.directory cfg.file (.file l) := by
  show (configure cfg c.logger c.directory).2.2.text? l = _ ∨
    _ ∧ (configure cfg c.logger c.directory).2.2.text? l = _ ∧ _
  rcases directory_configure cfg c.logger c.directory with ⟨sink, hgoes, hd⟩ | hd
  · rw [hd]
    by_cases hsink : sink = .file l
    · subst hsink
      rcases text?_openSink c.directory (.file l) l with hsame | ⟨hnone, hempty⟩
      · exact .inl hsame
      · exact .inr ⟨hnone, hempty, hgoes⟩
    · left
      cases sink with
      | nothing | stream => rfl
      | file m =>
        show (c.directory.append m "").text? l = _
        rw [Directory.text?_append, if_neg fun hl => hsink (congrArg Sink.file hl)]
  · rw [hd]
    exact .inl rfl

/-- **Log files.**  Whatever was set up and logged since the start, failed attempts included, a
set-up changes no file that is there, and creates the one it names at most, which is empty.  A
record that is due in a file adds its line there, as far as the file keeps what it is given, and
changes no other file.  A record that is due in none changes no file at all. -/
theorem files_after (h : c.logger = {}) {acts : List Act}
    (hacts : ∀ cfg, .setUp cfg ∈ acts → cfg.Plain) :
    let past := c.after acts
    (∀ cfg l, (past.configureLog cfg).2.directory.text? l = past.directory.text? l ∨
      past.directory.text? l = none ∧
        (past.configureLog cfg).2.directory.text? l = some "" ∧
        Goes past.directory cfg.file (.file l)) ∧
    (∀ r site l t, past.logger.Due r l t → ∃ line,
      r.render? (past.manner.stamp site r) t = some line ∧
      (past.emit r site).directory = past.directory.append l (line ++ "\n") ∧
      ∀ m, if l = m
        then ∃ text, past.directory.text? m = some text ∧
          (past.emit r site).directory.text? m
            = some (text ++ past.directory.kept (line ++ "\n") m)
        else (past.emit r site).directory.text? m = past.directory.text? m) ∧
    (∀ r site, (∀ l t, ¬ past.logger.Due r l t) →
      (past.emit r site).directory = past.directory) := by
  intro past
  have hready : Ready past.logger past.directory := ready_after h hacts
  refine ⟨past.text?_configureLog, fun r site l t hdue => ?_, fun r site hno => ?_⟩
  · rcases directory_emit hready r site with ⟨l', t', line, hdue', hline, hd⟩ | ⟨hno, -⟩
    · have hsame := hdue.handlers.symm.trans hdue'.handlers
      cases hsame
      refine ⟨line, hline, hd, fun m => ?_⟩
      rw [hd, Directory.text?_append]
      split
      · next hl =>
        obtain ⟨text, htext⟩ := Option.isSome_iff_exists.mp (hl ▸ hready.file_of_due hdue)
        exact ⟨text, htext, by rw [htext]; rfl⟩
      · rfl
    · exact absurd hdue (hno l t)
  · rcases directory_emit hready r site with ⟨l, t, -, hdue, -⟩ | ⟨-, hd⟩
    · exact absurd hdue (hno l t)
    · exact hd

/-! ## back to an earlier file -/

def brief : String := "%(levelname)s: %(message)s"

theorem brief_plain : LineTemplate.Plain brief :=
  ⟨[.field { name := "levelname" }, .literal ": ".toList, .field { name := "message" }],
    by decide +kernel, by decide +kernel, rfl⟩

def kept : Console := { directory := { path := "/tmp/w", files := [("old.log", "kept\n")] } }

/-- the second set-up fails at its level, so that its file takes the record behind it by the level
of the first -/
def turns : List Act :=
  [.setUp { file := .text "old.log", level := .text "D", template := .text brief },
    .log (.text "agentproxy") (.int 10) (.text "one"),
    .setUp { file := .text "new.log", level := .text "x" },
    .log (.text "agentproxy.cli") (.int 10) (.text "two"),
    .setUp { file := .text "old.log", level := .text "E", template := .text brief }]

def last : Record :=
  { level := 40, logger := "agentproxy.cli", message := "three"
    unit := "caller", function := "emit" }

theorem files_after_turns :
    kept.logger = {} ∧ (∀ cfg, .setUp cfg ∈ turns → cfg.Plain) ∧
    (kept.after turns).logger.Due last (.here "old.log") brief ∧
    ((kept.after turns).emit last).directory
      = (kept.after turns).directory.append (.here "old.log") "ERROR: three\n" := by
  have hplain : ∀ cfg, .setUp cfg ∈ turns → cfg.Plain := by
    intro cfg hcfg t ht
    simp only [turns, List.mem_cons, List.not_mem_nil, or_false, Act.setUp.injEq, reduceCtorEq,
      false_or] at hcfg
    rcases hcfg with rfl | rfl | rfl
    · cases ht
      exact brief_plain
    · cases ht
      exact LineTemplate.standard_plain
    · cases ht
      exact brief_plain
  have hlogger : (kept.after turns).logger
      = ⟨Level.error, false, [{ sink := .file (.here "old.log"), template := brief }]⟩ := by
    decide +kernel
  have hdue : (kept.after turns).logger.Due last (.here "old.log") brief := by
    rw [hlogger]
    exact ⟨by decide +kernel, rfl, by decide⟩
  obtain ⟨line, hline, hd, -⟩ := (files_after (c := kept) rfl hplain).2.1 last .told _ _ hdue
  have hthree : last.render? ((kept.after turns).manner.stamp .told last) brief
      = some "ERROR: three" := by decide +kernel
  rw [hthree] at hline
  cases hline
  exact ⟨rfl, hplain, hdue, hd⟩

end Console

end ProxyInjector
