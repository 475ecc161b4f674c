import ProxyInjector.Console

/-!
# What the set-up of logging leaves behind

* `Directory.text?`             the content of a file, here or elsewhere;
* `Directory.text?_append`      the files after a text was appended to one of them;
* `Log.LoggerState.Closable`    no handler holds a line.  `closeAll_cases` says what becomes of the
                                handlers if that is so and if it is not;
* `Log.configure_ok`            a set-up that goes through leaves one handler, and of the logger
                                before it nothing;
* `Log.text?_openSink`          a sink is opened by appending nothing, so that no file gains any
                                content; at most one is created.
-/

namespace ProxyInjector

/-! ## files -/

namespace OutsideFile

/-- what the file keeps of a text that is appended to it -/
def kept (f : OutsideFile) (text : String) : String :=
  match f.intake with
  | .keeps => text
  | .drops | .refuses _ | .shut _ => ""

theorem content_append (f : OutsideFile) (text : String) :
    (f.append text).content = f.content ++ f.kept text := by
  unfold append kept
  cases f.intake <;> simp

theorem kept_nothing (f : OutsideFile) : f.kept "" = "" := by
  unfold kept
  split <;> rfl

theorem append_of_waiting? {f : OutsideFile} (h : f.waiting?.isSome) (text : String) :
    f.append text = f := by
  revert h
  unfold waiting? append
  cases f.intake with
  | refuses n => exact fun _ => rfl
  | keeps | drops | shut o => exact nofun

theorem place_append (f : OutsideFile) (text : String) : (f.append text).place = f.place := by
  unfold append
  split <;> rfl

end OutsideFile

namespace Outside

theorem file?_append (o : Outside) (p q : Place) (text : String) :
    (o.append p text).file? q
      = if p = q then some (((o.file? p).getD { place := p }).append text) else o.file? q := by
  show (appendTo o.files p text).find? (fun f => f.place == q)
    = if p = q then some (((o.files.find? fun f => f.place == p).getD { place := p }).append text)
      else o.files.find? fun f => f.place == q
  induction o.files with
  | nil =>
    by_cases h : p = q <;> simp [appendTo, h, OutsideFile.append]
  | cons f fs ih =>
    unfold appendTo
    by_cases hp : f.place = p
    · subst hp
      by_cases hq : f.place = q <;> simp [OutsideFile.place_append, hq]
    · by_cases hq : f.place = q
      · subst hq
        simp [hp, Ne.symm hp]
      · simpa [hp, hq] using ih

/-- a file without room is as it was -/
theorem append_of_waiting? {o : Outside} {p : Place} (h : (o.waiting? p).isSome) (text : String) :
    o.append p text = o := by
  have hsame (fs : List OutsideFile)
      (hfs : ((fs.find? fun f => f.place == p).bind (·.waiting?)).isSome) :
      appendTo fs p text = fs := by
    induction fs with
    | nil => cases hfs
    | cons f fs ih =>
      unfold appendTo
      by_cases hp : f.place = p
      · have hf : f.append text = f := f.append_of_waiting? (by simpa [hp] using hfs) text
        rw [if_pos (beq_iff_eq.mpr hp), hf]
      · have hrest := ih (by simpa [hp] using hfs)
        rw [if_neg (fun hbeq => hp (beq_iff_eq.mp hbeq)), hrest]
  show { o with files := appendTo o.files p text } = o
  rw [hsame o.files h]

end Outside

namespace Directory

theorem append_of_refuses {d : Directory} {l : Location} (h : d.refuses l = true) (text : String) :
    d.append l text = d := by
  cases l with
  | here name => cases h
  | elsewhere p =>
    show { d with outside := d.outside.append p text } = d
    rw [Outside.append_of_waiting? h]

/-- the content of the file -/
def text? (d : Directory) : Location → Option String
  | .here name => d.read? name
  | .elsewhere p => (d.outside.file? p).map (·.content)

/-- what a file keeps of a text that is appended to it -/
def kept (d : Directory) (text : String) : Location → String
  | .here _ => text
  | .elsewhere p => ((d.outside.file? p).getD { place := p }).kept text

theorem find?_appendTo (files : List (String × String)) (place text name : String) :
    ((appendTo files place text).find? (·.1 == name)).map (·.2)
      = if place = name then some (((files.find? (·.1 == name)).map (·.2)).getD "" ++ text)
        else (files.find? (·.1 == name)).map (·.2) := by
  induction files with
  | nil =>
    by_cases h : place = name <;> simp [appendTo, h]
  | cons f files ih =>
    obtain ⟨held, content⟩ := f
    by_cases hplace : held = place
    · subst hplace
      by_cases h : held = name <;> simp [appendTo, h]
    · by_cases hname : held = name
      · subst hname
        simp [appendTo, hplace, Ne.symm hplace]
      · have hshort : appendTo ((held, content) :: files) place text
            = (held, content) :: appendTo files place text := by simp [appendTo, hplace]
        simpa [hshort, hname] using ih

theorem text?_append (d : Directory) (l m : Location) (text : String) :
    (d.append l text).text? m
      = if l = m then some ((d.text? m).getD "" ++ d.kept text m) else d.text? m := by
  cases l with
  | here place =>
    cases m with
    | here name => simpa [append, text?, read?, kept] using find?_appendTo d.files place text name
    | elsewhere q => rfl
  | elsewhere p =>
    cases m with
    | here name => rfl
    | elsewhere q =>
      show ((d.outside.append p text).file? q).map (·.content) = _
      rw [Outside.file?_append]
      by_cases h : p = q
      · subst h
        rw [if_pos rfl, if_pos rfl, Option.map_some, OutsideFile.content_append]
        unfold text? kept
        dsimp only
        cases d.outside.file? p <;> rfl
      · rw [if_neg h, if_neg fun hl => h (Location.elsewhere.inj hl)]
        rfl

end Directory

/-! ## the set-up -/

namespace Log

/-- a file is as it was, or it was not there and is empty -/
theorem text?_openSink (d : Directory) (sink : Sink) (l : Location) :
    (openSink d sink).text? l = d.text? l ∨
      d.text? l = none ∧ (openSink d sink).text? l = some "" := by
  cases sink with
  | nothing | stream => exact .inl rfl
  | file m =>
    show (d.append m "").text? l = _ ∨ _ ∧ (d.append m "").text? l = _
    have hnothing : d.kept "" l = "" := by
      cases l with
      | here name => rfl
      | elsewhere p => exact OutsideFile.kept_nothing _
    rw [Directory.text?_append, hnothing, String.append_empty]
    by_cases h : m = l
    · cases d.text? l <;> simp [h]
    · simp [h]

/-- no handler holds a line that is still to be written -/
def LoggerState.Closable (s : LoggerState) : Prop := ∀ h ∈ s.handlers, h.holds = false

instance (s : LoggerState) : Decidable s.Closable := inferInstanceAs (Decidable (∀ h ∈ _, _))

/-- All handlers can be closed, or the first that holds a line cannot. -/
theorem closeAll_cases (hs : List Handler) :
    (∀ h ∈ hs, h.holds = false) ∧ closeAll hs = (.ok (), []) ∨
      ∃ before h behind, hs = before ++ h :: behind ∧ (∀ k ∈ before, k.holds = false) ∧
        h.holds = true ∧ closeAll hs = (.error .noRoom, behind) := by
  induction hs with
  | nil => exact .inl ⟨nofun, rfl⟩
  | cons h hs ih =>
    unfold closeAll Handler.close
    cases hh : h.holds with
    | true => exact .inr ⟨[], h, hs, rfl, nofun, hh, rfl⟩
    | false =>
      rcases ih with ⟨hall, hclose⟩ | ⟨before, k, behind, rfl, hbefore, hk, hclose⟩
      · exact .inl ⟨List.forall_mem_cons.mpr ⟨hh, hall⟩, hclose⟩
      · exact .inr ⟨h :: before, k, behind, rfl, List.forall_mem_cons.mpr ⟨hh, hbefore⟩, hk, hclose⟩

theorem configure_of_closable {s : LoggerState} (h : s.Closable) (cfg : Settings) (d : Directory) :
    configure cfg s d = install cfg s d := by
  unfold configure
  rcases closeAll_cases s.handlers with ⟨-, hclose⟩ | ⟨before, k, behind, hs, -, hk, -⟩
  · rw [hclose]
  · rw [h k (hs ▸ List.mem_append_right _ List.mem_cons_self)] at hk
    cases hk

/-- a handler that cannot be closed is gone all the same, and those behind it are still there -/
theorem configure_of_not_closable {s : LoggerState} (h : ¬ s.Closable) (cfg : Settings)
    (d : Directory) : ∃ before k behind, s.handlers = before ++ k :: behind ∧
      (∀ j ∈ before, j.holds = false) ∧ k.holds = true ∧
      configure cfg s d = (.error .noRoom, { s with handlers := behind }, d) := by
  unfold configure
  rcases closeAll_cases s.handlers with ⟨hall, -⟩ | ⟨before, k, behind, hs, hbefore, hk, hclose⟩
  · exact absurd hall h
  · exact ⟨before, k, behind, hs, hbefore, hk, by rw [hclose]⟩

/-- the want of room is no fault of the settings -/
theorem install_ne_noRoom (cfg : Settings) (s : LoggerState) (d : Directory) :
    (install cfg s d).1 ≠ .error .noRoom := by
  have hsink : sinkOf d cfg.file ≠ .error .noRoom := by
    unfold sinkOf
    split
    · exact nofun
    · split
      · split <;> exact nofun
      · exact nofun
  have htemplate : templateOf cfg.template ≠ .error .noRoom := by
    unfold templateOf
    split
    · exact nofun
    · split
      · split <;> exact nofun
      · exact nofun
  unfold install
  cases hs : sinkOf d cfg.file with
  | error e =>
    rintro ⟨⟩
    exact hsink hs
  | ok sink =>
    dsimp only
    cases ht : templateOf cfg.template with
    | error e =>
      rintro ⟨⟩
      exact htemplate ht
    | ok template =>
      dsimp only
      cases Level.ofValue cfg.level <;> exact nofun

/-- A set-up goes through if the old handlers can be closed, and file, template and level are in
order.  What the logger was before counts for nothing else. -/
theorem configure_ok {cfg : Settings} {s s' : LoggerState} {d d' : Directory}
    (h : configure cfg s d = (.ok (), s', d')) :
    s.Closable ∧
    ∃ sink template level, sinkOf d cfg.file = .ok sink ∧ templateOf cfg.template = .ok template ∧
      Level.ofValue cfg.level = .ok level ∧ s' = ⟨level, false, [{ sink, template }]⟩ ∧
      d' = openSink d sink := by
  have hclosable : s.Closable := by
    refine Decidable.byContradiction fun hno => ?_
    obtain ⟨before, k, behind, -, -, -, hconfigure⟩ := configure_of_not_closable hno cfg d
    rw [hconfigure] at h
    cases h
  rw [configure_of_closable hclosable] at h
  refine ⟨hclosable, ?_⟩
  unfold install at h
  split at h
  · cases h
  · next sink hsink =>
    dsimp only at h
    split at h
    · cases h
    · next template htemplate =>
      split at h
      · cases h
      · next level hlevel =>
        cases h
        exact ⟨sink, template, level, hsink, htemplate, hlevel, rfl, rfl⟩

end Log

theorem Console.configureLog_of_closable {c : Console} (h : c.logger.Closable)
    (cfg : Log.Settings) :
    c.configureLog cfg =
      let (result, logger, directory) := Log.install cfg c.logger c.directory
      (result, { c with logger, directory }) := by
  rw [configureLog, Log.configure_of_closable h]

/-- The set-up of a console whose handlers cannot all be closed takes some of them away, and that
is all. -/
theorem Console.configureLog_of_not_closable {c : Console} (h : ¬ c.logger.Closable)
    (cfg : Log.Settings) :
    ∃ handlers, c.configureLog cfg
      = (.error .noRoom, { c with logger := { c.logger with handlers } }) := by
  obtain ⟨before, k, behind, -, -, -, hconfigure⟩ :=
    Log.configure_of_not_closable h cfg c.directory
  exact ⟨behind, by rw [configureLog, hconfigure]⟩

theorem Console.configureLog_eq_noRoom_iff {c : Console} {cfg : Log.Settings} :
    (c.configureLog cfg).1 = .error .noRoom ↔ ¬ c.logger.Closable := by
  constructor
  · intro h hclosable
    rw [configureLog_of_closable hclosable] at h
    exact Log.install_ne_noRoom _ _ _ h
  · intro h
    obtain ⟨handlers, hlog⟩ := configureLog_of_not_closable h cfg
    rw [hlog]

/-- A set-up of the console changes its logger and its files alone. -/
theorem Console.configureLog_ok {c c' : Console} {cfg : Log.Settings}
    (h : c.configureLog cfg = (.ok (), c')) :
    ∃ sink template level, Log.Level.ofValue cfg.level = .ok level ∧
      c' = { c with
        logger := ⟨level, false, [{ sink, template }]⟩
        directory := Log.openSink c.directory sink } := by
  unfold configureLog at h
  rcases hset : Log.configure cfg c.logger c.directory with ⟨result, logger, directory⟩
  rw [hset] at h
  cases h
  obtain ⟨-, sink, template, level, -, -, hlevel, hlogger, hdirectory⟩ := Log.configure_ok hset
  exact ⟨sink, template, level, hlevel, by rw [hlogger, hdirectory]⟩

end ProxyInjector
