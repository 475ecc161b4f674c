import ProxyInjector.Proofs.Console
import ProxyInjector.Proofs.Log.Setup

/-!
# The logger over a run

A run sets logging up any number of times, and emits records in between.

* `Console.act`, `Console.after`   one act, and the console after a row of them;
* `Console.after_keeps`            what set-ups and records keep, a run keeps;
* `Log.Asked`                      the handler that settings ask for: one for the file that is
                                   named, or one for the error stream;
* `Log.Level.Named`                the level whose name starts as a text in upper case does;
* `Log.SetUp`                      the ways a set-up can end, each with the logger it leaves;
* `Console.setUp_after`            after any run there is one handler at most, and a set-up ends in
                                   one of these ways.
-/

namespace ProxyInjector

namespace Log

/-! ## levels -/

namespace Level

/-- the level whose name starts with the first character of the text in upper case -/
def Named (v : Value) (l : Level) : Prop :=
  ∃ text, v = .text text ∧ l ∈ [debug, info, warning, error, critical] ∧
    (name l).toList.head? = (Text.upper text).toList.head?

theorem ofLetter?_eq_some_iff (c : Char) (l : Level) :
    ofLetter? c = some l ↔
      l ∈ [debug, info, warning, error, critical] ∧ (name l).toList.head? = some c := by
  constructor
  · intro h
    unfold ofLetter? at h
    split at h <;> cases h <;> decide
  · rintro ⟨hl, hc⟩
    simp only [List.mem_cons, List.not_mem_nil, or_false] at hl
    rcases hl with rfl | rfl | rfl | rfl | rfl <;> (cases hc; rfl)

theorem head?_upper (text : String) :
    (Text.upper text).toList.head? = text.toList.head?.map Text.capital := by
  rw [Text.upper, String.toList_ofList]
  cases text.toList with
  | nil => rfl
  | cons c cs => rfl

theorem ofText_eq_ok_iff (text : String) (l : Level) :
    ofText text = .ok l ↔
      ∃ c, text.toList.head? = some c ∧ ofLetter? (Text.capital c) = some l := by
  unfold ofText
  cases text.toList with
  | nil => simp
  | cons c cs => cases hc : ofLetter? (Text.capital c) <;> simp [hc]

theorem ofValue_eq_ok_iff (v : Value) (l : Level) : ofValue v = .ok l ↔ Named v l := by
  cases v with
  | text text =>
    show ofText text = .ok l ↔ _
    rw [ofText_eq_ok_iff]
    constructor
    · rintro ⟨c, hc, hl⟩
      obtain ⟨hmem, hname⟩ := (ofLetter?_eq_some_iff _ _).mp hl
      exact ⟨text, rfl, hmem, by rw [hname, head?_upper, hc]; rfl⟩
    · rintro ⟨_, htext, hmem, hname⟩
      cases htext
      rw [head?_upper] at hname
      cases hc : text.toList.head? with
      | none =>
        rw [hc, Option.map_none] at hname
        simp only [List.mem_cons, List.not_mem_nil, or_false] at hmem
        rcases hmem with rfl | rfl | rfl | rfl | rfl <;> cases hname
      | some c =>
        rw [hc] at hname
        exact ⟨c, rfl, (ofLetter?_eq_some_iff _ _).mpr ⟨hmem, hname⟩⟩
  | _ =>
    constructor
    · intro h
      cases h
    · rintro ⟨_, h, -⟩
      cases h

end Level

/-! ## the handler that is asked for -/

/-- where the file setting sends lines: to the file at a path that is not empty, or, where there is
no path, to the error stream -/
inductive Goes (d : Directory) : Value → Sink → Prop
  | file {path : String} {l : Location} :
    path ≠ "" → d.locate path = .ok l → Goes d (.text path) (.file l)
  | stream {v : Value} : v.truthy = false → Goes d v .stream

/-- the template that its setting stands for -/
inductive Formats : Value → String → Prop
  | given {t : String} : t ≠ "" → LineTemplate.valid t.toList = true → Formats (.text t) t
  | bare {v : Value} : v.truthy = false → Formats v bareTemplate

structure Asked (cfg : Settings) (d : Directory) (h : Handler) : Prop where
  sink : Goes d cfg.file h.sink
  template : Formats cfg.template h.template
  holds : h.holds = false

theorem truthy_text (s : String) : (Value.text s).truthy = true ↔ s ≠ "" := bne_iff_ne

theorem sinkOf_eq_ok_iff (d : Directory) (v : Value) (sink : Sink) :
    sinkOf d v = .ok sink ↔ Goes d v sink := by
  constructor
  · intro h
    unfold sinkOf at h
    split at h
    · next hfalse =>
      cases h
      exact .stream (by simpa using hfalse)
    · next htrue =>
      split at h
      · next path =>
        split at h
        · next l hl =>
          cases h
          exact .file ((truthy_text path).mp (by simpa using htrue)) hl
        · cases h
      · cases h
  · intro h
    cases h with
    | file hpath hl => rw [sinkOf, (truthy_text _).mpr hpath]; simp [hl]
    | stream hfalse =>
      unfold sinkOf
      rw [hfalse]
      rfl

theorem templateOf_eq_ok_iff (v : Value) (t : String) : templateOf v = .ok t ↔ Formats v t := by
  constructor
  · intro h
    unfold templateOf at h
    split at h
    · next hfalse =>
      cases h
      exact .bare (by simpa using hfalse)
    · next htrue =>
      split at h
      · next text =>
        split at h
        · next hvalid =>
          cases h
          exact .given ((truthy_text t).mp (by simpa using htrue)) hvalid
        · cases h
      · cases h
  · intro h
    cases h with
    | given htext hvalid => rw [templateOf, (truthy_text _).mpr htext]; simp [hvalid]
    | bare hfalse =>
      unfold templateOf
      rw [hfalse]
      rfl

/-- what is read exactly where `P` holds cannot hold where nothing is read -/
theorem not_of_error {ε α : Type} {x : Except ε α} {P : α → Prop} (hiff : ∀ a, x = .ok a ↔ P a)
    {e : ε} (h : x = .error e) (a : α) : ¬ P a := by
  rw [← hiff, h]
  exact nofun

/-! ## the ways a set-up ends -/

/-- the end of a set-up, and the logger behind it -/
inductive SetUp (cfg : Settings) (d : Directory) (s : LoggerState) :
    Except LogError Unit → LoggerState → Prop
  | done {h : Handler} {l : Level} : s.Closable → Asked cfg d h → Level.Named cfg.level l →
    SetUp cfg d s (.ok ()) ⟨l, false, [h]⟩
  /-- the level alone is not known: the handler is there, the rest as it was -/
  | unlevelled {h : Handler} {e : LogError} : s.Closable → Asked cfg d h →
    (∀ l, ¬ Level.Named cfg.level l) → SetUp cfg d s (.error e) { s with handlers := [h] }
  /-- the file cannot be opened, or the template asks for nothing -/
  | unhandled {e : LogError} : s.Closable →
    (∀ sink, ¬ Goes d cfg.file sink) ∨ (∀ t, ¬ Formats cfg.template t) →
    SetUp cfg d s (.error e) { s with handlers := [] }
  /-- the handler there was cannot be closed: it is gone, the rest as it was -/
  | unclosed {h : Handler} : s.handlers = [h] → h.holds = true →
    SetUp cfg d s (.error .noRoom) { s with handlers := [] }

theorem setUp_install (cfg : Settings) {s : LoggerState} (hs : s.Closable) (d : Directory) :
    SetUp cfg d s (install cfg s d).1 (install cfg s d).2.1 := by
  unfold install
  cases hsink : sinkOf d cfg.file with
  | error e => exact .unhandled hs (.inl (not_of_error (sinkOf_eq_ok_iff d cfg.file) hsink))
  | ok sink =>
    have hgoes := (sinkOf_eq_ok_iff _ _ _).mp hsink
    dsimp only
    cases htemplate : templateOf cfg.template with
    | error e =>
      exact .unhandled hs (.inr (not_of_error (templateOf_eq_ok_iff cfg.template) htemplate))
    | ok t =>
      have hformats := (templateOf_eq_ok_iff _ _).mp htemplate
      dsimp only
      cases hlevel : Level.ofValue cfg.level with
      | error e =>
        exact .unlevelled hs ⟨hgoes, hformats, rfl⟩
          (not_of_error (Level.ofValue_eq_ok_iff cfg.level) hlevel)
      | ok l => exact .done hs ⟨hgoes, hformats, rfl⟩ ((Level.ofValue_eq_ok_iff _ _).mp hlevel)

theorem setUp_configure (cfg : Settings) {s : LoggerState} (hs : s.handlers.length ≤ 1)
    (d : Directory) : SetUp cfg d s (configure cfg s d).1 (configure cfg s d).2.1 := by
  by_cases hclosable : s.Closable
  · rw [configure_of_closable hclosable]
    exact setUp_install cfg hclosable d
  · obtain ⟨before, h, behind, hhandlers, -, hh, hconfigure⟩ :=
      configure_of_not_closable hclosable cfg d
    -- it is the only one there was
    rw [hhandlers, List.length_append, List.length_cons] at hs
    obtain rfl : before = [] := List.eq_nil_of_length_eq_zero (by omega)
    obtain rfl : behind = [] := List.eq_nil_of_length_eq_zero (by omega)
    rw [hconfigure]
    exact .unclosed hhandlers hh

theorem SetUp.length_handlers {cfg : Settings} {d : Directory} {s s' : LoggerState}
    {result : Except LogError Unit} (h : SetUp cfg d s result s') : s'.handlers.length ≤ 1 := by
  cases h with
  | done | unlevelled => exact Nat.le_refl 1
  | unhandled | unclosed => exact Nat.zero_le 1

/-! ## runs -/

/-- what is done about logging -/
inductive Act where
  | setUp (cfg : Settings)
  /-- a host program emits a record on a logger of its choice -/
  | log (logger level message : Value)
  | emit (r : Record) (site : Site)

end Log

namespace Console

open Log

def act (c : Console) : Act → Console
  | .setUp cfg => (c.configureLog cfg).2
  | .log logger level message => (c.log logger level message).2
  | .emit r site => c.emit r site

def after (c : Console) (acts : List Act) : Console := acts.foldl act c

theorem log_eq (c : Console) (logger level message : Value) :
    (c.log logger level message).2 = c ∨ ∃ r, (c.log logger level message).2 = c.emit r := by
  unfold log
  split
  · exact .inl rfl
  · exact .inl rfl
  · exact .inr ⟨_, rfl⟩

/-- what every set-up and every record keeps, a run keeps -/
theorem after_keeps {P : Console → Prop} {acts : List Act}
    (hsetUp : ∀ c cfg, .setUp cfg ∈ acts → P c → P (c.configureLog cfg).2)
    (hemit : ∀ c r site, P c → P (c.emit r site)) {c : Console} (h : P c) : P (c.after acts) := by
  induction acts generalizing c with
  | nil => exact h
  | cons act acts ih =>
    have hact : P (c.act act) := by
      cases act with
      | setUp cfg => exact hsetUp c cfg List.mem_cons_self h
      | log logger level message =>
        show P (c.log logger level message).2
        rcases c.log_eq logger level message with hl | ⟨r, hl⟩
        · rwa [hl]
        · rw [hl]
          exact hemit c r _ h
      | emit r site => exact hemit c r site h
    exact ih (fun c cfg hcfg => hsetUp c cfg (List.mem_cons_of_mem _ hcfg)) hact

theorem setUp_configureLog {c : Console} (h : c.logger.handlers.length ≤ 1) (cfg : Settings) :
    SetUp cfg c.directory c.logger (c.configureLog cfg).1 (c.configureLog cfg).2.logger :=
  setUp_configure cfg h c.directory

/-- **Set-ups over a run.**  Whatever was set up and logged since the start, failed attempts
included, there is one handler at most, and a further set-up ends in one of four ways. -/
theorem setUp_after {c : Console} (h : c.logger = {}) (acts : List Act) :
    (c.after acts).logger.handlers.length ≤ 1 ∧ ∀ cfg,
      SetUp cfg (c.after acts).directory (c.after acts).logger
        ((c.after acts).configureLog cfg).1 ((c.after acts).configureLog cfg).2.logger := by
  have hsingle : (c.after acts).logger.handlers.length ≤ 1 := by
    refine after_keeps (P := fun c => c.logger.handlers.length ≤ 1) ?_ ?_ ?_
    · exact fun c cfg _ hc => (setUp_configureLog hc cfg).length_handlers
    · exact fun c r site hc => by rwa [logger_emit, LoggerState.length_heard]
    · rw [h]
      exact Nat.le_refl 1
  exact ⟨hsingle, setUp_configureLog hsingle⟩

/-- a directory near a file without room -/
def fresh : Console where
  directory := {
    path := "/tmp/w"
    outside := { files := [{ place := ["tmp".toList, "full".toList], intake := .refuses 4096 }] } }

/-- a level that is none, a directory in the place of a file, and a record for which there is no
room -/
def stumbles : List Act :=
  [.setUp { level := .text "x" }, .setUp { file := .text "/" }, .setUp { file := .text "../full" },
    .log (.text "agentproxy.cli") (.int 40) (.text "lost")]

def recovers : List Act := stumbles ++ [.setUp {}]

/-- the first character in upper case is two, of which the first is a plain W -/
def ringed : Settings := { file := .text "a.log", level := .text "ẘarn" }

/-- the first set-up behind the record fails for want of room, and the second goes through -/
theorem setUp_after_stumbles :
    fresh.logger = {} ∧
      SetUp {} (fresh.after stumbles).directory (fresh.after stumbles).logger (.error .noRoom)
        ⟨Level.warning, false, []⟩ ∧
      SetUp ringed (fresh.after recovers).directory (fresh.after recovers).logger (.ok ())
        ⟨Level.warning, false, [{ sink := .file (.here "a.log"), template := standardTemplate }]⟩ := by
  have hset (acts : List Act) (cfg : Settings) {result : Except LogError Unit} {s : LoggerState}
      (hresult : ((fresh.after acts).configureLog cfg).1 = result)
      (hs : ((fresh.after acts).configureLog cfg).2.logger = s) :
      SetUp cfg (fresh.after acts).directory (fresh.after acts).logger result s := by
    subst hresult hs
    exact (setUp_after (c := fresh) rfl acts).2 cfg
  refine ⟨rfl, hset stumbles {} ?_ (by decide +kernel), hset recovers ringed ?_ (by decide +kernel)⟩
  · have hholds : ¬ (fresh.after stumbles).logger.Closable := by decide +kernel
    obtain ⟨handlers, hlog⟩ := configureLog_of_not_closable hholds {}
    rw [hlog]
  · have hgoes : ((fresh.after recovers).configureLog ringed).1.isOk := by decide +kernel
    cases h : ((fresh.after recovers).configureLog ringed).1 with
    | error e =>
      rw [h] at hgoes
      cases hgoes
    | ok _ => rfl

end Console

end ProxyInjector
