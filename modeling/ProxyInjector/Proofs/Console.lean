import ProxyInjector.Console

/-!
# What streams and records do to a console

* `Stream.put`       one write, and a flush if that succeeded; a reported line is one such text
                     (`report_eq`), and its fault that of the write, else that of the flush;
* `Console.emit_eq`  a record changes the journal, the error stream, files and what handlers hold,
                     and nothing else;
* `Console.emit_congr`        two places of the program to which all handlers are blind are the same
                             to a record below a warning;
* `Console.emit_of_silent`   while logging is not set up, so that every handler is one that writes
                     nowhere, or set up for warnings and above only, a record below changes nothing
                     but the journal.
-/

namespace ProxyInjector

/-! ## streams -/

namespace Stream

def writeFault? (s : Stream) : Option StreamError :=
  if s.writes ∈ s.faults.writes then some ⟨s.faults.message⟩ else none

def flushFault? (s : Stream) : Option StreamError :=
  if s.flushes ∈ s.faults.flushes then some ⟨s.faults.message⟩ else none

/-- the fault of a write and the flush behind it -/
def lineFault? (s : Stream) : Option StreamError := s.writeFault?.or s.flushFault?

/-- the stream after one write, and a flush if that succeeded -/
def put (s : Stream) (text : String) : Stream :=
  match s.write text with
  | (.error _, s) => s
  | (.ok (), s) => s.flush.2

theorem report_eq (s : Stream) (line : String) :
    s.report line = (s.lineFault?.elim (.ok ()) .error, s.put (line ++ "\n")) := by
  by_cases hw : s.writes ∈ s.faults.writes
  · simp [report, put, write, lineFault?, writeFault?, hw]
  · by_cases hf : s.flushes ∈ s.faults.flushes <;>
      simp [report, put, write, flush, lineFault?, writeFault?, flushFault?, hw, hf]

theorem put_of_lineFault?_eq_none {s : Stream} (h : s.lineFault? = none) (text : String) :
    s.put text
      = { s with text := s.text ++ text, writes := s.writes + 1, flushes := s.flushes + 1 } := by
  obtain ⟨hw, hf⟩ := Option.or_eq_none_iff.mp h
  have hwrites : s.writes ∉ s.faults.writes := fun hm => by simp [writeFault?, hm] at hw
  rw [put, write, if_neg hwrites]
  rfl

/-- what the stream takes of a text -/
def taken (s : Stream) (text : String) : String := if s.writes ∈ s.faults.writes then "" else text

theorem text_put (s : Stream) (text : String) : (s.put text).text = s.text ++ s.taken text := by
  by_cases hw : s.writes ∈ s.faults.writes
  · simp [put, write, taken, hw]
  · simp [put, write, flush, taken, hw]

theorem lineFault?_isSome_iff {s : Stream} :
    s.lineFault?.isSome ↔ s.writes ∈ s.faults.writes ∨ s.flushes ∈ s.faults.flushes := by
  rw [lineFault?, Option.isSome_or, Bool.or_eq_true, writeFault?, flushFault?]
  split <;> split <;> simp_all

theorem lineFault?_of_healthy {s : Stream} (h : s.Healthy) : s.lineFault? = none := by
  rw [← Option.not_isSome_iff_eq_none, lineFault?_isSome_iff, h.1, h.2]
  simp

end Stream

/-! ## handlers -/

namespace Log

/-- the handler with nothing in its hands -/
def Handler.bare (h : Handler) : Handler := { h with holds := false }

namespace LoggerState

variable (s : LoggerState) (d : Directory) (stamp : Stamp) (r : Record)

theorem level_heard : (s.heard d stamp r).level = s.level := by
  unfold heard
  split <;> rfl

/-- what handlers hold is all that a record changes about them -/
theorem map_bare_heard : (s.heard d stamp r).handlers.map Handler.bare
    = s.handlers.map Handler.bare := by
  unfold heard
  split
  · rw [List.map_map]
    refine List.map_congr_left fun h _ => ?_
    show (h.heard d (r.render? stamp h.template)).bare = h.bare
    unfold Handler.heard
    cases hsink : h.sink <;> simp [Handler.bare, hsink]
  · rfl

theorem length_heard : (s.heard d stamp r).handlers.length = s.handlers.length := by
  have h := congrArg List.length (s.map_bare_heard d stamp r)
  rwa [List.length_map, List.length_map] at h

end LoggerState

end Log

/-! ## records -/

/-- no handler writes anywhere -/
def Log.LoggerState.Mute (l : Log.LoggerState) : Prop := ∀ h ∈ l.handlers, h.sink = .nothing

/-- what the program itself notes below a warning does not get out -/
def Log.LoggerState.Silent (l : Log.LoggerState) : Prop :=
  l.Mute ∨ Log.Level.warning ≤ l.effective

/-- a record of the program's own that is no warning -/
def Log.Record.Quiet (r : Log.Record) : Prop := Log.isOwn r.logger = true ∧ r.level < Log.Level.warning

namespace Console

open Log

/-- a handler leaves nothing behind but text on the error stream and in files -/
theorem handle_eq (r : Record) (stamp : Stamp) (c : Console) (h : Handler) :
    ∃ err directory, handle r stamp c h = { c with err, directory } := by
  unfold handle
  split
  · exact ⟨c.err, c.directory, rfl⟩
  · exact ⟨_, c.directory, rfl⟩
  · next line _ =>
    cases h.sink with
    | nothing => exact ⟨c.err, c.directory, rfl⟩
    | stream =>
      unfold deliver
      dsimp only
      split
      · exact ⟨_, c.directory, rfl⟩
      · exact ⟨_, c.directory, rfl⟩
    | file l =>
      unfold deliver
      dsimp only
      split
      · exact ⟨_, c.directory, rfl⟩
      · exact ⟨c.err, _, rfl⟩

theorem foldl_handle_eq (r : Record) (stamp : Stamp) (hs : List Handler) (c : Console) :
    ∃ err directory, hs.foldl (handle r stamp) c = { c with err, directory } := by
  induction hs generalizing c with
  | nil => exact ⟨c.err, c.directory, rfl⟩
  | cons h hs ih =>
    obtain ⟨err, directory, he⟩ := handle_eq r stamp c h
    obtain ⟨err', directory', he'⟩ := ih (handle r stamp c h)
    refine ⟨err', directory', ?_⟩
    rw [List.foldl_cons, he', he]

/-- a record is kept in the journal, and whatever else it does is text on the error stream and in
files, and in the hands of handlers whose files have no room for it -/
theorem emit_eq (c : Console) (r : Record) (site : Site) :
    ∃ err directory, c.emit r site = { c with
      err, directory
      journal := c.journal ++ [r]
      logger := c.logger.heard c.directory (c.manner.stamp site r) r } := by
  obtain ⟨err, directory, h⟩ := foldl_handle_eq r (c.manner.stamp site r) (c.logger.route r)
    { c with journal := c.journal ++ [r] }
  refine ⟨err, directory, ?_⟩
  unfold emit
  dsimp only
  rw [h]

theorem out_emit (c : Console) (r : Record) (site : Site) : (c.emit r site).out = c.out := by
  obtain ⟨err, directory, h⟩ := c.emit_eq r site
  rw [h]

theorem logger_emit (c : Console) (r : Record) (site : Site) :
    (c.emit r site).logger = c.logger.heard c.directory (c.manner.stamp site r) r := by
  obtain ⟨err, directory, h⟩ := c.emit_eq r site
  rw [h]

theorem manner_emit (c : Console) (r : Record) (site : Site) :
    (c.emit r site).manner = c.manner := by
  obtain ⟨err, directory, h⟩ := c.emit_eq r site
  rw [h]

theorem journal_emit (c : Console) (r : Record) (site : Site) :
    (c.emit r site).journal = c.journal ++ [r] := by
  obtain ⟨err, directory, h⟩ := c.emit_eq r site
  rw [h]

/-- a quiet record reaches handlers of the logger only, and those only if it is let through -/
theorem of_mem_route {l : LoggerState} {r : Record} (hr : r.Quiet) {h : Handler}
    (hh : h ∈ l.route r) : l.accepts r.level = true ∧ h ∈ l.handlers := by
  have hlast : LoggerState.route.lastResort r = [] := if_neg (Int.not_le.mpr hr.2)
  unfold LoggerState.route at hh
  rw [if_pos hr.1, hlast] at hh
  split at hh
  · cases hh
  · next haccepts =>
    split at hh
    · cases hh
    · exact ⟨by simpa using haccepts, hh⟩

/-- For a handler that writes nowhere, or to which both stamps come to the same, it makes no
difference which of them a record carries. -/
theorem handle_congr {r : Record} {stamp stamp' : Stamp} {h : Handler}
    (heq : h.sink ≠ .nothing → r.render? stamp h.template = r.render? stamp' h.template)
    (c : Console) :
    handle r stamp c h = handle r stamp' c h ∧
      ∀ d, h.heard d (r.render? stamp h.template) = h.heard d (r.render? stamp' h.template) := by
  unfold handle Handler.heard
  cases hsink : h.sink with
  | nothing => exact ⟨rfl, fun _ => rfl⟩
  | stream | file _ =>
    rw [heq (by rw [hsink]; exact nofun)]
    exact ⟨rfl, fun _ => rfl⟩

/-- nor does it for the console, if that is so for all its handlers and the record is quiet -/
theorem emit_congr {c : Console} {r : Record} {site site' : Site} (hr : r.Quiet)
    (heq : ∀ h ∈ c.logger.handlers, h.sink ≠ .nothing →
      r.render? (c.manner.stamp site r) h.template = r.render? (c.manner.stamp site' r) h.template) :
    c.emit r site = c.emit r site' := by
  have hfold (hs : List Handler) (hmem : ∀ h ∈ hs, h ∈ c.logger.handlers) (b : Console) :
      hs.foldl (handle r (c.manner.stamp site r)) b
        = hs.foldl (handle r (c.manner.stamp site' r)) b := by
    induction hs generalizing b with
    | nil => rfl
    | cons h hs ih =>
      obtain ⟨hh, hhs⟩ := List.forall_mem_cons.mp hmem
      rw [List.foldl_cons, List.foldl_cons, (handle_congr (heq h hh) b).1, ih hhs]
  have hheard : c.logger.heard c.directory (c.manner.stamp site r) r
      = c.logger.heard c.directory (c.manner.stamp site' r) r := by
    have hmap := List.map_congr_left fun h hh => (handle_congr (heq h hh) c).2 c.directory
    unfold LoggerState.heard
    rw [hmap]
  unfold emit
  dsimp only
  rw [hfold _ fun h hh => (of_mem_route hr hh).2, hheard]

theorem foldl_handle_nothing (r : Record) (stamp : Stamp) {hs : List Handler}
    (h : ∀ k ∈ hs, k.sink = .nothing) (c : Console) : hs.foldl (handle r stamp) c = c := by
  induction hs with
  | nil => rfl
  | cons k hs ih =>
    have hk : handle r stamp c k = c := by
      unfold handle
      rw [h k List.mem_cons_self]
    rw [List.foldl_cons, hk]
    exact ih (fun k' hk' => h k' (List.mem_cons_of_mem _ hk'))

/-- a logger for warnings turns a quiet record away -/
theorem accepts_of_quiet {l : LoggerState} (h : Level.warning ≤ l.effective) {r : Record}
    (hr : r.Quiet) : l.accepts r.level = false := by
  rw [LoggerState.accepts, Bool.and_eq_false_iff]
  refine .inr (decide_eq_false fun hreaches => ?_)
  exact absurd (Int.le_trans h hreaches) (Int.not_le.mpr hr.2)

/-- no handler that a quiet record reaches on its way out of a silent logger writes anywhere -/
theorem sink_of_silent {l : LoggerState} (hl : l.Silent) {r : Record} (hr : r.Quiet) :
    ∀ h ∈ l.route r, h.sink = .nothing := by
  intro h hh
  obtain ⟨haccepts, hmem⟩ := of_mem_route hr hh
  rcases hl with hmute | hlevel
  · exact hmute h hmem
  · rw [accepts_of_quiet hlevel hr] at haccepts
    cases haccepts

/-- nor has any handler anything to hold on to -/
theorem heard_of_silent {l : LoggerState} (hl : l.Silent) {r : Record} (hr : r.Quiet)
    (d : Directory) (stamp : Stamp) : l.heard d stamp r = l := by
  unfold LoggerState.heard
  split
  · next haccepts =>
    rcases hl with hmute | hlevel
    · have hsame : ∀ h ∈ l.handlers, h.heard d (r.render? stamp h.template) = id h := by
        intro h hh
        unfold Handler.heard
        rw [hmute h hh]
        rfl
      rw [List.map_congr_left hsame, List.map_id]
    · rw [accepts_of_quiet hlevel hr, Bool.and_false] at haccepts
      cases haccepts
  · rfl

/-- a silent logger keeps a quiet record to itself -/
theorem emit_of_silent {c : Console} (hl : c.logger.Silent) {r : Record} (hr : r.Quiet)
    (site : Site) : c.emit r site = { c with journal := c.journal ++ [r] } := by
  unfold emit
  dsimp only
  rw [foldl_handle_nothing r _ (sink_of_silent hl hr), heard_of_silent hl hr]

end Console

end ProxyInjector
