import ProxyInjector.Proofs.Injection.Outcome

/-!
# Consoles behind a past

What a console has printed and recorded is only ever added to.  A console behind a past is the same
console with more of both in front, and whatever is done with it comes to the same.

* `Console.behind`          a console with a past, and possibly with another logger;
* `Console.emit_behind`     a record comes to the same, if the logger is the same;
* `Session.apply_behind`    so does an injection.
-/

namespace ProxyInjector

/-! ## streams -/

namespace Stream

/-- the stream with more text in front -/
def behind (s : Stream) (past : String) : Stream := { s with text := past ++ s.text }

theorem write_behind (s : Stream) (past t : String) :
    (s.behind past).write t = ((s.write t).1, (s.write t).2.behind past) := by
  by_cases h : s.writes ∈ s.faults.writes
  · simp [write, behind, h]
  · simp [write, behind, h, String.append_assoc]

theorem print_behind (s : Stream) (past t : String) (lenient : Bool) :
    (s.behind past).print lenient t = ((s.print lenient t).1, (s.print lenient t).2.behind past) := by
  unfold print
  rw [write_behind]
  rcases s.write t with ⟨_ | _, s⟩ <;> rfl

theorem put_behind (s : Stream) (past t : String) :
    (s.behind past).put t = (s.put t).behind past := by
  unfold put
  rw [write_behind]
  rcases s.write t with ⟨_ | _, s⟩ <;> rfl

end Stream

/-! ## consoles -/

/-- what has been printed and recorded before -/
structure Past where
  out : String := ""
  err : String := ""
  journal : List Log.Record := []

namespace Console

/-- the console with more in front, and with that logger -/
def behind (c : Console) (past : Past) (logger : Log.LoggerState) : Console :=
  { c with
    out := c.out.behind past.out
    err := c.err.behind past.err
    logger
    journal := past.journal ++ c.journal }

variable (c : Console) (past : Past) (l : Log.LoggerState)

theorem writeAll_behind (s : Stream) (past : String) (ts : List String) :
    writeAll (s.behind past) ts = (writeAll s ts).behind past := by
  induction ts generalizing s with
  | nil => rfl
  | cons t ts ih =>
    unfold writeAll
    rw [Stream.write_behind]
    rcases s.write t with ⟨_ | _, s⟩
    · rfl
    · exact ih s

theorem noteLoss_behind (loss : Log.Loss) (r : Log.Record) :
    (c.behind past l).noteLoss loss r = (c.noteLoss loss r).behind past l := by
  have hwrites : writeAll (c.behind past l).err (c.manner.notice loss r) = _ :=
    writeAll_behind c.err past.err (c.manner.notice loss r)
  show { c.behind past l with err := writeAll (c.behind past l).err (c.manner.notice loss r) } = _
  rw [hwrites]
  rfl

theorem deliver_behind (r : Log.Record) (line : String) (sink : Log.Sink) :
    (c.behind past l).deliver r line sink = (c.deliver r line sink).behind past l := by
  cases sink with
  | nothing => rfl
  | file location =>
    have hrefuses : (c.behind past l).directory.refuses location = c.directory.refuses location :=
      rfl
    unfold deliver
    dsimp only
    rw [hrefuses]
    split
    · exact c.noteLoss_behind past l .unwritten r
    · rfl
  | stream =>
    have hput : (c.behind past l).err.put (line ++ "\n")
        = (c.err.put (line ++ "\n")).behind past.err :=
      Stream.put_behind c.err past.err _
    have hfault : (c.behind past l).err.lineFault? = c.err.lineFault? := rfl
    unfold deliver
    dsimp only
    rw [Stream.report_eq, Stream.report_eq, hput, hfault]
    cases c.err.lineFault? with
    | none => rfl
    | some e =>
      exact noteLoss_behind { c with err := c.err.put (line ++ "\n") } past l .unwritten r

theorem handle_behind (r : Log.Record) (stamp : Log.Stamp) (h : Log.Handler) :
    handle r stamp (c.behind past l) h = (handle r stamp c h).behind past l := by
  unfold handle
  split
  · rfl
  · exact noteLoss_behind ..
  · exact deliver_behind ..

theorem emit_behind (r : Log.Record) (site : Log.Site) :
    (c.behind past c.logger).emit r site
      = (c.emit r site).behind past (c.emit r site).logger := by
  have hfold (stamp : Log.Stamp) (hs : List Log.Handler) (d : Console) :
      hs.foldl (handle r stamp) (d.behind past c.logger)
        = (hs.foldl (handle r stamp) d).behind past c.logger := by
    induction hs generalizing d with
    | nil => rfl
    | cons h hs ih => rw [List.foldl_cons, handle_behind, ih, List.foldl_cons]
  have hjournal : { c.behind past c.logger with
      journal := (c.behind past c.logger).journal ++ [r] }
      = { c with journal := c.journal ++ [r] }.behind past c.logger := by
    unfold behind
    dsimp only
    rw [List.append_assoc]
  show { (c.logger.route r).foldl (handle r (c.manner.stamp site r)) { c.behind past c.logger with
    journal := (c.behind past c.logger).journal ++ [r] } with
      logger := c.logger.heard c.directory (c.manner.stamp site r) r } = _
  rw [hjournal, hfold]
  rfl

end Console

/-! ## sessions -/

namespace Session

open Injection

def behind (s : Session) (past : Past) : Session :=
  { s with console := s.console.behind past s.console.logger }

variable (s : Session) (past : Past)

theorem emit_behind (r : Log.Record) : (s.behind past).emit r = (s.emit r).behind past := by
  unfold emit behind
  rw [Console.emit_behind]

theorem set_behind (e : String × String) :
    (s.behind past).set (.text e.1) (.text e.2)
      = ((s.set (.text e.1) (.text e.2)).1, (s.set (.text e.1) (.text e.2)).2.behind past) := by
  have hfault : (s.behind past).faultAt? (s.behind past).writes e = s.faultAt? s.writes e := rfl
  cases h : s.faultAt? s.writes e with
  | some f =>
    rw [set_of_fault (hfault.trans h), set_of_fault h]
    rfl
  | none =>
    have hemit : (s.behind past).console.emit (Store.writeRecord (.text e.1) (.text e.2))
        (s.behind past).store.site = _ := s.console.emit_behind past _ s.store.site
    rw [set_of_clear (hfault.trans h), set_of_clear h, hemit]
    rfl

theorem setAll_behind (es : List (String × String)) :
    (s.behind past).setAll es = ((s.setAll es).1, (s.setAll es).2.behind past) := by
  induction es generalizing s with
  | nil => rfl
  | cons e es ih =>
    unfold setAll
    rw [set_behind]
    rcases s.set (.text e.1) (.text e.2) with ⟨_ | _, t⟩
    · rfl
    · exact ih t

theorem report_behind (line : String) :
    (s.behind past).report line = ((s.report line).1, (s.report line).2.behind past) := by
  have hput : (s.behind past).console.out.put (line ++ "\n") = _ :=
    Stream.put_behind s.console.out past.out _
  rw [report_eq, report_eq, hput]
  rfl

theorem reportTrouble_behind (line : String) :
    (s.behind past).reportTrouble line
      = ((s.reportTrouble line).1, (s.reportTrouble line).2.behind past) := by
  have hput : (s.behind past).console.err.put (line ++ "\n") = _ :=
    Stream.put_behind s.console.err past.err _
  rw [reportTrouble_eq, reportTrouble_eq, hput]
  rfl

theorem inject_behind (raw : Value) :
    (s.behind past).inject raw = ((s.inject raw).1, (s.inject raw).2.behind past) := by
  unfold inject
  split
  · rw [emit_behind]
  · split
    · rw [emit_behind]
    · next d _ =>
      unfold injectDescriptor
      rw [setAll_behind]
      rcases s.setAll d.entries with ⟨_ | _, t⟩
      · dsimp only
        rw [emit_behind]
      · dsimp only
        rw [emit_behind]

theorem reportFailure_behind (reason : Value) :
    (s.behind past).reportFailure reason = (s.reportFailure reason).behind past := by
  unfold reportFailure
  rw [reportTrouble_behind]
  rcases s.reportTrouble (failureLine reason) with ⟨_ | _, t⟩
  · exact emit_behind ..
  · rfl

/-- an injection comes to the same behind any past -/
theorem apply_behind (raw : Value) :
    (s.behind past).apply raw = ((s.apply raw).1, (s.apply raw).2.behind past) := by
  unfold apply
  rw [inject_behind]
  rcases s.inject raw with ⟨_ | d | _, t⟩
  · rfl
  · dsimp only
    rw [report_behind]
    rcases t.report (successLine d) with ⟨_ | _, u⟩
    · dsimp only
      rw [emit_behind, reportFailure_behind]
    · rfl
  · dsimp only
    rw [reportFailure_behind]

end Session

end ProxyInjector
