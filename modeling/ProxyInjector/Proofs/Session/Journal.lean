import ProxyInjector.Proofs.Session.Calls
import ProxyInjector.Proofs.Text.Segments

/-!
# The journal of a session

A call may fail, and whether it does is told by the session that it is made in.

* `Session.observe`       what can be seen of calls, each together with its fault, while they are
                          made one after the other;
* `Session.records`       the records that they leave.  These are what is added to the journal
                          (`journal_calls`);
* `Log.Record.write?`     a record of the store, read back as the write that it tells of;
* `Table.replay`          those writes on a table.  It ends with the entries of the store, whatever
                          the faults were (`entries_calls`), if the calls are legible: no key has
                          an equals sign, and only the store speaks in its own name.
-/

namespace ProxyInjector

/-- what went wrong, if something did -/
def Fault.of? : Except Fault Unit → Option Fault
  | .error f => some f
  | .ok () => none

namespace Call

/-! ## views of a call with its fault -/

/-- the record that is left -/
@[simp]
def record? : Call → Option Fault → Option Log.Record
  | .set e, none => some (Store.writeRecord (.text e.1) (.text e.2))
  | .note r, _ => some r
  | _, _ => none

/-- the entry that is written -/
@[simp]
def written? : Call → Option Fault → Option (String × String)
  | .set e, none => some e
  | _, _ => none

/-- why a line is not on the output stream -/
@[simp]
def unsaid? : Call → Option Fault → Option Fault
  | .say _, f => f
  | _, _ => none

/-- why a line is not on the error stream -/
@[simp]
def unheard? : Call → Option Fault → Option Fault
  | .complain _, f => f
  | _, _ => none

end Call

namespace Session

/-- what goes wrong if the call is made now -/
def faultOf? (s : Session) : Call → Option Fault
  | .set e => Fault.of? (s.set (.text e.1) (.text e.2)).1
  | .say line => Fault.of? (s.report line).1
  | .complain line => Fault.of? (s.reportTrouble line).1
  | .note _ => none

theorem faultOf?_set (s : Session) (e : String × String) :
    s.faultOf? (.set e) = s.faultAt? s.writes e := by
  cases h : s.faultAt? s.writes e with
  | some f => rw [faultOf?, set_of_fault h]; rfl
  | none => rw [faultOf?, set_of_clear h]; rfl

theorem faultOf?_complain (s : Session) (line : String) :
    s.faultOf? (.complain line) = s.console.err.lineFault?.map .stream := by
  rw [faultOf?, reportTrouble_eq]
  cases s.console.err.lineFault? <;> rfl

@[simp] theorem faultOf?_note (s : Session) (r : Log.Record) : s.faultOf? (.note r) = none := rfl

/-! ## calls seen through a view -/

section
variable {α : Type} (view : Call → Option Fault → Option α)

/-- what the view shows of the calls, made one after the other -/
def observe (s : Session) : List Call → List α
  | [] => []
  | c :: cs => (view c (s.faultOf? c)).toList ++ (s.call c).observe cs

theorem observe_cons (s : Session) (c : Call) (cs : List Call) :
    s.observe view (c :: cs) = (view c (s.faultOf? c)).toList ++ (s.call c).observe view cs := rfl

theorem observe_append (s : Session) (cs ds : List Call) :
    s.observe view (cs ++ ds) = s.observe view cs ++ (s.calls cs).observe view ds := by
  induction cs generalizing s with
  | nil => rfl
  | cons c cs ih =>
    rw [List.cons_append, observe_cons, ih, observe_cons, calls_cons, List.append_assoc]

/-- a view that takes no notice of certain calls shows no more than there are of the others -/
theorem length_observe_le {β : Type} {of? : Call → Option β}
    (h : ∀ c f, (view c f).isSome → (of? c).isSome) (s : Session) (cs : List Call) :
    (s.observe view cs).length ≤ (cs.filterMap of?).length := by
  induction cs generalizing s with
  | nil => exact Nat.le_refl 0
  | cons c cs ih =>
    have hrest := ih (s.call c)
    have hfirst := h c (s.faultOf? c)
    rw [observe_cons, List.length_append, List.filterMap_cons]
    cases hof : of? c with
    | some b =>
      have hone := Option.length_toList_le (o := view c (s.faultOf? c))
      simp only [List.length_cons]
      omega
    | none =>
      have hview : view c (s.faultOf? c) = none := by
        rw [hof] at hfirst
        simpa using hfirst
      rw [hview]
      simpa using hrest

end

/-! ## the journal -/

/-- the records of the calls -/
def records (s : Session) (cs : List Call) : List Log.Record := s.observe Call.record? cs

theorem journal_call (s : Session) (c : Call) :
    (s.call c).console.journal = s.console.journal ++ (c.record? (s.faultOf? c)).toList := by
  cases c with
  | set e =>
    rw [faultOf?_set]
    cases h : s.faultAt? s.writes e with
    | some f => rw [call_set_of_fault h]; exact (List.append_nil _).symm
    | none => rw [call_set_of_clear h]; exact Console.journal_emit _ _ _
  | say line => rw [call, report_eq]; exact (List.append_nil _).symm
  | complain line => rw [call, reportTrouble_eq]; exact (List.append_nil _).symm
  | note r => exact Console.journal_emit _ _ _

theorem journal_calls (s : Session) (cs : List Call) :
    (s.calls cs).console.journal = s.console.journal ++ s.records cs := by
  induction cs generalizing s with
  | nil => exact (List.append_nil _).symm
  | cons c cs ih =>
    rw [calls_cons, ih, journal_call, List.append_assoc]
    rfl

end Session

/-! ## the journal read back -/

/-- the write that a record of the store tells of; its key ends in front of the first equals sign -/
def Log.Record.write? (r : Log.Record) : Option (String × String) :=
  if r.logger = "agentproxy.store" then
    (Text.cut? '=' r.message.toList).map fun p => (String.ofList p.1, String.ofList p.2)
  else none

/-- the table after the writes that the records tell of -/
def Table.replay (t : Table) (rs : List Log.Record) : Table :=
  Table.overlay t (rs.filterMap Log.Record.write?)

theorem Table.replay_append (t : Table) (rs qs : List Log.Record) :
    replay t (rs ++ qs) = replay (replay t rs) qs := by
  rw [replay, List.filterMap_append, overlay_append]
  rfl

theorem Store.write?_writeRecord {e : String × String} (h : '=' ∉ e.1.toList) :
    (writeRecord (.text e.1) (.text e.2)).write? = some e := by
  have hlogger : (writeRecord (.text e.1) (.text e.2)).logger = "agentproxy.store" := rfl
  have hmessage : (writeRecord (.text e.1) (.text e.2)).message.toList
      = e.1.toList ++ '=' :: e.2.toList := by
    rw [writeRecord, Value.shown_text, Value.shown_text, String.toList_append,
      String.toList_append, List.append_assoc]
    rfl
  rw [Log.Record.write?, if_pos hlogger, hmessage, Text.cut?_append_cons h]
  simp only [Option.map_some, String.ofList_toList]

/-- what the call leaves in the journal can be told from the records of other writes -/
def Call.Legible : Call → Prop
  | .set e => '=' ∉ e.1.toList
  | .note r => r.logger ≠ "agentproxy.store"
  | _ => True

namespace Session

theorem entries_call (s : Session) {c : Call} (hc : c.Legible) :
    (s.call c).store.entries
      = Table.replay s.store.entries (c.record? (s.faultOf? c)).toList := by
  cases c with
  | set e =>
    rw [faultOf?_set]
    cases h : s.faultAt? s.writes e with
    | some f => rw [call_set_of_fault h]; rfl
    | none =>
      rw [call_set_of_clear h, Store.entries_write, Call.record?, Option.toList_some, Table.replay,
        List.filterMap_cons_some (Store.write?_writeRecord hc)]
      rfl
  | say line => rw [call, report_eq]; rfl
  | complain line => rw [call, reportTrouble_eq]; rfl
  | note r =>
    have hr : r.write? = none := if_neg hc
    rw [Call.record?, Option.toList_some, Table.replay, List.filterMap_cons_none hr]
    rfl

/-- **The journal tells what became of the store.** -/
theorem entries_calls (s : Session) {cs : List Call} (hcs : ∀ c ∈ cs, c.Legible) :
    (s.calls cs).store.entries = Table.replay s.store.entries (s.records cs) := by
  induction cs generalizing s with
  | nil => rfl
  | cons c cs ih =>
    obtain ⟨hc, hcs⟩ := List.forall_mem_cons.mp hcs
    rw [calls_cons, ih _ hcs, entries_call s hc, ← Table.replay_append]
    rfl

end Session

end ProxyInjector
