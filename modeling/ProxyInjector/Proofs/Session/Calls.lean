import ProxyInjector.Proofs.Console
import ProxyInjector.Proofs.Store.Overlay
import ProxyInjector.Session

/-!
# What a session is asked to do

An operation on a session comes down to calls, one after the other: an entry is set in the store,
a line is written to a stream, a record is emitted.  `Session.calls` makes them and goes on where
one fails, so that the session an operation leaves can be given by the calls it made.

* `Session.faultAt?`   the fault of a write, if that is the `n`-th of the session.  It depends on
                       the schedule, on the kind of the store and on whether that is frozen, so
                       that it is the same throughout a list of calls (`faultAt?_calls`);
* `Session.calls_eq`   beside the store, the console and the number of writes, calls change nothing;
                       of the console they keep what records and writes to the streams keep
                       (`calls_keeps`);
* `Session.Cut`        entries cut in front of the first whose write fails;
* `Call.sets`, `Call.said`, `Call.complaints`   what a list of calls attempts on the store and on
                       the two streams.  `writes_calls` and `out_calls` find it again in the
                       session afterwards, and so does `console_calls` for the whole console where
                       the logger is silent.
-/

namespace ProxyInjector

inductive Call where
  /-- an entry is set in the store -/
  | set (entry : String × String)
  /-- a line is written to the output stream -/
  | say (line : String)
  /-- a line is written to the error stream -/
  | complain (line : String)
  | note (r : Log.Record)

namespace Call

@[simp]
def entry? : Call → Option (String × String)
  | .set e => some e
  | _ => none

/-- the text that is written to the output stream -/
@[simp]
def said? : Call → Option String
  | .say line => some (line ++ "\n")
  | _ => none

/-- the text that is written to the error stream, that of the log aside -/
@[simp]
def complaint? : Call → Option String
  | .complain line => some (line ++ "\n")
  | _ => none

/-- the entries that the store is asked to take -/
def sets (cs : List Call) : List (String × String) := cs.filterMap entry?
def said (cs : List Call) : List String := cs.filterMap said?
def complaints (cs : List Call) : List String := cs.filterMap complaint?

/-- the call emits no record that would be heard of without logging being set up -/
def Quiet : Call → Prop
  | .note r => r.Quiet
  | _ => True

section
variable {α : Type} (f : Call → Option α)

/-- calls that a view does not show -/
theorem filterMap_map_none {β : Type} (g : β → Call) (h : ∀ b, f (g b) = none) (bs : List β) :
    (bs.map g).filterMap f = [] := by
  rw [List.filterMap_map, List.filterMap_eq_nil_iff]
  exact fun b _ => h b

end

@[simp] theorem sets_nil : sets [] = [] := rfl
@[simp] theorem sets_cons (c : Call) (cs : List Call) :
    sets (c :: cs) = c.entry?.toList ++ sets cs := by
  cases c <;> rfl
@[simp] theorem sets_append (cs ds : List Call) : sets (cs ++ ds) = sets cs ++ sets ds :=
  List.filterMap_append
@[simp] theorem sets_map_set (es : List (String × String)) : sets (es.map .set) = es := by
  rw [sets, List.filterMap_map]
  exact List.filterMap_some
@[simp] theorem sets_map_note (rs : List Log.Record) : sets (rs.map .note) = [] :=
  filterMap_map_none _ _ (fun _ => rfl) rs

@[simp] theorem said_nil : said [] = [] := rfl
@[simp] theorem said_cons (c : Call) (cs : List Call) :
    said (c :: cs) = c.said?.toList ++ said cs := by
  cases c <;> rfl
@[simp] theorem said_append (cs ds : List Call) : said (cs ++ ds) = said cs ++ said ds :=
  List.filterMap_append
@[simp] theorem said_map_set (es : List (String × String)) : said (es.map .set) = [] :=
  filterMap_map_none _ _ (fun _ => rfl) es
@[simp] theorem said_map_note (rs : List Log.Record) : said (rs.map .note) = [] :=
  filterMap_map_none _ _ (fun _ => rfl) rs

@[simp] theorem complaints_nil : complaints [] = [] := rfl
@[simp] theorem complaints_cons (c : Call) (cs : List Call) :
    complaints (c :: cs) = c.complaint?.toList ++ complaints cs := by
  cases c <;> rfl
@[simp] theorem complaints_append (cs ds : List Call) :
    complaints (cs ++ ds) = complaints cs ++ complaints ds := List.filterMap_append
@[simp] theorem complaints_map_set (es : List (String × String)) : complaints (es.map .set) = [] :=
  filterMap_map_none _ _ (fun _ => rfl) es
@[simp] theorem complaints_map_note (rs : List Log.Record) : complaints (rs.map .note) = [] :=
  filterMap_map_none _ _ (fun _ => rfl) rs

end Call

namespace Session

def call (s : Session) : Call → Session
  | .set e => (s.set (.text e.1) (.text e.2)).2
  | .say line => (s.report line).2
  | .complain line => (s.reportTrouble line).2
  | .note r => s.emit r

def calls (s : Session) (cs : List Call) : Session := cs.foldl call s

theorem calls_nil (s : Session) : s.calls [] = s := rfl
theorem calls_cons (s : Session) (c : Call) (cs : List Call) :
    s.calls (c :: cs) = (s.call c).calls cs := rfl
theorem calls_append (s : Session) (cs ds : List Call) :
    s.calls (cs ++ ds) = (s.calls cs).calls ds := List.foldl_append

/-! ## faults of writes -/

/-- the fault scheduled for the `n`-th write; of two for one write the later counts -/
def scheduled? (s : Session) (n : Nat) : Option WriteFault := s.faults.reverse.find? (·.write == n)

/-- the fault of an entry's write, if that is the `n`-th of the session -/
def faultAt? (s : Session) (n : Nat) (e : String × String) : Option Fault :=
  match s.scheduled? n with
  | some f => some (s.store.hostFault (.text e.1) (.ofKind f.kind (.text e.1) f.message))
  | none => s.store.refusal? e

theorem set_of_fault {s : Session} {e : String × String} {f : Fault}
    (h : s.faultAt? s.writes e = some f) :
    s.set (.text e.1) (.text e.2) = (.error f, { s with writes := s.writes + 1 }) := by
  have hnext : s.nextFault? = s.scheduled? s.writes := rfl
  cases hg : s.scheduled? s.writes with
  | some g =>
    simp only [faultAt?, hg, Option.some.injEq] at h
    simp only [Session.set, hnext, hg, h]
  | none =>
    simp only [faultAt?, hg] at h
    simp only [Session.set, hnext, hg, Store.put_of_refusal h]

theorem set_of_clear {s : Session} {e : String × String} (h : s.faultAt? s.writes e = none) :
    s.set (.text e.1) (.text e.2) = (.ok (), { s with
      store := s.store.write e
      console := s.console.emit (Store.writeRecord (.text e.1) (.text e.2)) s.store.site
      writes := s.writes + 1 }) := by
  have hnext : s.nextFault? = s.scheduled? s.writes := rfl
  cases hg : s.scheduled? s.writes with
  | some g =>
    simp only [faultAt?, hg] at h
    cases h
  | none =>
    simp only [faultAt?, hg] at h
    simp only [Session.set, hnext, hg, Store.put_of_refusal_none h]

/-! ## what a call leaves alone -/

theorem report_eq (s : Session) (line : String) :
    s.report line = (s.console.out.lineFault?.elim (.ok ()) fun e => .error (.stream e),
      { s with console := { s.console with out := s.console.out.put (line ++ "\n") } }) := by
  unfold report
  rw [Stream.report_eq]
  cases s.console.out.lineFault? <;> rfl

theorem reportTrouble_eq (s : Session) (line : String) :
    s.reportTrouble line = (s.console.err.lineFault?.elim (.ok ()) fun e => .error (.stream e),
      { s with console := { s.console with err := s.console.err.put (line ++ "\n") } }) := by
  unfold reportTrouble
  rw [Stream.report_eq]
  cases s.console.err.lineFault? <;> rfl

theorem call_set_of_fault {s : Session} {e : String × String} {f : Fault}
    (h : s.faultAt? s.writes e = some f) : s.call (.set e) = { s with writes := s.writes + 1 } := by
  rw [call, set_of_fault h]

theorem call_set_of_clear {s : Session} {e : String × String}
    (h : s.faultAt? s.writes e = none) : s.call (.set e) = { s with
      store := s.store.write e
      console := s.console.emit (Store.writeRecord (.text e.1) (.text e.2)) s.store.site
      writes := s.writes + 1 } := by
  rw [call, set_of_clear h]

theorem faultAt?_call (s : Session) (c : Call) : (s.call c).faultAt? = s.faultAt? := by
  cases c with
  | set e =>
    cases h : s.faultAt? s.writes e with
    | some f => rw [call_set_of_fault h]; rfl
    | none =>
      rw [call_set_of_clear h]
      funext n e'
      unfold faultAt? scheduled?
      dsimp only
      rw [Store.refusal?_write]
      simp only [Store.hostFault_write]
  | say line => rw [call, report_eq]; rfl
  | complain line => rw [call, reportTrouble_eq]; rfl
  | note r => rfl

theorem faultAt?_calls (s : Session) (cs : List Call) : (s.calls cs).faultAt? = s.faultAt? := by
  induction cs generalizing s with
  | nil => rfl
  | cons c cs ih => rw [calls_cons, ih, faultAt?_call]

theorem writes_calls (s : Session) (cs : List Call) :
    (s.calls cs).writes = s.writes + (Call.sets cs).length := by
  induction cs generalizing s with
  | nil => rfl
  | cons c cs ih =>
    rw [calls_cons, ih]
    cases c with
    | set e =>
      have h : (s.call (.set e)).writes = s.writes + 1 := by
        cases h : s.faultAt? s.writes e with
        | some f => rw [call_set_of_fault h]
        | none => rw [call_set_of_clear h]
      rw [h]
      show s.writes + 1 + (Call.sets cs).length = s.writes + ((Call.sets cs).length + 1)
      omega
    | say line => rw [call, report_eq]; rfl
    | complain line => rw [call, reportTrouble_eq]; rfl
    | note r => rfl

/-- the output stream sees what is said, and nothing of the log -/
theorem out_calls (s : Session) (cs : List Call) :
    (s.calls cs).console.out = (Call.said cs).foldl Stream.put s.console.out := by
  induction cs generalizing s with
  | nil => rfl
  | cons c cs ih =>
    rw [calls_cons, ih]
    cases c with
    | set e =>
      have h : (s.call (.set e)).console.out = s.console.out := by
        cases h : s.faultAt? s.writes e with
        | some f => rw [call_set_of_fault h]
        | none => rw [call_set_of_clear h]; exact Console.out_emit _ _ _
      rw [h]
      rfl
    | say line => rw [call, report_eq]; rfl
    | complain line => rw [call, reportTrouble_eq]; rfl
    | note r =>
      show (Call.said cs).foldl Stream.put (s.console.emit r).out = _
      rw [Console.out_emit]
      rfl

/-- a call changes the store, the console and the number of writes alone -/
theorem call_eq (s : Session) (c : Call) :
    ∃ store console writes, s.call c = { s with store, console, writes } := by
  cases c with
  | set e =>
    cases h : s.faultAt? s.writes e with
    | some f => exact ⟨s.store, s.console, _, call_set_of_fault h⟩
    | none => exact ⟨_, _, _, call_set_of_clear h⟩
  | say line => exact ⟨s.store, _, s.writes, by rw [call, report_eq]⟩
  | complain line => exact ⟨s.store, _, s.writes, by rw [call, reportTrouble_eq]⟩
  | note r => exact ⟨s.store, _, s.writes, rfl⟩

theorem calls_eq (s : Session) (cs : List Call) :
    ∃ store console writes, s.calls cs = { s with store, console, writes } := by
  induction cs generalizing s with
  | nil => exact ⟨s.store, s.console, s.writes, rfl⟩
  | cons c cs ih =>
    obtain ⟨store, console, writes, hcall⟩ := s.call_eq c
    obtain ⟨store', console', writes', hcalls⟩ := ih (s.call c)
    refine ⟨store', console', writes', ?_⟩
    rw [calls_cons, hcalls, hcall]

theorem environment_calls (s : Session) (cs : List Call) :
    (s.calls cs).environment = s.environment := by
  obtain ⟨store, console, writes, h⟩ := s.calls_eq cs
  rw [h]

theorem standard?_calls (s : Session) (cs : List Call) : (s.calls cs).standard? = s.standard? := by
  obtain ⟨store, console, writes, h⟩ := s.calls_eq cs
  rw [h]

/-- what records and writes to the streams keep of a console, calls keep -/
theorem calls_keeps {P : Console → Prop} (hemit : ∀ c r site, P c → P (c.emit r site))
    (hout : ∀ c out, P c → P { c with out }) (herr : ∀ c err, P c → P { c with err })
    {s : Session} (h : P s.console) (cs : List Call) : P (s.calls cs).console := by
  induction cs generalizing s with
  | nil => exact h
  | cons c cs ih =>
    refine ih ?_
    cases c with
    | set e =>
      cases he : s.faultAt? s.writes e with
      | some f =>
        rw [call_set_of_fault he]
        exact h
      | none =>
        rw [call_set_of_clear he]
        exact hemit _ _ _ h
    | say line =>
      rw [call, report_eq]
      exact hout _ _ h
    | complain line =>
      rw [call, reportTrouble_eq]
      exact herr _ _ h
    | note r => exact hemit _ _ _ h

theorem manner_calls (s : Session) (cs : List Call) :
    (s.calls cs).console.manner = s.console.manner :=
  calls_keeps (P := fun c => c.manner = s.console.manner)
    (fun c r site hc => (c.manner_emit r site).trans hc) (fun _ _ hc => hc) (fun _ _ hc => hc) rfl cs

theorem quiet_writeRecord (key value : Value) : (Store.writeRecord key value).Quiet :=
  ⟨show Log.isOwn "agentproxy.store" = true by decide +kernel,
    show Log.Level.debug < Log.Level.warning by decide⟩

/-- where the logger is silent, a call is heard only by the stream that it writes to -/
theorem console_call {s : Session} (hl : s.console.logger.Silent) {c : Call} (hc : c.Quiet) :
    ∃ journal, (s.call c).console = { s.console with
      out := (Call.said [c]).foldl Stream.put s.console.out
      err := (Call.complaints [c]).foldl Stream.put s.console.err
      journal } := by
  cases c with
  | set e =>
    cases h : s.faultAt? s.writes e with
    | some f => exact ⟨s.console.journal, by rw [call_set_of_fault h]; rfl⟩
    | none =>
      refine ⟨s.console.journal ++ [Store.writeRecord (.text e.1) (.text e.2)], ?_⟩
      rw [call_set_of_clear h, Console.emit_of_silent hl (quiet_writeRecord _ _)]
      rfl
  | say line => exact ⟨s.console.journal, by rw [call, report_eq]; rfl⟩
  | complain line => exact ⟨s.console.journal, by rw [call, reportTrouble_eq]; rfl⟩
  | note r =>
    refine ⟨s.console.journal ++ [r], ?_⟩
    rw [call, emit, Console.emit_of_silent hl hc]
    rfl

/-- where the logger is silent, the streams see what is said and the complaints, and files see
nothing -/
theorem console_calls {s : Session} (hl : s.console.logger.Silent) {cs : List Call}
    (hq : ∀ c ∈ cs, c.Quiet) :
    ∃ journal, (s.calls cs).console = { s.console with
      out := (Call.said cs).foldl Stream.put s.console.out
      err := (Call.complaints cs).foldl Stream.put s.console.err
      journal } := by
  induction cs generalizing s with
  | nil => exact ⟨s.console.journal, rfl⟩
  | cons c cs ih =>
    obtain ⟨hc, hcs⟩ := List.forall_mem_cons.mp hq
    obtain ⟨journal, hcall⟩ := console_call hl hc
    obtain ⟨journal', hcalls⟩ := ih (by rw [hcall]; exact hl) hcs
    refine ⟨journal', ?_⟩
    rw [calls_cons, hcalls, hcall]
    cases c <;> rfl

theorem err_calls {s : Session} (hl : s.console.logger.Silent) {cs : List Call}
    (hq : ∀ c ∈ cs, c.Quiet) :
    (s.calls cs).console.err = (Call.complaints cs).foldl Stream.put s.console.err := by
  obtain ⟨journal, h⟩ := console_calls hl hq
  rw [h]

/-! ## entries up to the first fault -/

/-- no write fails if `es` are written next -/
def Clear (s : Session) (es : List (String × String)) : Prop :=
  ∀ x ∈ es.zipIdx s.writes, s.faultAt? x.2 x.1 = none

/-- `made` are the entries whose writes succeed if `es` are written next up to the first fault, and
`rest` starts with the entry whose write fails, if one does -/
structure Cut (s : Session) (es made rest : List (String × String)) : Prop where
  eq : es = made ++ rest
  clear : s.Clear made
  stops : ∀ e ∈ rest.head?, (s.faultAt? (s.writes + made.length) e).isSome

theorem clear_cons {s : Session} {e : String × String} {es : List (String × String)} :
    s.Clear (e :: es) ↔ s.faultAt? s.writes e = none ∧ (s.call (.set e)).Clear es := by
  have hw : (s.call (.set e)).writes = s.writes + 1 := writes_calls s [.set e]
  unfold Clear
  rw [List.zipIdx_cons, List.forall_mem_cons, faultAt?_call, hw]

theorem exists_cut (s : Session) (es : List (String × String)) : ∃ made rest, s.Cut es made rest := by
  induction es generalizing s with
  | nil => exact ⟨[], [], rfl, by simp [Clear], by simp⟩
  | cons e es ih =>
    cases h : s.faultAt? s.writes e with
    | some f => exact ⟨[], e :: es, rfl, by simp [Clear], by simp [h]⟩
    | none =>
      obtain ⟨made, rest, heq, hmade, hrest⟩ := ih (s.call (.set e))
      refine ⟨e :: made, rest, by rw [heq]; rfl, clear_cons.mpr ⟨h, hmade⟩, ?_⟩
      intro e' he'
      have := hrest e' he'
      rw [faultAt?_call] at this
      have hw : (s.call (.set e)).writes = s.writes + 1 := writes_calls s [.set e]
      rw [hw] at this
      rwa [List.length_cons, Nat.add_comm made.length 1, ← Nat.add_assoc]

theorem setAll_append_of_clear {s : Session} {made : List (String × String)} (h : s.Clear made)
    (rest : List (String × String)) :
    s.setAll (made ++ rest) = (s.calls (made.map .set)).setAll rest := by
  induction made generalizing s with
  | nil => rfl
  | cons e made ih =>
    obtain ⟨he, hmade⟩ := clear_cons.mp h
    rw [List.cons_append, setAll, set_of_clear he, List.map_cons, calls_cons, ← ih hmade,
      call_set_of_clear he]

/-- the entries whose writes succeed if `es` are written next, faults or not -/
def taken (s : Session) (es : List (String × String)) : List (String × String) :=
  ((es.zipIdx s.writes).filter fun x => (s.faultAt? x.2 x.1).isNone).map (·.1)

theorem taken_cons (s : Session) (e : String × String) (es : List (String × String)) :
    s.taken (e :: es)
      = if (s.faultAt? s.writes e).isNone then e :: (s.call (.set e)).taken es
        else (s.call (.set e)).taken es := by
  have hw : (s.call (.set e)).writes = s.writes + 1 := writes_calls s [.set e]
  unfold taken
  rw [List.zipIdx_cons, List.filter_cons, faultAt?_call, hw]
  split <;> rfl

/-- whatever else is called, the store is overlaid with the entries whose writes succeed -/
theorem store_calls (s : Session) (cs : List Call) :
    (s.calls cs).store = s.store.overlay (s.taken (Call.sets cs)) := by
  induction cs generalizing s with
  | nil => rfl
  | cons c cs ih =>
    rw [calls_cons, ih]
    cases c with
    | set e =>
      show _ = s.store.overlay (s.taken (e :: Call.sets cs))
      rw [taken_cons]
      cases h : s.faultAt? s.writes e with
      | some f => rw [call_set_of_fault h]; rfl
      | none => rw [call_set_of_clear h]; rfl
    | say line => rw [call, report_eq]; rfl
    | complain line => rw [call, reportTrouble_eq]; rfl
    | note r => rfl

/-- the fault of each of the entries, if they are written next -/
def faultsOf (s : Session) (es : List (String × String)) : List (Option Fault) :=
  (es.zipIdx s.writes).map fun x => s.faultAt? x.2 x.1

theorem faultsOf_of_clear {s : Session} {es : List (String × String)} (h : s.Clear es) :
    s.faultsOf es = List.replicate es.length none := by
  rw [faultsOf, List.map_congr_left h, List.map_const', List.length_zipIdx]

namespace Cut

section
variable {s : Session} {es made rest : List (String × String)}

theorem faultsOf_eq (h : s.Cut es made rest) :
    s.faultsOf es = List.replicate made.length none
      ++ (rest.zipIdx (s.writes + made.length)).map fun x => s.faultAt? x.2 x.1 := by
  rw [← faultsOf_of_clear h.clear, h.eq, faultsOf, List.zipIdx_append, List.map_append]
  rfl

theorem length_takeWhile (h : s.Cut es made rest) :
    ((s.faultsOf es).takeWhile Option.isNone).length = made.length := by
  rw [h.faultsOf_eq, List.takeWhile_append_of_pos (by simp)]
  cases rest with
  | nil => simp
  | cons e rest =>
    obtain ⟨f, hf⟩ := Option.isSome_iff_exists.mp (h.stops e rfl)
    simp [hf]

theorem taken_eq (h : s.Cut es made rest) : s.taken (made ++ rest.take 1) = made := by
  have hmade : (made.zipIdx s.writes).filter (fun x => (s.faultAt? x.2 x.1).isNone)
      = made.zipIdx s.writes :=
    List.filter_eq_self.mpr fun x hx => by rw [h.clear x hx]; rfl
  have hrest : ((rest.take 1).zipIdx (s.writes + made.length)).filter
      (fun x => (s.faultAt? x.2 x.1).isNone) = [] := by
    cases rest with
    | nil => rfl
    | cons e rest =>
      obtain ⟨f, hf⟩ := Option.isSome_iff_exists.mp (h.stops e rfl)
      simp [hf]
  unfold taken
  rw [List.zipIdx_append, List.filter_append, hmade, hrest, List.append_nil, List.zipIdx_map_fst]

theorem setAll_nil (h : s.Cut es made []) : s.setAll es = (.ok (), s.calls (made.map .set)) := by
  rw [h.eq, setAll_append_of_clear h.clear]
  rfl

theorem setAll_cons {e : String × String} (h : s.Cut es made (e :: rest)) {f : Fault}
    (hf : s.faultAt? (s.writes + made.length) e = some f) :
    s.setAll es = (.error f, s.calls ((made ++ [e]).map .set)) := by
  have hf' : (s.calls (made.map .set)).faultAt? (s.calls (made.map .set)).writes e = some f := by
    rw [faultAt?_calls, writes_calls, Call.sets_map_set, hf]
  rw [h.eq, setAll_append_of_clear h.clear, setAll, set_of_fault hf', List.map_append, calls_append]
  show _ = (Except.error f, (s.calls (made.map .set)).call (.set e))
  rw [call_set_of_fault hf']

end

end Cut

end Session

end ProxyInjector
