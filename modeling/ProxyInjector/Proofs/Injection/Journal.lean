import ProxyInjector.Proofs.Injection.Outcome
import ProxyInjector.Proofs.Session.Journal

/-!
# The journal of an injection

Whatever fails on the way, the records of an injection come in one order: the writes, what came of
the argument, and behind it the lines that could not be written.

* `Session.Decided`        what comes of an argument, with what the record of it says;
* `Session.watched`        a line, and behind it the record of its fault, if it has one;
* `Session.Told`           calls whose records stand in that order.  The writes with the record
                           of the outcome are such calls (`told_of_writes`), and they stay such
                           when a line for the output stream and then one for the error stream are
                           added (`Told.say`, `Told.complain`);
* `Session.apply_journal`  so the journal of an injection tells all its effects and can be replayed.
-/

namespace ProxyInjector

namespace Log.Record

/-- what a record says: how pressing it is, who says it, its message, and the trouble that it
carries -/
abbrev Gist := Level × String × String × Option Trouble

def gist (r : Record) : Gist := (r.level, r.logger, r.message, r.trouble)

end Log.Record

namespace Session

open Injection

/-! ## what comes of an argument -/

/-- what comes of an argument, and what the record of it says -/
inductive Decided (s : Session) (raw : Value) : Injection → Log.Record.Gist → Prop
  | skipped (text : String) (hraw : raw = .text text) :
    Decided s raw .skipped (Log.Level.debug, "agentproxy.agent",
      "Ignoring malformed proxy argument " ++ Text.quoted text, none)
  | failed (f : Fault) (hf : s.firstFault? raw = some f) :
    Decided s raw (.failed none f.message) (Log.Level.debug, "agentproxy.agent",
      "Proxy injection failed", some f.trouble)
  | pointed (i : Injection) (d : Descriptor) (hi : i.descriptor? = some d)
      (hd : s.injected? raw = some d) :
    Decided s raw i (Log.Level.info, "agentproxy.agent",
      "Proxy properties now point to " ++ (d.host ++ ":" ++ d.port), none)

/-- what comes of the writes alone, with its record -/
inductive Outcome (s : Session) (raw : Value) : Injection → Log.Record → Prop
  | skipped (text : String) (hraw : raw = .text text) : Outcome s raw .skipped (skippedRecord text)
  | failed (f : Fault) (hf : s.firstFault? raw = some f) :
    Outcome s raw (.failed none f.message) (failedRecord f)
  | done (d : Descriptor) (hd : s.injected? raw = some d) : Outcome s raw (.done d) (doneRecord d)

namespace Outcome

variable {s : Session} {raw : Value} {i : Injection} {r : Log.Record}

theorem quiet (h : s.Outcome raw i r) : r.Quiet := by
  cases h with
  | skipped text => exact quiet_skippedRecord text
  | failed f => exact quiet_failedRecord f
  | done d => exact quiet_doneRecord d

theorem logger (h : s.Outcome raw i r) : r.logger = "agentproxy.agent" := by
  cases h <;> rfl

theorem decided (h : s.Outcome raw i r) : s.Decided raw i r.gist := by
  cases h with
  | skipped text hraw => exact .skipped text hraw
  | failed f hf => exact .failed f hf
  | done d hd => exact .pointed _ d rfl hd

end Outcome

/-- without its report, an injection comes to its writes and one record -/
theorem exists_outcome (s : Session) (raw : Value) :
    ∃ i r, s.Outcome raw i r ∧
      s.inject raw = (i, s.calls ((s.attempts raw).map .set ++ [.note r])) := by
  cases raw with
  | text text =>
    cases hd : Descriptor.parse? text with
    | none =>
      have he : (Value.text text).descriptor? = none := hd
      refine ⟨_, _, .skipped text rfl, ?_⟩
      rw [attempts, he]
      simp only [inject, Value.asText, hd]
      rfl
    | some d =>
      obtain ⟨made, rest, h⟩ := s.exists_cut d.entries
      cases rest with
      | nil =>
        refine ⟨_, _, .done d (injected?_of_cut_nil hd h), ?_⟩
        rw [attempts_of_cut hd h, List.take_nil, List.append_nil]
        exact inject_of_cut_nil hd h
      | cons e rest =>
        obtain ⟨f, hf⟩ := Option.isSome_iff_exists.mp (h.stops e rfl)
        refine ⟨_, _, .failed f (firstFault?_of_cut_cons hd h hf), ?_⟩
        rw [attempts_of_cut hd h]
        exact inject_of_cut_cons hd h hf
  | _ => exact ⟨_, _, .failed (.misuse (.noMember _ "split")) rfl, rfl⟩

/-! ## lines and the records of their faults -/

/-- a call, and behind it the record of its fault, if it has one -/
def watched (s : Session) (c : Call) (r : Fault → Log.Record) : List Call :=
  c :: ((s.faultOf? c).toList.map r).map .note

theorem observe_map_note {α : Type} (view : Call → Option Fault → Option α) (s : Session)
    (rs : List Log.Record) :
    s.observe view (rs.map .note) = rs.filterMap fun r => view (.note r) none := by
  induction rs generalizing s with
  | nil => rfl
  | cons r rs ih =>
    rw [List.map_cons, observe_cons, ih, faultOf?_note, List.filterMap_cons]
    cases view (.note r) none <;> rfl

theorem observe_watched {α : Type} (view : Call → Option Fault → Option α) (s : Session) (c : Call)
    (r : Fault → Log.Record) :
    s.observe view (s.watched c r) = (view c (s.faultOf? c)).toList
      ++ ((s.faultOf? c).toList.map r).filterMap fun r => view (.note r) none := by
  rw [watched, observe_cons, observe_map_note]

theorem forall_mem_watched {p : Call → Prop} (s : Session) {c : Call} (hc : p c)
    {r : Fault → Log.Record} (hr : ∀ f, p (.note (r f))) : ∀ c' ∈ s.watched c r, p c' := by
  rw [watched, List.forall_mem_cons, List.forall_mem_map, List.forall_mem_map]
  exact ⟨hc, fun f _ => hr f⟩

section
variable (s : Session) (c : Call) (r : Fault → Log.Record)

@[simp] theorem sets_watched : Call.sets (s.watched c r) = c.entry?.toList := by
  rw [watched, Call.sets_cons, Call.sets_map_note, List.append_nil]
@[simp] theorem said_watched : Call.said (s.watched c r) = c.said?.toList := by
  rw [watched, Call.said_cons, Call.said_map_note, List.append_nil]
@[simp] theorem complaints_watched : Call.complaints (s.watched c r) = c.complaint?.toList := by
  rw [watched, Call.complaints_cons, Call.complaints_map_note, List.append_nil]

end

theorem report_watched (s : Session) (line : String) :
    s.report line = ((s.faultOf? (.say line)).elim (.ok ()) .error, s.call (.say line)) := by
  rw [call, faultOf?]
  rcases s.report line with ⟨_ | _, t⟩ <;> rfl

theorem reportFailure_watched (s : Session) (reason : Value) :
    s.reportFailure reason
      = s.calls (s.watched (.complain (failureLine reason)) unreportedFailureRecord) := by
  rw [reportFailure_eq, watched, faultOf?_complain]
  cases s.console.err.lineFault? <;> rfl

/-! ## the order of the records -/

/-- the entries that calls get into the store -/
def written (s : Session) (cs : List Call) : List (String × String) := s.observe Call.written? cs

/-- the faults of the lines that are meant for the output stream -/
def unsaid (s : Session) (cs : List Call) : List Fault := s.observe Call.unsaid? cs

/-- the faults of the lines that are meant for the error stream -/
def unheard (s : Session) (cs : List Call) : List Fault := s.observe Call.unheard? cs

theorem length_unsaid_le (s : Session) (cs : List Call) :
    (s.unsaid cs).length ≤ (Call.said cs).length :=
  length_observe_le _ (fun c _ => by cases c <;> simp) s cs

theorem length_unheard_le (s : Session) (cs : List Call) :
    (s.unheard cs).length ≤ (Call.complaints cs).length :=
  length_observe_le _ (fun c _ => by cases c <;> simp) s cs

/-- calls that leave a record of each write, that of the outcome, and one of each line that fails,
in this order -/
structure Told (s : Session) (outcome : Log.Record) (cs : List Call) : Prop where
  records : s.records cs = (s.written cs).map (fun e => Store.writeRecord (.text e.1) (.text e.2))
    ++ outcome :: ((s.unsaid cs).map unreportedRecord ++ (s.unheard cs).map unreportedFailureRecord)
  legible : ∀ c ∈ cs, c.Legible
  quiet : ∀ c ∈ cs, c.Quiet

section
variable {s : Session} {outcome : Log.Record}

theorem legible_note {r : Log.Record} (hr : r.logger = "agentproxy.agent") :
    Call.Legible (.note r) := by
  rw [Call.Legible, hr]
  decide

theorem told_of_writes {es : List (String × String)} (hkeys : ∀ e ∈ es, '=' ∉ e.1.toList)
    (hlogger : outcome.logger = "agentproxy.agent") (hquiet : outcome.Quiet) :
    s.Told outcome (es.map .set ++ [.note outcome]) := by
  refine ⟨?_, ?_, ?_⟩
  · induction es generalizing s with
    | nil => rfl
    | cons e es ih =>
      have h := ih (s := s.call (.set e)) fun e' he' => hkeys e' (List.mem_cons_of_mem _ he')
      simp only [Session.records, written, unsaid, unheard] at h ⊢
      simp only [List.map_cons, List.cons_append, observe_cons, h]
      cases s.faultOf? (.set e) <;> rfl
  · rw [List.forall_mem_append, List.forall_mem_map, List.forall_mem_singleton]
    exact ⟨hkeys, legible_note hlogger⟩
  · rw [List.forall_mem_append, List.forall_mem_map, List.forall_mem_singleton]
    exact ⟨fun _ _ => trivial, hquiet⟩

variable {cs : List Call}

theorem Told.say (h : s.Told outcome cs) (hunheard : s.unheard cs = []) (line : String) :
    s.Told outcome (cs ++ (s.calls cs).watched (.say line) unreportedRecord) := by
  have hrecords := h.records
  refine ⟨?_, ?_, ?_⟩
  · simp only [Session.records, written, unsaid, unheard] at hrecords hunheard ⊢
    simp only [observe_append, observe_watched, hrecords, hunheard]
    cases (s.calls cs).faultOf? (.say line) <;> simp
  · exact List.forall_mem_append.mpr
      ⟨h.legible, forall_mem_watched _ trivial fun _ => legible_note rfl⟩
  · exact List.forall_mem_append.mpr
      ⟨h.quiet, forall_mem_watched _ trivial quiet_unreportedRecord⟩

theorem Told.complain (h : s.Told outcome cs) (line : String) :
    s.Told outcome (cs ++ (s.calls cs).watched (.complain line) unreportedFailureRecord) := by
  have hrecords := h.records
  refine ⟨?_, ?_, ?_⟩
  · simp only [Session.records, written, unsaid, unheard] at hrecords ⊢
    simp only [observe_append, observe_watched, hrecords]
    cases (s.calls cs).faultOf? (.complain line) <;> simp
  · exact List.forall_mem_append.mpr
      ⟨h.legible, forall_mem_watched _ trivial fun _ => legible_note rfl⟩
  · exact List.forall_mem_append.mpr
      ⟨h.quiet, forall_mem_watched _ trivial quiet_unreportedFailureRecord⟩

end

/-! ## the whole injection -/

theorem account_of_calls {s : Session} {raw : Value} {i : Injection} {cs : List Call}
    (houtcome : s.apply raw = (i, s.calls cs)) (hsets : Call.sets cs = s.attempts raw)
    (hsaid : Call.said cs = i.descriptor?.toList.map fun d => successLine d ++ "\n")
    (hcomplaints : Call.complaints cs
      = i.reason?.toList.map fun m => failureLine (.text m) ++ "\n")
    (hquiet : ∀ c ∈ cs, c.Quiet) : s.Account raw i cs := by
  obtain ⟨j, ds, h⟩ := s.exists_account raw
  obtain rfl : j = i := congrArg Prod.fst (h.outcome.symm.trans houtcome)
  exact ⟨houtcome, h.descriptor, h.reason, hsets, hsaid, hcomplaints, hquiet⟩

theorem not_mem_key_of_attempts (s : Session) (raw : Value) :
    ∀ e ∈ s.attempts raw, '=' ∉ e.1.toList := by
  intro e he
  rw [attempts] at he
  split at he
  · cases he
  · next d _ =>
    have hkey : e.1 ∈ [Key.httpHost, Key.httpPort, Key.httpsHost, Key.httpsPort, Key.exemptHosts] :=
      List.mem_map_of_mem (f := Prod.fst) (List.mem_of_mem_take he)
    have hkeys : ∀ key ∈ [Key.httpHost, Key.httpPort, Key.httpsHost, Key.httpsPort,
        Key.exemptHosts], '=' ∉ key.toList := by decide
    exact hkeys e.1 hkey

/-- the calls of an injection, in their order -/
theorem exists_told (s : Session) (raw : Value) :
    ∃ i cs r, s.Account raw i cs ∧ s.Decided raw i r.gist ∧ s.Told r cs := by
  obtain ⟨i, r, ho, hinj⟩ := s.exists_outcome raw
  have htold := told_of_writes (s := s) (not_mem_key_of_attempts s raw) ho.logger ho.quiet
  have hdecided := ho.decided
  generalize hcs : (s.attempts raw).map Call.set ++ [Call.note r] = cs at hinj htold
  have hsets : Call.sets cs = s.attempts raw := by simp [← hcs]
  have hsaid : Call.said cs = [] := by simp [← hcs]
  have hcomplaints : Call.complaints cs = [] := by simp [← hcs]
  cases ho with
  | skipped text hraw =>
    refine ⟨.skipped, cs, _, account_of_calls ?_ hsets hsaid hcomplaints htold.quiet, hdecided,
      htold⟩
    simp only [apply, hinj]
  | failed f hf =>
    have hfail := htold.complain (failureLine (.text f.message))
    refine ⟨.failed none f.message, _, _, account_of_calls ?_ ?_ ?_ ?_ hfail.quiet, hdecided, hfail⟩
    · simp only [apply, hinj, calls_append, reportFailure_watched]
    · simp [hsets]
    · simp [hsaid, descriptor?]
    · simp [hcomplaints, reason?]
  | done d hd =>
    have hunheard : s.unheard cs = [] := by
      have hlength := s.length_unheard_le cs
      rw [hcomplaints] at hlength
      exact List.eq_nil_of_length_eq_zero (Nat.le_zero.mp hlength)
    have hsay := htold.say hunheard (successLine d)
    cases hline : (s.calls cs).faultOf? (.say (successLine d)) with
    | none =>
      refine ⟨.done d, _, _, account_of_calls ?_ ?_ ?_ ?_ hsay.quiet, hdecided, hsay⟩
      · rw [calls_append, watched, hline]
        simp only [apply, hinj, report_watched, hline]
        rfl
      · simp [hsets]
      · simp [hsaid, descriptor?]
      · simp [hcomplaints, reason?]
    | some f =>
      have hfail := hsay.complain (failureLine (.text f.message))
      refine ⟨.failed (some d) f.message, _, _, account_of_calls ?_ ?_ ?_ ?_ hfail.quiet,
        .pointed _ d rfl hd, hfail⟩
      · rw [calls_append, ← reportFailure_watched, calls_append, watched, hline]
        simp only [apply, hinj, report_watched, hline]
        rfl
      · simp [hsets]
      · simp [hsaid, descriptor?]
      · simp [hcomplaints, reason?]

/-- **The journal of an injection.**  For every kind of store, every fault and every argument, the
records of an injection are, in order, one of each write that succeeded, one of what came of the
argument, and one of each of the two lines that failed.  So the writes that they tell of, made on
the old entries of the store, give the new ones. -/
theorem apply_journal (s : Session) (raw : Value) :
    ∃ i cs records outcome, s.Account raw i cs ∧ s.Decided raw i outcome ∧
      (s.apply raw).2.console.journal = s.console.journal ++ records ∧
      records.map Log.Record.gist =
        (s.written cs).map (fun e =>
          (Log.Level.debug, "agentproxy.store", e.1 ++ "=" ++ e.2, none)) ++
        outcome ::
        ((s.unsaid cs).map (fun f =>
          (Log.Level.debug, "agentproxy.agent", "Unable to report injected proxy",
            some f.trouble)) ++
        (s.unheard cs).map (fun f =>
          (Log.Level.debug, "agentproxy.agent", "Unable to report injection error",
            some f.trouble))) ∧
      (s.unsaid cs).length ≤ 1 ∧ (s.unheard cs).length ≤ 1 ∧
      (s.apply raw).2.store.entries = Table.replay s.store.entries records := by
  obtain ⟨i, cs, r, h, hdecided, htold⟩ := s.exists_told raw
  have hsaid : (Call.said cs).length ≤ 1 := by
    rw [h.said, List.length_map]
    exact Option.length_toList_le
  have hcomplaints : (Call.complaints cs).length ≤ 1 := by
    rw [h.complaints, List.length_map]
    exact Option.length_toList_le
  refine ⟨i, cs, s.records cs, r.gist, h, hdecided, ?_, ?_,
    Nat.le_trans (s.length_unsaid_le cs) hsaid,
    Nat.le_trans (s.length_unheard_le cs) hcomplaints, ?_⟩
  · rw [h.outcome]
    exact journal_calls s cs
  · rw [htold.records, List.map_append, List.map_map, List.map_cons, List.map_append, List.map_map,
      List.map_map]
    rfl
  · rw [h.outcome]
    exact entries_calls s htold.legible

end Session

end ProxyInjector
