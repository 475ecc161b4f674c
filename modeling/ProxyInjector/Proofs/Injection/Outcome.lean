import ProxyInjector.Proofs.Descriptor
import ProxyInjector.Proofs.Session.Calls
import ProxyInjector.Session.Step

/-!
# The outcome of an injection

What an injection does is settled before it starts: by its argument, by the faults of the five
writes and by those of the output stream.

* `Session.obstacles`   everything that can go wrong, in the order in which it is met; the message
                        of the first is the reason for which an injection fails;
* `Session.injected?`   the descriptor that an injection gets into the store;
* `Session.attempts`    the entries that the store is asked to take;
* `Session.Account`     what can be said of an injection and of the calls it makes.  There is an
                        account of every injection (`exists_account`): the text is skipped, or all
                        writes succeed (`account_of_cut_nil`), or it fails before the report
                        (`account_of_failed`).
-/

namespace ProxyInjector

/-- the descriptor that an argument names -/
def Value.descriptor? : Value → Option Descriptor
  | .text raw => Descriptor.parse? raw
  | _ => none

theorem Injection.ok_eq (i : Injection) : i.ok = i.reason?.isNone := by cases i <;> rfl

theorem Injection.ext_parts {i j : Injection} (hd : i.descriptor? = j.descriptor?)
    (hr : i.reason? = j.reason?) : i = j := by
  cases i <;> cases j <;> simp_all [Injection.descriptor?, Injection.reason?]

namespace Session

open Injection

/-! ## what may go wrong -/

/-- reading the argument, the writes, and the write and the flush of the line that reports them -/
def obstacles (s : Session) : Value → List (Option Fault)
  | .text raw =>
    match Descriptor.parse? raw with
    | none => []
    | some d => s.faultsOf d.entries
        ++ [s.console.out.writeFault?.map .stream, s.console.out.flushFault?.map .stream]
  | v => [some (.misuse (.noMember v.kind "split"))]

def firstFault? (s : Session) (raw : Value) : Option Fault := (s.obstacles raw).findSome? id

/-- the descriptor that the argument names, if none of its entries' writes fails -/
def injected? (s : Session) (raw : Value) : Option Descriptor :=
  raw.descriptor?.filter fun d => (s.faultsOf d.entries).all Option.isNone

/-- the entries that the store is asked to take, up to the first whose write fails -/
def attempts (s : Session) (raw : Value) : List (String × String) :=
  match raw.descriptor? with
  | none => []
  | some d => d.entries.take (((s.faultsOf d.entries).takeWhile Option.isNone).length + 1)

section
variable {s : Session} {raw : String} {d : Descriptor} {made rest : List (String × String)}

theorem attempts_of_cut (hd : Descriptor.parse? raw = some d) (h : s.Cut d.entries made rest) :
    s.attempts (.text raw) = made ++ rest.take 1 := by
  have he : (Value.text raw).descriptor? = some d := hd
  simp only [attempts, he, h.length_takeWhile]
  rw [h.eq, List.take_length_add_append]

theorem firstFault?_of_cut_nil (hd : Descriptor.parse? raw = some d) (h : s.Cut d.entries made []) :
    s.firstFault? (.text raw) = s.console.out.lineFault?.map .stream := by
  have he : s.obstacles (.text raw) = s.faultsOf d.entries
      ++ [s.console.out.writeFault?.map .stream, s.console.out.flushFault?.map .stream] := by
    simp only [obstacles, hd]
  rw [firstFault?, he, h.faultsOf_eq, List.findSome?_append, Stream.lineFault?]
  cases s.console.out.writeFault? <;> cases s.console.out.flushFault? <;> simp

theorem firstFault?_of_cut_cons {e : String × String} {f : Fault}
    (hd : Descriptor.parse? raw = some d) (h : s.Cut d.entries made (e :: rest))
    (hf : s.faultAt? (s.writes + made.length) e = some f) :
    s.firstFault? (.text raw) = some f := by
  have he : s.obstacles (.text raw) = s.faultsOf d.entries
      ++ [s.console.out.writeFault?.map .stream, s.console.out.flushFault?.map .stream] := by
    simp only [obstacles, hd]
  rw [firstFault?, he, h.faultsOf_eq]
  simp [hf]

theorem injected?_of_cut_nil (hd : Descriptor.parse? raw = some d) (h : s.Cut d.entries made []) :
    s.injected? (.text raw) = some d := by
  have he : (Value.text raw).descriptor? = some d := hd
  rw [injected?, he, Option.filter_some, h.faultsOf_eq]
  simp

theorem injected?_of_cut_cons {e : String × String} {f : Fault}
    (hd : Descriptor.parse? raw = some d) (h : s.Cut d.entries made (e :: rest))
    (hf : s.faultAt? (s.writes + made.length) e = some f) : s.injected? (.text raw) = none := by
  have he : (Value.text raw).descriptor? = some d := hd
  rw [injected?, he, Option.filter_some, h.faultsOf_eq]
  simp [hf]

theorem inject_of_cut_nil (hd : Descriptor.parse? raw = some d) (h : s.Cut d.entries made []) :
    s.inject (.text raw) = (.done d, s.calls (made.map .set ++ [.note (doneRecord d)])) := by
  simp only [inject, Value.asText, hd, injectDescriptor, h.setAll_nil, calls_append]
  rfl

theorem inject_of_cut_cons {e : String × String} {f : Fault}
    (hd : Descriptor.parse? raw = some d) (h : s.Cut d.entries made (e :: rest))
    (hf : s.faultAt? (s.writes + made.length) e = some f) :
    s.inject (.text raw)
      = (.failed none f.message, s.calls ((made ++ [e]).map .set ++ [.note (failedRecord f)])) := by
  rw [calls_append]
  simp only [inject, Value.asText, hd, injectDescriptor, h.setAll_cons hf]
  rfl

end

/-- an injection without its report asks the store for the same -/
theorem exists_inject_calls (s : Session) (raw : Value) :
    ∃ i cs, s.inject raw = (i, s.calls cs) ∧ Call.sets cs = s.attempts raw := by
  cases raw with
  | text text =>
    cases hd : Descriptor.parse? text with
    | none =>
      have he : (Value.text text).descriptor? = none := hd
      refine ⟨.skipped, [.note (skippedRecord text)], ?_, ?_⟩
      · simp only [inject, Value.asText, hd]
        rfl
      · simp [attempts, he]
    | some d =>
      obtain ⟨made, rest, h⟩ := s.exists_cut d.entries
      rw [attempts_of_cut hd h]
      cases rest with
      | nil => exact ⟨_, _, inject_of_cut_nil hd h, by simp⟩
      | cons e rest =>
        obtain ⟨f, hf⟩ := Option.isSome_iff_exists.mp (h.stops e rfl)
        exact ⟨_, _, inject_of_cut_cons hd h hf, by simp⟩
  | _ => exact ⟨_, [.note _], rfl, rfl⟩

/-! ## the calls of an injection -/

/-- what can be said of the injection of an argument, and of the calls that it makes -/
structure Account (s : Session) (raw : Value) (i : Injection) (cs : List Call) : Prop where
  outcome : s.apply raw = (i, s.calls cs)
  descriptor : i.descriptor? = s.injected? raw
  reason : i.reason? = (s.firstFault? raw).map Fault.message
  sets : Call.sets cs = s.attempts raw
  said : Call.said cs = i.descriptor?.toList.map fun d => successLine d ++ "\n"
  complaints : Call.complaints cs = i.reason?.toList.map fun m => failureLine (.text m) ++ "\n"
  quiet : ∀ c ∈ cs, c.Quiet

theorem quiet_record (function : String) {level : Log.Level} (hl : level < Log.Level.warning)
    (pattern : String) (f : Option Fault) : (record function level pattern f).Quiet :=
  ⟨show Log.isOwn "agentproxy.agent" = true by decide +kernel, hl⟩

theorem quiet_failedRecord (f : Fault) : (failedRecord f).Quiet := quiet_record _ (by decide) _ _
theorem quiet_unreportedRecord (f : Fault) : (unreportedRecord f).Quiet :=
  quiet_record _ (by decide) _ _
theorem quiet_unreportedFailureRecord (f : Fault) : (unreportedFailureRecord f).Quiet :=
  quiet_record _ (by decide) _ _
theorem quiet_skippedRecord (raw : String) : (skippedRecord raw).Quiet :=
  quiet_record "inject" (show Log.Level.debug < Log.Level.warning by decide) "" none
theorem quiet_doneRecord (d : Descriptor) : (doneRecord d).Quiet :=
  quiet_record "inject" (show Log.Level.info < Log.Level.warning by decide) "" none

/-- the failure line, and behind it a record if that cannot be written -/
theorem reportFailure_eq (s : Session) (reason : Value) :
    s.reportFailure reason = s.calls (.complain (failureLine reason) ::
      (s.console.err.lineFault?.toList.map fun e => unreportedFailureRecord (.stream e)).map .note) := by
  unfold reportFailure
  rw [calls_cons, call, reportTrouble_eq]
  cases s.console.err.lineFault? with
  | none => rfl
  | some e => rfl

theorem reportFailure_calls (s : Session) (reason : Value) :
    ∃ rs : List Log.Record, (∀ r ∈ rs, r.Quiet) ∧
      s.reportFailure reason = s.calls (.complain (failureLine reason) :: rs.map .note) := by
  refine ⟨_, fun r hr => ?_, s.reportFailure_eq reason⟩
  obtain ⟨e, -, rfl⟩ := List.mem_map.mp hr
  exact quiet_unreportedFailureRecord _

/-- a text that names no descriptor is skipped -/
theorem account_of_skipped (s : Session) {raw : String} (hd : Descriptor.parse? raw = none) :
    s.Account (.text raw) .skipped [.note (skippedRecord raw)] := by
  have he : (Value.text raw).descriptor? = none := hd
  refine ⟨?_, ?_, ?_, ?_, rfl, rfl, ?_⟩
  · simp only [apply, inject, Value.asText, hd]
    rfl
  · rw [injected?, he]
    rfl
  · simp only [firstFault?, obstacles, hd]
    rfl
  · simp [attempts, he]
  · exact List.forall_mem_singleton.mpr (quiet_skippedRecord raw)

/-- what fails before the report leaves one line on the error stream -/
theorem account_of_failed {s : Session} {raw : Value} {f : Fault}
    (hinj : s.inject raw
      = (.failed none f.message, s.calls ((s.attempts raw).map .set ++ [.note (failedRecord f)])))
    (hfault : s.firstFault? raw = some f) (hdesc : s.injected? raw = none) :
    ∃ i cs, s.Account raw i cs := by
  obtain ⟨rs, hrs, hcalls⟩ := reportFailure_calls
    (s.calls ((s.attempts raw).map .set ++ [.note (failedRecord f)])) (.text f.message)
  refine ⟨.failed none f.message, (s.attempts raw).map .set ++ [.note (failedRecord f)]
    ++ .complain (failureLine (.text f.message)) :: rs.map .note, ?_, hdesc.symm, ?_, ?_, ?_, ?_, ?_⟩
  · rw [calls_append, ← hcalls]
    simp only [apply, hinj]
  · rw [hfault]
    rfl
  · simp
  · simp [descriptor?]
  · simp [reason?]
  · intro c hc
    simp only [List.mem_append, List.mem_map, List.mem_cons, List.not_mem_nil, or_false] at hc
    rcases hc with (⟨e, -, rfl⟩ | rfl) | rfl | ⟨r, hr, rfl⟩
    · trivial
    · exact quiet_failedRecord f
    · trivial
    · exact hrs r hr

section
variable {s : Session} {raw : String} {d : Descriptor} {made rest : List (String × String)}

/-- all writes succeed: what is left is the report -/
theorem account_of_cut_nil (hd : Descriptor.parse? raw = some d) (h : s.Cut d.entries made []) :
    ∃ i cs, s.Account (.text raw) i cs := by
  have hsets : s.attempts (.text raw) = made :=
    (attempts_of_cut hd h).trans (List.append_nil made)
  have hfault := firstFault?_of_cut_nil hd h
  have hdesc := injected?_of_cut_nil hd h
  have hinj := inject_of_cut_nil hd h
  have hout : (s.calls (made.map .set ++ [.note (doneRecord d)])).console.out = s.console.out := by
    rw [out_calls]
    simp
  cases he : s.console.out.lineFault? with
  | none =>
    refine ⟨.done d, made.map .set ++ [.note (doneRecord d)] ++ [.say (successLine d)], ?_,
      hdesc.symm, ?_, ?_, ?_, ?_, ?_⟩
    · rw [calls_append, calls_cons, calls_nil, call, apply, hinj]
      simp only [report_eq, hout, he, Option.elim_none]
    · rw [hfault, he]
      rfl
    · simp [hsets]
    · simp [descriptor?]
    · simp [reason?]
    · intro c hc
      simp only [List.mem_append, List.mem_map, List.mem_singleton] at hc
      rcases hc with (⟨e, -, rfl⟩ | rfl) | rfl
      · trivial
      · exact quiet_doneRecord d
      · trivial
  | some e =>
    let f : Fault := .stream e
    obtain ⟨rs, hrs, hcalls⟩ := reportFailure_calls
      (s.calls (made.map .set ++ [.note (doneRecord d)]
        ++ [.say (successLine d), .note (unreportedRecord f)])) (.text f.message)
    refine ⟨.failed (some d) f.message, made.map .set ++ [.note (doneRecord d)]
      ++ [.say (successLine d), .note (unreportedRecord f)]
      ++ .complain (failureLine (.text f.message)) :: rs.map .note, ?_, hdesc.symm, ?_, ?_, ?_, ?_, ?_⟩
    · rw [calls_append, ← hcalls, calls_append, calls_cons, calls_cons, calls_nil, call, call, apply, hinj]
      simp only [report_eq, hout, he, Option.elim_some]
      rfl
    · rw [hfault, he]
      rfl
    · simp [hsets]
    · simp [descriptor?]
    · simp [reason?]
    · intro c hc
      simp only [List.mem_append, List.mem_map, List.mem_cons, List.not_mem_nil, or_false] at hc
      rcases hc with ((⟨e, -, rfl⟩ | rfl) | rfl | rfl) | rfl | ⟨r, hr, rfl⟩
      · trivial
      · exact quiet_doneRecord d
      · trivial
      · exact quiet_unreportedRecord f
      · trivial
      · exact hrs r hr

/-- a write fails, and nothing is reported but that -/
theorem account_of_cut_cons {e : String × String} (hd : Descriptor.parse? raw = some d)
    (h : s.Cut d.entries made (e :: rest)) : ∃ i cs, s.Account (.text raw) i cs := by
  obtain ⟨f, hf⟩ := Option.isSome_iff_exists.mp (h.stops e rfl)
  refine account_of_failed ?_ (firstFault?_of_cut_cons hd h hf) (injected?_of_cut_cons hd h hf)
  have hsets : s.attempts (.text raw) = made ++ [e] := attempts_of_cut hd h
  rw [hsets]
  exact inject_of_cut_cons hd h hf

end

theorem exists_account (s : Session) (raw : Value) : ∃ i cs, s.Account raw i cs := by
  cases raw with
  | text text =>
    cases hd : Descriptor.parse? text with
    | none => exact ⟨_, _, account_of_skipped s hd⟩
    | some d =>
      obtain ⟨made, rest, h⟩ := s.exists_cut d.entries
      cases rest with
      | nil => exact account_of_cut_nil hd h
      | cons e rest => exact account_of_cut_cons hd h
  | _ => exact account_of_failed rfl rfl rfl

end Session

end ProxyInjector
