import ProxyInjector.Proofs.Injection.Apply

/-!
# The lines of an injection

An injection has one line to say, on the output stream if it went well and on the error stream if
not.  A line is written and then flushed, and a flush that fails comes too late to take the line
back: then, and only then, the line of the failure follows that of the success.

* `Account.out_text`, `Account.err_text`   what each stream takes of the injection;
* `Account.said_or_failed`                 a success that got onto the output stream stands for an
                                           injection that went well, or its flush failed;
* `apply_prints`                           so both streams together get one line at most, apart
                                           from that case and from newlines in what is quoted.
                                           `apply_prints_more` has a case of each.
-/

namespace ProxyInjector

/-! ## lines -/

def newlines (s : String) : Nat := s.toList.count '\n'

theorem newlines_append (s t : String) : newlines (s ++ t) = newlines s + newlines t := by
  rw [newlines, String.toList_append, List.count_append]
  rfl

/-- nothing, or a line with its newline; up to `extra` newlines may stand in the line itself -/
def AtMostALine (extra : Nat) (text : String) : Prop :=
  text = "" ∨ ∃ line, text = line ++ "\n" ∧ newlines line ≤ extra

theorem AtMostALine.newlines_le {extra : Nat} {text : String} (h : AtMostALine extra text) :
    newlines text ≤ extra + 1 := by
  rcases h with rfl | ⟨line, rfl, hline⟩
  · exact Nat.zero_le _
  · have hend : newlines "\n" = 1 := by decide
    rw [newlines_append, hend]
    omega

/-- the next line gets onto the stream, and is not flushed -/
def Stream.FlushFails (s : Stream) : Prop :=
  s.writes ∉ s.faults.writes ∧ s.flushes ∈ s.faults.flushes

theorem Stream.taken_eq_or (s : Stream) (text : String) : s.taken text = "" ∨ s.taken text = text := by
  rw [taken]
  split
  · exact .inl rfl
  · exact .inr rfl

namespace Session

open Injection

/-! ## what the streams take -/

section
variable {s : Session} {raw : Value} {i : Injection} {cs : List Call} (h : s.Account raw i cs)
include h

/-- the text that an injection adds to the output stream -/
theorem Account.out_text : (s.calls cs).console.out.text = s.console.out.text
    ++ i.descriptor?.elim "" fun d => s.console.out.taken (successLine d ++ "\n") := by
  rw [out_calls, h.said]
  cases i.descriptor? with
  | none => exact String.append_empty.symm
  | some d => exact Stream.text_put _ _

/-- the text that an injection adds to the error stream -/
theorem Account.err_text (hl : s.console.logger.Silent) :
    (s.calls cs).console.err.text = s.console.err.text
      ++ i.reason?.elim "" fun m => s.console.err.taken (failureLine (.text m) ++ "\n") := by
  rw [err_calls hl h.quiet, h.complaints]
  cases i.reason? with
  | none => exact String.append_empty.symm
  | some m => exact Stream.text_put _ _

/-- an injection whose success got onto the output stream went well, or its flush failed -/
theorem Account.said_or_failed {d : Descriptor} (hi : i.descriptor? = some d)
    (hout : s.console.out.writes ∉ s.console.out.faults.writes) :
    i.reason? = none ∨ s.console.out.FlushFails := by
  obtain ⟨-, hreason⟩ := h.reason_of_descriptor hi
  cases hline : s.console.out.lineFault? with
  | none =>
    rw [hline] at hreason
    exact .inl hreason
  | some e =>
    have hfault := Stream.lineFault?_isSome_iff.mp (Option.isSome_of_eq_some hline)
    exact .inr ⟨hout, hfault.resolve_left hout⟩

end

/-! ## what is printed -/

/-- what the injection of a text adds to the two streams -/
structure Prints (s : Session) (raw : String) (i : Injection) (said complained : String) :
    Prop where
  said_eq : said = "" ∨ said = "[AgentProxy] Successfully injected proxy: " ++ raw ++ "\n"
  complained_eq : complained = "" ∨ ∃ reason, i.reason? = some reason ∧
    complained = "[AgentProxy] Error injecting proxy: " ++ reason ++ "\n"
  success : said ≠ "" → i.ok = true ∨ s.console.out.FlushFails
  line : ¬ (said ≠ "" ∧ s.console.out.FlushFails) →
    AtMostALine (newlines raw + i.reason?.elim 0 newlines) (said ++ complained)

/-- the streams of `t` have these texts more than those of `s` -/
structure Adds (s t : Session) (said complained : String) : Prop where
  out : t.console.out.text = s.console.out.text ++ said
  err : t.console.err.text = s.console.err.text ++ complained

theorem successLine_eq {raw : String} {d : Descriptor} (hd : Descriptor.parse? raw = some d) :
    successLine d = "[AgentProxy] Successfully injected proxy: " ++ raw := by
  have hraw := (Descriptor.parse?_eq_some_iff.mp hd).1
  have hmark : tag ++ " Successfully injected proxy: "
      = "[AgentProxy] Successfully injected proxy: " := rfl
  rw [successLine, hmark, hraw]
  simp only [String.append_assoc]

theorem failureLine_eq (reason : String) :
    failureLine (.text reason) = "[AgentProxy] Error injecting proxy: " ++ reason := rfl

theorem atMostALine_marked {mark text : String} {extra : Nat} (hmark : newlines mark = 0)
    (h : newlines text ≤ extra) : AtMostALine extra (mark ++ text ++ "\n") := by
  refine .inr ⟨_, rfl, ?_⟩
  rw [newlines_append, hmark]
  omega

section
variable {s : Session} {raw : String} {i : Injection} {cs : List Call}
  (h : s.Account (.text raw) i cs)
include h

theorem Account.said_eq {said : String} (hsaid : said = i.descriptor?.elim "" fun d =>
    s.console.out.taken (successLine d ++ "\n")) :
    said = "" ∨ (i.reason? = none ∨ s.console.out.FlushFails) ∧
      said = "[AgentProxy] Successfully injected proxy: " ++ raw ++ "\n" := by
  cases hi : i.descriptor? with
  | none =>
    rw [hi] at hsaid
    exact .inl hsaid
  | some d =>
    rw [hi, Option.elim_some, Stream.taken] at hsaid
    split at hsaid
    · exact .inl hsaid
    · next hwrites =>
      obtain ⟨hd, -⟩ := h.reason_of_descriptor hi
      rw [successLine_eq hd] at hsaid
      exact .inr ⟨h.said_or_failed hi hwrites, hsaid⟩

theorem Account.prints : s.Prints raw i
    (i.descriptor?.elim "" fun d => s.console.out.taken (successLine d ++ "\n"))
    (i.reason?.elim "" fun m => s.console.err.taken (failureLine (.text m) ++ "\n")) := by
  have hsaid := h.said_eq rfl
  generalize (i.descriptor?.elim "" fun d => s.console.out.taken (successLine d ++ "\n")) = said
    at hsaid ⊢
  have hok := i.ok_eq
  cases hreason : i.reason? with
  | none =>
    rw [hreason] at hok
    refine ⟨hsaid.imp_right And.right, .inl rfl, fun _ => .inl hok, fun _ => ?_⟩
    rw [Option.elim_none, String.append_empty]
    rcases hsaid with rfl | ⟨-, rfl⟩
    · exact .inl rfl
    · exact atMostALine_marked (by decide) (Nat.le_add_right _ _)
  | some reason =>
    rw [Option.elim_some]
    have htaken := s.console.err.taken_eq_or (failureLine (.text reason) ++ "\n")
    rw [failureLine_eq] at htaken ⊢
    generalize s.console.err.taken _ = complained at htaken ⊢
    -- the success that comes before a failure is one that was not flushed
    have hfirst : said = "" ∨ s.console.out.FlushFails := by
      refine hsaid.imp_right fun hs => hs.1.resolve_left ?_
      rw [hreason]
      exact Option.some_ne_none reason
    refine ⟨hsaid.imp_right And.right, htaken.imp_right fun he => ⟨reason, hreason, he⟩,
      fun hne => .inr (hfirst.resolve_left hne), fun hline => ?_⟩
    have hempty : said = "" :=
      Decidable.byContradiction fun hne => hline ⟨hne, hfirst.resolve_left hne⟩
    rw [hempty, String.empty_append, hreason, Option.elim_some]
    rcases htaken with rfl | rfl
    · exact .inl rfl
    · exact atMostALine_marked (by decide) (Nat.le_add_left _ _)

end

/-- **The lines of an injection.**  What the injection of a text adds to both streams together is
nothing or one line with its newline at the end, newlines in the argument and in the reason apart,
unless the line of the success was written and its flush failed.  Apart from that case the success
is only on the output stream if the injection went well. -/
theorem apply_prints {s : Session} (hl : s.console.logger.Silent) (raw : String) :
    ∃ i t said complained, s.perform (.apply (.text raw)) = (.ok (.injection i), t) ∧
      s.Adds t said complained ∧ s.Prints raw i said complained := by
  obtain ⟨i, cs, h⟩ := s.exists_account (.text raw)
  refine ⟨i, s.calls cs, _, _, ?_, ⟨h.out_text, h.err_text hl⟩, h.prints⟩
  rw [perform, h.outcome]

/-- properties in a process whose logging is set up at a level -/
def logging (level : Log.Level) : Session where
  store := .properties [] false
  console := {
    directory := { path := "/" }
    logger := ⟨level, false, [{ sink := .stream, template := Log.bareTemplate }]⟩ }

def warning : Session := logging Log.Level.warning

/-- the same where the first line on the output stream is not flushed -/
def unflushed : Session :=
  { warning with console := { warning.console with out := { faults := { flushes := [0] } } } }

/-- the same where the first write fails for a reason of two lines -/
def denied : Session := { warning with faults := [⟨0, .io, .text "no\nentry"⟩] }

theorem apply_prints_unflushed :
    unflushed.console.logger.Silent ∧ ∃ i t said complained,
      unflushed.perform (.apply (.text "h:1")) = (.ok (.injection i), t) ∧
      unflushed.Adds t said complained ∧ unflushed.Prints "h:1" i said complained := by
  have hl : unflushed.console.logger.Silent := .inr (by decide)
  exact ⟨hl, apply_prints hl "h:1"⟩

/-- A newline in the argument is printed, and so is one in the reason of a failure; a success that
is not flushed is printed together with the failure; and records of the logger, once it lets those
below a warning through, stand on the error stream as well. -/
theorem apply_prints_more :
    (¬ ∀ (s : Session) (raw said complained : String), s.console.logger.Silent →
      s.console.out.Healthy → s.console.err.Healthy → s.faults = [] →
      s.Adds (s.apply (.text raw)).2 said complained → AtMostALine 0 (said ++ complained)) ∧
    (¬ ∀ (s : Session) (raw said complained : String), s.console.logger.Silent →
      s.console.out.Healthy → s.console.err.Healthy → newlines raw = 0 →
      s.Adds (s.apply (.text raw)).2 said complained → AtMostALine 0 (said ++ complained)) ∧
    (¬ ∀ (s : Session) (raw said complained : String), s.console.logger.Silent →
      newlines raw = 0 → (s.apply (.text raw)).1.reason?.elim 0 newlines = 0 →
      s.Adds (s.apply (.text raw)).2 said complained →
      AtMostALine 0 (said ++ complained) ∨ (said ≠ "" → (s.apply (.text raw)).1.ok = true)) ∧
    ¬ ∀ (s : Session) (raw said complained : String), s.console.out.Healthy →
      s.console.err.Healthy → s.faults = [] → newlines raw = 0 →
      s.Adds (s.apply (.text raw)).2 said complained → AtMostALine 0 (said ++ complained) := by
  have hl : warning.console.logger.Silent := .inr (by decide)
  refine ⟨fun h => ?_, fun h => ?_, fun h => ?_, fun h => ?_⟩
  · have hadds : warning.Adds (warning.apply (.text "h\n:1")).2
        "[AgentProxy] Successfully injected proxy: h\n:1\n" "" :=
      ⟨by decide +kernel, by decide +kernel⟩
    have hline := (h warning _ _ _ hl ⟨rfl, rfl⟩ ⟨rfl, rfl⟩ rfl hadds).newlines_le
    revert hline
    decide +kernel
  · have hadds : denied.Adds (denied.apply (.text "h:1")).2
        "" "[AgentProxy] Error injecting proxy: no\nentry\n" :=
      ⟨by decide +kernel, by decide +kernel⟩
    have hline := (h denied _ _ _ hl ⟨rfl, rfl⟩ ⟨rfl, rfl⟩ (by decide) hadds).newlines_le
    revert hline
    decide +kernel
  · have hadds : unflushed.Adds (unflushed.apply (.text "h:1")).2
        "[AgentProxy] Successfully injected proxy: h:1\n"
        "[AgentProxy] Error injecting proxy: broken pipe\n" :=
      ⟨by decide +kernel, by decide +kernel⟩
    rcases h unflushed _ _ _ hl (by decide) (by decide +kernel) hadds with hline | hok
    · have hle := hline.newlines_le
      revert hle
      decide +kernel
    · have hfailed : (unflushed.apply (.text "h:1")).1.ok = false := by decide +kernel
      rw [hfailed] at hok
      exact absurd (hok (by decide)) Bool.false_ne_true
  · have hadds : (logging Log.Level.debug).Adds ((logging Log.Level.debug).apply (.text "h:1")).2
        "[AgentProxy] Successfully injected proxy: h:1\n"
        ("http.proxyHost=h\nhttp.proxyPort=1\nhttps.proxyHost=h\nhttps.proxyPort=1\n"
          ++ "http.nonProxyHosts=\nProxy properties now point to h:1\n") :=
      ⟨by decide +kernel, by decide +kernel⟩
    have hline := (h _ _ _ _ ⟨rfl, rfl⟩ ⟨rfl, rfl⟩ rfl (by decide) hadds).newlines_le
    revert hline
    decide +kernel

end Session

end ProxyInjector
