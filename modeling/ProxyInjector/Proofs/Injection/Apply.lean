import ProxyInjector.Proofs.Injection.Outcome

/-!
# What an injection leaves behind

* `apply_text_overlays`   the store after the injection of a text: nothing is attempted without
                          exactly one colon, and with one the entries stand in the store up to the
                          first whose write fails, whatever the streams do;
* `apply_reports`         an injection never ends in a fault, says at most one line on each
                          stream, and its reason is the first fault that it met.

Both read the account of the injection, and what the account says of its calls is found again in
the session afterwards.
-/

namespace ProxyInjector.Session

open Injection

/-! ## the store -/

/-- an injection that attempts nothing -/
structure Idle (s : Session) (i : Injection) (cs : List Call) : Prop where
  outcome : i.ok = true ∧ i.descriptor? = none ∧ i.reason? = none
  attempted : Call.sets cs = [] ∧ Call.said cs = [] ∧ Call.complaints cs = []
  writes : (s.calls cs).writes = s.writes
  store : (s.calls cs).store = s.store
  out : (s.calls cs).console.out = s.console.out
  err : s.console.logger.Silent → (s.calls cs).console.err = s.console.err

/-- an injection of `host` and `port` that gets the entries `made` into the store and not the
entries `rest` -/
structure Overlaid (s : Session) (host port : String) (made rest : List (String × String))
    (i : Injection) (cs : List Call) : Prop where
  cut : s.Cut [("http.proxyHost", host), ("http.proxyPort", port), ("https.proxyHost", host),
    ("https.proxyPort", port), ("http.nonProxyHosts", "")] made rest
  attempted : Call.sets cs = made ++ rest.take 1
  writes : (s.calls cs).writes = s.writes + (made ++ rest.take 1).length
  store : (s.calls cs).store = s.store.overlay made
  written : ∀ e ∈ made, (s.calls cs).store.entries.get? (.text e.1) = some (.text e.2)
  kept : ∀ key, (∀ e ∈ made, key ≠ .text e.1) →
    (s.calls cs).store.entries.get? key = s.store.entries.get? key
  descriptor : i.descriptor? = if rest = [] then some ⟨host, port⟩ else none

theorem Account.idle {s : Session} {raw : Value} {i : Injection} {cs : List Call}
    (h : s.Account raw i cs) (hd : raw.descriptor? = none) (hf : s.firstFault? raw = none) :
    s.Idle i cs := by
  have hdesc : i.descriptor? = none := by rw [h.descriptor, injected?, hd]; rfl
  have hreason : i.reason? = none := by rw [h.reason, hf]; rfl
  have hsets : Call.sets cs = [] := by rw [h.sets, attempts, hd]
  have hsaid : Call.said cs = [] := by rw [h.said, hdesc]; rfl
  have hcomplaints : Call.complaints cs = [] := by rw [h.complaints, hreason]; rfl
  refine ⟨⟨by rw [ok_eq, hreason]; rfl, hdesc, hreason⟩, ⟨hsets, hsaid, hcomplaints⟩, ?_, ?_, ?_, ?_⟩
  · rw [writes_calls, hsets]
    rfl
  · rw [store_calls, hsets]
    rfl
  · rw [out_calls, hsaid]
    rfl
  · intro hl
    rw [err_calls hl h.quiet, hcomplaints]
    rfl

theorem nodup_keys (d : Descriptor) : (d.entries.map (·.1)).Nodup :=
  show [Key.httpHost, Key.httpPort, Key.httpsHost, Key.httpsPort, Key.exemptHosts].Nodup by decide

theorem Account.overlaid {s : Session} {raw : String} {i : Injection} {cs : List Call}
    (h : s.Account (.text raw) i cs) {d : Descriptor} (hd : Descriptor.parse? raw = some d)
    {made rest : List (String × String)} (hcut : s.Cut d.entries made rest) :
    s.Overlaid d.host d.port made rest i cs := by
  have hsets : Call.sets cs = made ++ rest.take 1 := by rw [h.sets, attempts_of_cut hd hcut]
  have hstore : (s.calls cs).store = s.store.overlay made := by
    rw [store_calls, hsets, hcut.taken_eq]
  have hkeys : (made.map (·.1)).Nodup := by
    have hn := nodup_keys d
    rw [hcut.eq, List.map_append] at hn
    exact (List.nodup_append.mp hn).1
  refine ⟨hcut, hsets, by rw [writes_calls, hsets], hstore, ?_, ?_, ?_⟩
  · intro e he
    rw [hstore]
    exact Store.get?_overlay_of_mem hkeys he s.store
  · intro key hkey
    rw [hstore]
    exact Store.get?_overlay_of_ne hkey s.store
  · rw [h.descriptor]
    cases rest with
    | nil => exact injected?_of_cut_nil hd hcut
    | cons e rest =>
      obtain ⟨f, hf⟩ := Option.isSome_iff_exists.mp (hcut.stops e rfl)
      exact injected?_of_cut_cons hd hcut hf

section
variable {s : Session} {entries : Table}

/-- no fault is scheduled for the next five writes -/
theorem clear_of_faults (hstore : s.store = .properties entries false)
    (hfaults : ∀ f ∈ s.faults, f.write < s.writes ∨ s.writes + 5 ≤ f.write) (d : Descriptor) :
    s.Clear d.entries := by
  rintro ⟨e, n⟩ hx
  have hn : s.writes ≤ n ∧ n < s.writes + 5 := by
    have hlt := List.snd_lt_add_of_mem_zipIdx hx
    have hle := List.le_snd_of_mem_zipIdx hx
    exact ⟨hle, hlt⟩
  have hnone : s.scheduled? n = none := by
    rw [scheduled?, List.find?_eq_none]
    intro f hf
    have := hfaults f (List.mem_reverse.mp hf)
    rw [beq_iff_eq]
    omega
  simp only [faultAt?, hnone, hstore]
  rfl

variable (hstore : s.store = .properties entries false)
  (hfaults : ∀ f ∈ s.faults, f.write < s.writes ∨ s.writes + 5 ≤ f.write)
  {raw : String} {d : Descriptor} (hd : Descriptor.parse? raw = some d)
include hstore hfaults hd

/-- with no fault in the way all entries get into the store -/
theorem exists_overlaid :
    ∃ i cs, s.Account (.text raw) i cs ∧ s.Overlaid d.host d.port d.entries [] i cs := by
  have hcut : s.Cut d.entries d.entries [] :=
    ⟨(List.append_nil _).symm, clear_of_faults hstore hfaults d, by simp⟩
  obtain ⟨i, cs, h⟩ := s.exists_account (.text raw)
  exact ⟨i, cs, h, h.overlaid hd hcut⟩

theorem apply_eq_done (hline : s.console.out.lineFault? = none) :
    ∃ cs, s.apply (.text raw) = (.done d, s.calls cs) ∧
      s.Overlaid d.host d.port d.entries [] (.done d) cs := by
  obtain ⟨i, cs, h, ho⟩ := exists_overlaid hstore hfaults hd
  have hreason : i.reason? = none := by
    rw [h.reason, firstFault?_of_cut_nil hd ho.cut, hline]
    rfl
  obtain rfl : i = .done d := ext_parts (ho.descriptor.trans (if_pos rfl)) hreason
  exact ⟨cs, h.outcome, ho⟩

end

/-- **The store after an injection.**  Without exactly one colon in its text nothing is attempted.
With one, the five entries are written in order up to the first whose write fails, those that were
written stay, and the outcome has the descriptor exactly if all of them were. -/
theorem apply_text_overlays (s : Session) (raw : String) :
    ∃ i cs, s.apply (.text raw) = (i, s.calls cs) ∧
      (raw.toList.count ':' ≠ 1 → s.Idle i cs) ∧
      (raw.toList.count ':' = 1 → ∃ host port made rest, raw = host ++ ":" ++ port ∧
        s.Overlaid host port made rest i cs) := by
  obtain ⟨i, cs, h⟩ := s.exists_account (.text raw)
  refine ⟨i, cs, h.outcome, fun hn => ?_, fun h1 => ?_⟩
  · have hd := Descriptor.parse?_eq_none_iff.mpr hn
    refine h.idle hd ?_
    simp only [firstFault?, obstacles, hd]
    rfl
  · obtain ⟨d, hd⟩ := Option.isSome_iff_exists.mp (Descriptor.parse?_isSome_iff.mpr h1)
    obtain ⟨made, rest, hcut⟩ := s.exists_cut d.entries
    exact ⟨d.host, d.port, made, rest, (Descriptor.parse?_eq_some_iff.mp hd).1, h.overlaid hd hcut⟩

/-- an environment, an output stream that takes nothing, and an error stream that cannot be
flushed -/
def clogged : Session where
  store := .environment [("http.proxyPort", "80")]
  console := { directory := { path := "/" }, out := { faults := { writes := [0] } }
               err := { faults := { flushes := [0] } } }

/-- the environment does not take the NUL in the port -/
theorem apply_text_overlays_clogged :
    "h:\x00".toList.count ':' = 1 ∧ ∃ i cs host port made rest,
      clogged.apply (.text "h:\x00") = (i, clogged.calls cs) ∧ "h:\x00" = host ++ ":" ++ port ∧
        clogged.Overlaid host port made rest i cs := by
  have h1 : "h:\x00".toList.count ':' = 1 := by decide
  obtain ⟨i, cs, h, -, hone⟩ := apply_text_overlays clogged "h:\x00"
  obtain ⟨host, port, made, rest, heq, ho⟩ := hone h1
  exact ⟨h1, i, cs, host, port, made, rest, h, heq, ho⟩

/-! ## the streams -/

/-- what an injection says on the streams, and why it fails -/
structure Reported (s : Session) (raw : Value) (i : Injection) (cs : List Call) : Prop where
  descriptor : i.descriptor? = s.injected? raw
  said : Call.said cs = i.descriptor?.toList.map fun d =>
    "[AgentProxy] Successfully injected proxy: " ++ d.host ++ ":" ++ d.port ++ "\n"
  out : (s.calls cs).console.out = (Call.said cs).foldl Stream.put s.console.out
  reason : i.reason? = ((s.obstacles raw).findSome? id).map Fault.message
  ok : i.ok = i.reason?.isNone
  complaints : Call.complaints cs = i.reason?.toList.map fun reason =>
    "[AgentProxy] Error injecting proxy: " ++ reason ++ "\n"
  err : s.console.logger.Silent →
    (s.calls cs).console.err = (Call.complaints cs).foldl Stream.put s.console.err

theorem Account.reported {s : Session} {raw : Value} {i : Injection} {cs : List Call}
    (h : s.Account raw i cs) : s.Reported raw i cs where
  descriptor := h.descriptor
  said := h.said
  out := out_calls s cs
  reason := h.reason
  ok := ok_eq i
  complaints := h.complaints
  err hl := err_calls hl h.quiet

/-- once its entries are written, an injection fails by the fault of its line, if there is one -/
theorem Account.reason_of_descriptor {s : Session} {raw : Value} {i : Injection} {cs : List Call}
    (h : s.Account raw i cs) {d : Descriptor} (hi : i.descriptor? = some d) :
    raw.descriptor? = some d ∧
      i.reason? = (s.console.out.lineFault?.map .stream).map Fault.message := by
  obtain ⟨hd, -⟩ := Option.filter_eq_some_iff.mp (h.descriptor.symm.trans hi)
  refine ⟨hd, ?_⟩
  cases raw with
  | text text =>
    obtain ⟨made, rest, hcut⟩ := s.exists_cut d.entries
    cases rest with
    | nil => rw [h.reason, firstFault?_of_cut_nil hd hcut]
    | cons e rest =>
      obtain ⟨f, hf⟩ := Option.isSome_iff_exists.mp (hcut.stops e rfl)
      rw [h.descriptor, injected?_of_cut_cons hd hcut hf] at hi
      cases hi
  | _ => cases hd

/-- an injection without a fault has had its line written -/
theorem lineFault?_of_done {s : Session} {raw : Value} {d : Descriptor}
    (h : (s.apply raw).1 = .done d) : s.console.out.lineFault? = none := by
  obtain ⟨i, cs, ha⟩ := s.exists_account raw
  rw [ha.outcome] at h
  obtain rfl : i = .done d := h
  have hreason := (ha.reason_of_descriptor (d := d) rfl).2
  exact Option.map_eq_none_iff.mp (Option.map_eq_none_iff.mp hreason.symm)

theorem out_of_done {s : Session} {raw : Value} {d : Descriptor} (h : (s.apply raw).1 = .done d) :
    (s.apply raw).2.console.out = s.console.out.put (successLine d ++ "\n") := by
  obtain ⟨i, cs, ha⟩ := s.exists_account raw
  rw [ha.outcome] at h ⊢
  obtain rfl : i = .done d := h
  rw [out_calls, ha.said]
  rfl

/-- **The report of an injection.**  No fault gets out of an injection.  Its success goes to the
output stream once all five writes succeeded, the first fault to the error stream, and what
becomes of the error stream changes neither the outcome nor the store. -/
theorem apply_reports (s : Session) (raw : Value) :
    ∃ i cs, s.perform (.apply raw) = (.ok (.injection i), s.calls cs) ∧ s.Reported raw i cs ∧
      ∀ err, let t := { s with console := { s.console with err } }
        (t.apply raw).1 = i ∧ (t.apply raw).2.store = (s.calls cs).store := by
  obtain ⟨i, cs, h⟩ := s.exists_account raw
  refine ⟨i, cs, ?_, h.reported, fun err => ?_⟩
  · rw [perform, h.outcome]
  · -- the account of the other session says the same, since none of its parts looks at the stream
    obtain ⟨j, ds, h'⟩ := exists_account { s with console := { s.console with err } } raw
    dsimp only
    rw [h'.outcome]
    constructor
    · exact ext_parts (h'.descriptor.trans h.descriptor.symm) (h'.reason.trans h.reason.symm)
    · rw [store_calls, store_calls, h.sets, h'.sets]
      rfl

/-- both streams fail, and the log is not set up -/
theorem apply_reports_clogged :
    clogged.console.logger.Silent ∧ ∃ i cs,
      clogged.perform (.apply (.text "h:1")) = (.ok (.injection i), clogged.calls cs) ∧
      (clogged.calls cs).console.err = (Call.complaints cs).foldl Stream.put clogged.console.err := by
  have hl : clogged.console.logger.Silent := .inl (List.forall_mem_singleton.mpr rfl)
  obtain ⟨i, cs, h, hr, -⟩ := apply_reports clogged (.text "h:1")
  exact ⟨hl, i, cs, h, hr.err hl⟩

end ProxyInjector.Session
