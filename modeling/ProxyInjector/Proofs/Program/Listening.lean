import ProxyInjector.Proofs.Address
import ProxyInjector.Proofs.CommandLine.Spelled
import ProxyInjector.Proofs.Program.Flags
import ProxyInjector.Proofs.Program.Run

/-!
# Listening addresses

A run may be given the address that a proxy listens on, and injects the descriptor of that address
as text.  The text has lost the brackets of the address, and is no descriptor any more if there are
colons that they protected: such a run injects nothing and ends as if all were well.

* `ProcessState.Listens`        the run takes an address to be listened on, for the properties;
* `ProcessState.listens_words`  a command line of that kind, for every address;
* `ProcessState.main_listens`   for which addresses such a run injects their descriptors.
-/

namespace ProxyInjector.Program

open CommandLine

/-! ## a command line

`--from-address -- ADDRESS`, read step by step: behind the double dash the address is an argument
whatever it looks like. -/

def listeningWords (address : String) : Value :=
  .list [.text "--from-address", .text "--", .text address]

/-- what stands behind the switch -/
def behindSwitch (address : String) : List Argument := [(.text "--", .bar), (.text address, .plain)]

def givenSwitch : Argument :=
  (.text "--from-address", .option ⟨some (addressFlag, 7), "--from-address", none⟩)

def withAddress (address : String) (slots : Slots) : Slots :=
  (slots.put "from_address" { value := .bool true }).put "proxy" { value := .text address }

/-- the values once the texts among the defaults are converted -/
def settled (address : String) : Slots where
  entries := [("proxy", ⟨.text address, none⟩), ("version", ⟨.bool false, some 2⟩),
    ("log_level", ⟨.text "WARNING", none⟩), ("log_file", ⟨.null, some 4⟩),
    ("log_format", ⟨.text Log.standardTemplate, none⟩), ("store", ⟨.text propertiesName, none⟩),
    ("from_address", ⟨.bool true, none⟩), ("shell", ⟨.bool false, some 8⟩)]

theorem positionals_eq : parser.positionals = [(proxyFlag, 1)] := by cbv

theorem recognizeAll_listening (address : String) :
    parser.recognizeAll [.text "--from-address", .text "--", .text address]
      = .ok (givenSwitch :: behindSwitch address) := rfl

theorem takePositionals_address (address : String) (slots : Slots) (seen : List Nat) :
    Progress.takePositionals { slots, seen, pending := [(proxyFlag, 1)] } (behindSwitch address)
      = .ok ({
          slots := slots.put "proxy" { value := .text address }
          seen := 1 :: seen
          pending := [] }, []) := by
  have hcounts : partialCounts [proxyFlag.arity] (Progress.marks (behindSwitch address)) = [2] := by
    show partialCounts [.optional] [.bar, .plain] = [2]
    decide
  have hvalue : proxyFlag.value [.text "--", .text address] = .ok (some (.text address)) := rfl
  have htake (s : Progress) : s.take (proxyFlag, 1) [.text "--", .text address]
      = .ok { s with
          slots := s.slots.put "proxy" { value := .text address }
          seen := 1 :: s.seen } := by
    simp only [Progress.take, hvalue]
    rfl
  simp only [Progress.takePositionals, List.map_cons, List.map_nil, hcounts]
  show (do let t ← Progress.takeEach _ [((proxyFlag, 1), [.text "--", .text address])]; _) = _
  simp only [Progress.takeEach, htake]
  rfl

/-- options written out, and the address behind the double dash -/
theorem takeAll_spelled {ss : List Spelling} (hss : ∀ s ∈ ss, s.Valid parser) (address : String)
    (slots : Slots) :
    parser.takeAll { slots, pending := [(proxyFlag, 1)] }
        (ss.map Spelling.argument ++ behindSwitch address)
      = .ok {
          slots := slots.assign (ss.map Spelling.sets ++ [("proxy", .text address)])
          pending := []
          seen := 1 :: (ss.map fun s => s.flag.2).reverse } := by
  have hbehind : (behindSwitch address).all Parser.isPlain = true := rfl
  have hlength : (ss.map Spelling.argument ++ behindSwitch address).length + 1
      = 3 + ss.length := by
    rw [List.length_append, List.length_map]
    show ss.length + 2 + 1 = 3 + ss.length
    omega
  unfold Parser.takeAll
  rw [hlength, Parser.takeAllFrom_spellings parser_simple hss]
  unfold Parser.takeAllFrom
  rw [if_pos hbehind, takePositionals_address, Slots.assign_append, List.append_nil]
  rfl

theorem takeAll_listening (address : String) (slots : Slots) :
    parser.takeAll { slots, pending := [(proxyFlag, 1)] } (givenSwitch :: behindSwitch address)
      = .ok {
          slots := withAddress address slots
          pending := []
          seen := [1, 7] } := by
  have hswitch : Spelling.Valid parser ⟨(addressFlag, 7), "--from-address", none⟩ :=
    .switch rfl (by decide) ⟨rfl, rfl⟩
  exact takeAll_spelled (List.forall_mem_singleton.mpr hswitch) address slots

theorem settle_listening (address : String) :
    Parser.settle parser.flags.zipIdx [1, 7] (withAddress address parser.defaults) []
      = .ok (settled address, []) := by
  rfl

theorem step_ok {α : Type} (slots : Slots) (x : α) : slots.step (.ok x) = .ok x := rfl

theorem readSlots_listening (address : String) :
    parser.readSlots [.text "--from-address", .text "--", .text address]
      = .ok (settled address) := by
  have htargets : parser.checkTargets = .ok () := rfl
  simp only [Parser.readSlots, htargets, recognizeAll_listening, positionals_eq, step_ok, bind,
    Except.bind, takeAll_listening, settle_listening]
  rfl

theorem readOptions_listening (address : String) (c : Console) :
    readOptions (listeningWords address) c
      = (.ok (Options.ofValues (settled address).entries.fields), c) := by
  simp only [readOptions, readValues, listeningWords, Parser.wordsOf, Flag.parts, Parser.read,
    readSlots_listening]
  rfl

namespace ProcessState

/-- the options of the run say that `address` is listened on, and name the properties -/
def Listens (p : ProcessState) (call : Invocation) (address : String) : Prop :=
  ∃ words o c, call.words = .ok words ∧ prepare words call.values p.console = (.ok o, c) ∧
    o.proxy = .text address ∧ o.fromAddress.truthy = true ∧ o.store = .text propertiesName

theorem listens_words {p : ProcessState} (h : p.console.logger.Closable) (address : String) :
    p.Listens { args := listeningWords address } address := by
  obtain ⟨c, hprepare⟩ : ∃ c, prepare (listeningWords address) [] p.console
      = (.ok (Options.ofValues (settled address).entries.fields), c) := by
    simp only [prepare, readOptions_listening, Console.configureLog_of_closable h]
    exact ⟨_, rfl⟩
  exact ⟨_, _, c, rfl, hprepare, rfl, rfl, rfl⟩

variable {p : ProcessState} {call : Invocation} {address : String}

theorem attempt?_of_listens (h : p.Listens call address) :
    ∃ console shell, p.attempt? call = some
      ⟨{ p with console }, .properties, .text (Descriptor.ofAddress address).toString, shell⟩ := by
  obtain ⟨words, o, c, hwords, hprepare, hproxy, hfrom, hstore⟩ := h
  let derived := (Descriptor.ofAddress address).toString
  have hderived : proxyOf o c
      = (.ok (.text derived), c.emit (derivedRecord derived address)) := by
    simp only [proxyOf, hproxy, hfrom]
    rfl
  have hresolve : Target.resolve o.store = .ok .properties := by
    rw [hstore]
    rfl
  refine ⟨c.emit (derivedRecord derived address), o.shell, ?_⟩
  simp only [attempt?, hwords, hprepare, aim?, hproxy, hderived, hresolve, derived]

/-- **Listening addresses.**  Where all is well, a run that is given an address to listen on
injects the descriptor of the address, unless there are colons left in it. -/
theorem main_listens (h : p.Listens call address) (hfrozen : p.frozen = false)
    (hout : p.console.out.Healthy) {host port : String}
    (ha : Address.split? address = .ok (host, port)) :
    let d := Descriptor.ofAddress address
    let plain := (':' ∈ host.toList → host = "::") ∧ ':' ∉ port.toList
    (plain → ∃ q, p.main call = (.ok (.done d), q) ∧
      (∀ e ∈ d.entries, q.properties.get? (.text e.1) = some (.text e.2)) ∧
      ∀ key, (∀ e ∈ d.entries, key ≠ .text e.1) → q.properties.get? key = p.properties.get? key) ∧
    (¬ plain → ∃ q, p.main call = (.ok .skipped, q) ∧ q.properties = p.properties) ∧
    (Descriptor.parse? d.toString = some d ↔ plain) ∧
    (address.toList.head? ≠ some '[' → plain) := by
  intro d plain
  have hplain : d.Plain ↔ plain := Descriptor.plain_ofAddress_iff ha
  obtain ⟨console, shell, hattempt⟩ := attempt?_of_listens h
  refine ⟨fun hp => ?_, fun hn => ?_, ?_, fun hb => ?_⟩
  · have hd : Descriptor.parse? d.toString = some d :=
      Descriptor.parse?_toString_eq_some_iff.mpr (hplain.mpr hp)
    exact main_injects hattempt rfl hfrozen hout rfl hd
  · have hd : Descriptor.parse? d.toString = none :=
      Descriptor.parse?_toString_of_not_plain (mt hplain.mp hn)
    exact main_skips hattempt rfl hfrozen hout rfl hd
  · exact Descriptor.parse?_toString_eq_some_iff.trans hplain
  · obtain ⟨hhost, hport⟩ := Address.not_mem_of_split? ha hb
    exact ⟨fun hc => absurd hc hhost, hport⟩

/-- a machine with an old proxy, told that the new one listens on all interfaces -/
def relayed : ProcessState :=
  { properties := [(.text "http.proxyHost", .text "old")]
    console := { directory := { path := "/" } } }

theorem main_listens_relayed :
    relayed.Listens { args := listeningWords "[::]:8899" } "[::]:8899" ∧
    Address.split? "[::]:8899" = .ok ("::", "8899") ∧
    ∃ q, relayed.main { args := listeningWords "[::]:8899" }
        = (.ok (.done ⟨"127.0.0.1", "8899"⟩), q) ∧
      q.properties.get? (.text "http.proxyHost") = some (.text "127.0.0.1") := by
  have hl := listens_words (p := relayed) (by decide) "[::]:8899"
  have ha : Address.split? "[::]:8899" = .ok ("::", "8899") := rfl
  have hd : Descriptor.ofAddress "[::]:8899" = ⟨"127.0.0.1", "8899"⟩ := by decide
  obtain ⟨q, hmain, hentries, -⟩ := (main_listens hl rfl ⟨rfl, rfl⟩ ha).1 (by decide)
  rw [hd] at hmain hentries
  exact ⟨hl, ha, q, hmain, hentries _ List.mem_cons_self⟩

/-- the colons of a host that stands for one machine are still there -/
theorem main_listens_skipped :
    ¬ ∀ (p : ProcessState) (call : Invocation) (address host port : String),
      p.Listens call address → p.frozen = false → p.console.out.Healthy →
      Address.split? address = .ok (host, port) →
      ∃ q, p.main call = (.ok (.done (Descriptor.ofAddress address)), q) := by
  intro h
  obtain ⟨q, hmain⟩ := h relayed { args := listeningWords "[::1]:8899" } "[::1]:8899" "::1" "8899"
    (listens_words (by decide) _) rfl ⟨rfl, rfl⟩ rfl
  have hskipped : (relayed.main { args := listeningWords "[::1]:8899" }).1.toOption
      = some .skipped := by decide +kernel
  rw [hmain] at hskipped
  cases hskipped

end ProcessState

end ProxyInjector.Program
