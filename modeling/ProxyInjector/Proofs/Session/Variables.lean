import ProxyInjector.Proofs.Session.Kinds

/-!
# Setting a variable

A session whose store is the environment of the process sets a variable completely or not at all.

* `Table.Takes`              one entry of a table is replaced in its place, or comes in at the end.
                             That is all that `Table.put` does to a text key (`takes_put`);
* `Environment.Forbids`      the texts that no variable can be made of.  For a name that is not
                             empty this is what does not fit into an environment (`fits_iff`), and
                             `Environment.check_of_forbids` gives the objection;
* `Session.set_environment`  what setting a variable comes to: a rejection of its name that leaves
                             everything as it is, or that one variable and no other.
-/

namespace ProxyInjector

/-! ## one entry of a table -/

/-- the second table is the first with that value under the key, and the same in all else -/
inductive Table.Takes (key value : Value) : Table → Table → Prop
  | replaced (before : Table) (old : Value) (behind : Table) (hfirst : ∀ e ∈ before, e.1 ≠ key) :
    Takes key value (before ++ (key, old) :: behind) (before ++ (key, value) :: behind)
  | added (t : Table) (hnew : ∀ e ∈ t, e.1 ≠ key) : Takes key value t (t ++ [(key, value)])

theorem Table.takes_put (t : Table) (key : String) (value : Value) :
    Takes (.text key) value t (t.put (.text key) value) := by
  induction t with
  | nil => exact .added [] (by simp)
  | cons e t ih =>
    rw [put]
    split
    · next h =>
      have hkey : e = (.text key, e.2) := Prod.ext (Value.same_text_iff.mp h) rfl
      rw [hkey]
      exact .replaced [] e.2 t (by simp)
    · next h =>
      have hne : e.1 ≠ .text key := fun he => h (Value.same_text_iff.mpr he)
      generalize Table.put t (.text key) value = t' at ih
      cases ih with
      | replaced before old behind hfirst =>
        exact .replaced (e :: before) old behind (List.forall_mem_cons.mpr ⟨hne, hfirst⟩)
      | added _ hnew => exact .added (e :: t) (List.forall_mem_cons.mpr ⟨hne, hnew⟩)

namespace Environment

/-! ## texts that make no variable -/

/-- an equals sign in the name, or a NUL anywhere -/
def Forbids (name value : String) : Prop :=
  '=' ∈ name.toList ∨ '\x00' ∈ name.toList ∨ '\x00' ∈ value.toList

/-- what an environment says of texts that it forbids: a NUL comes before an equals sign -/
def objection (name value : String) : String :=
  if '\x00' ∈ name.toList ∨ '\x00' ∈ value.toList then "embedded null byte"
  else "illegal environment variable name"

theorem fits_iff {name : String} (hname : name ≠ "") {value : String} :
    Fits (name, value) ↔ ¬ Forbids name value := by
  rw [Fits, Forbids, not_or, not_or]
  exact and_iff_right hname

theorem check_of_forbids {name value : String} (h : Forbids name value) :
    ∃ f, check (.text name) (.text value) = .error f ∧ f.message = objection name value ∧
      f.label = "ValueError" := by
  rw [check, objection]
  by_cases hnull : '\x00' ∈ name.toList ∨ '\x00' ∈ value.toList
  · have htest : hasNull name || hasNull value := by
      rwa [Bool.or_eq_true, hasNull_iff, hasNull_iff]
    rw [if_pos htest, if_pos hnull]
    exact ⟨_, rfl, rfl, rfl⟩
  · have htest : ¬ (hasNull name || hasNull value) := by
      rwa [Bool.or_eq_true, hasNull_iff, hasNull_iff]
    have hequals : name.toList.contains '=' := List.contains_iff_mem.mpr (h.resolve_right hnull)
    rw [if_neg htest, if_pos hequals, if_neg hnull]
    exact ⟨_, rfl, rfl, rfl⟩

end Environment

/-- the environment's own objection becomes the reason for which the name is rejected -/
theorem Store.refusal?_of_forbids (contents : Environment) {name value : String}
    (h : Environment.Forbids name value) :
    (Store.environment contents).refusal? (name, value)
      = some (.rejected (.text name) (.text (Environment.objection name value))) := by
  obtain ⟨f, hcheck, hmessage, hlabel⟩ := Environment.check_of_forbids h
  have hunsuited : (Fault.variable f).isUnsuited = true := by
    rw [Fault.isUnsuited, Fault.label, hlabel]
    decide
  simp only [refusal?, hcheck, rejection, if_pos hunsuited, Fault.message, hmessage]

/-- what is read under other keys than the one that is written -/
theorem Store.get_environment_put (contents : Environment) {key : Value} {name : String}
    (hkey : key ≠ .text name) (value : String) (default : Value) :
    (Store.environment (contents.put name value)).get key default
      = (Store.environment contents).get key default := by
  cases key with
  | text other =>
    have hne : name ≠ other := fun h => hkey (by rw [h])
    simp only [get, Environment.get?_put, if_neg hne]
  | _ => rfl

namespace Session

section
variable {s : Session} {contents : Environment} (hstore : s.store = .environment contents)
  (hclear : s.nextFault? = none) {name value : String}
include hstore hclear

theorem faultAt?_environment (e : String × String) :
    s.faultAt? s.writes e = (Store.environment contents).refusal? e := by
  have hnone : s.scheduled? s.writes = none := hclear
  rw [faultAt?, hnone, hstore]

theorem set_of_forbids (h : Environment.Forbids name value) :
    s.set (.text name) (.text value)
      = (.error (.rejected (.text name) (.text (Environment.objection name value))),
          { s with writes := s.writes + 1 }) := by
  refine set_of_fault (e := (name, value)) ?_
  rw [faultAt?_environment hstore hclear, Store.refusal?_of_forbids contents h]

theorem set_of_fits (h : Environment.Fits (name, value)) :
    s.set (.text name) (.text value) = (.ok (), { s with
      store := .environment (contents.put name value)
      console := s.console.emit (Store.writeRecord (.text name) (.text value)) .variables
      writes := s.writes + 1 }) := by
  have htakes : s.faultAt? s.writes (name, value) = none := by
    rw [faultAt?_environment hstore hclear]
    exact Store.refusal?_environment_eq_none_iff.mpr h
  have hset := set_of_clear htakes
  rwa [hstore] at hset

end

/-- **Setting a variable is atomic.**  For a name that is not empty, the environment of the process
rejects the variable if and only if the name has an equals sign or one of the two texts a NUL.  Then
the fault names the variable and gives the environment's reason, and nothing is changed.  Otherwise
the variable is there afterwards, and every other is as it was. -/
theorem set_environment {s : Session} {contents : Environment}
    (hstore : s.store = .environment contents) (hclear : s.nextFault? = none)
    {name : String} (hname : name ≠ "") (value : String) :
    let r := s.set (.text name) (.text value)
    let reason := Environment.objection name value
    ((∃ f, r.1 = .error f) ↔ Environment.Forbids name value) ∧
      (Environment.Forbids name value → ∃ f : Fault,
        r = (.error f, { s with writes := s.writes + 1 }) ∧
        f = .rejected (.text name) (.text reason) ∧
        f.label = "ConfigStoreError" ∧ f.message = name ++ " " ++ reason) ∧
      (¬ Environment.Forbids name value → r.1 = .ok () ∧
        (∀ default, r.2.store.get (.text name) default = .ok (.text value)) ∧
        (∀ key, key ≠ .text name → ∀ default,
          r.2.store.get key default = s.store.get key default) ∧
        Table.Takes (.text name) (.text value) s.store.entries r.2.store.entries) := by
  intro r reason
  by_cases hforbids : Environment.Forbids name value
  · have hset : r = _ := set_of_forbids hstore hclear hforbids
    exact ⟨iff_of_true ⟨_, congrArg Prod.fst hset⟩ hforbids, fun _ => ⟨_, hset, rfl, rfl, rfl⟩,
      fun h => absurd hforbids h⟩
  · have hset : r = _ := set_of_fits hstore hclear ((Environment.fits_iff hname).mpr hforbids)
    have hok : r.1 = .ok () := congrArg Prod.fst hset
    have hwritten : r.2.store = .environment (contents.put name value) := by rw [hset]
    refine ⟨iff_of_false ?_ hforbids, fun h => absurd h hforbids, fun _ => ⟨hok, ?_, ?_, ?_⟩⟩
    · rintro ⟨f, hf⟩
      rw [hok] at hf
      cases hf
    · intro default
      simp only [hwritten, Store.get, Environment.get?_put, if_true, Option.map_some,
        Option.getD_some]
    · intro key hkey default
      rw [hwritten, hstore, Store.get_environment_put contents hkey]
    · have hentries : r.2.store.entries = s.store.entries.put (.text name) (.text value) := by
        rw [hwritten, hstore]
        exact Store.entries_write (.environment contents) (name, value)
      rw [hentries]
      exact Table.takes_put _ _ _

/-- a variable that breaks both rules, and one that is there already -/
theorem set_environment_twice :
    let s : Session :=
      { store := .environment [("PATH", "/bin"), ("http.proxyHost", "h")], console := faltering }
    let broken := s.set (.text "a=b") (.text "\x00")
    let replaced := s.set (.text "PATH") (.text "=")
    s.nextFault? = none ∧ "a=b" ≠ "" ∧ "PATH" ≠ "" ∧
      Environment.Forbids "a=b" "\x00" ∧ ¬ Environment.Forbids "PATH" "=" ∧
      (∃ f, broken.1 = .error f ∧ f.label = "ConfigStoreError" ∧
        f.message = "a=b embedded null byte") ∧
      broken.2.store.entries = s.store.entries ∧
      replaced.1 = .ok () ∧
      Table.Takes (.text "PATH") (.text "=") s.store.entries replaced.2.store.entries := by
  intro s broken replaced
  have hbroken : Environment.Forbids "a=b" "\x00" := Or.inl (by decide)
  have hreplaced : ¬ Environment.Forbids "PATH" "=" := by simp [Environment.Forbids]
  obtain ⟨-, hrejects, -⟩ := set_environment (s := s) rfl rfl (show "a=b" ≠ "" by decide) "\x00"
  obtain ⟨-, -, hsets⟩ := set_environment (s := s) rfl rfl (show "PATH" ≠ "" by decide) "="
  obtain ⟨f, hset, -, hlabel, hmessage⟩ := hrejects hbroken
  obtain ⟨hok, -, -, htakes⟩ := hsets hreplaced
  refine ⟨rfl, by decide, by decide, hbroken, hreplaced,
    ⟨f, congrArg Prod.fst hset, hlabel, hmessage.trans (by decide)⟩, ?_, hok, htakes⟩
  rw [show broken = _ from hset]

end Session

end ProxyInjector
