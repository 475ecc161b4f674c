import ProxyInjector.Proofs.Address

/-!
# The forms of an address

* `Address.Spells`          an address spells a host and a port if it is one of the two forms, and
                            the port has no brackets;
* `Address.complaint`       what is wrong with an address that spells nothing;
* `Address.split?_spells`   an address is split into what it spells, into nothing else, and for want
                            of that refused with what is wrong with it.

The forms are told apart by the first character, so that each is looked at in one of the two
branches of the splitting only.
-/

namespace ProxyInjector.Address

/-- `host:port` -/
structure Bare (address host port : String) : Prop where
  written : address = host ++ ":" ++ port
  start : host.toList.head? ≠ some '['
  host : ':' ∉ host.toList
  port : ':' ∉ port.toList

/-- `[host]:port` -/
structure Bracketed (address host port : String) : Prop where
  written : address = "[" ++ host ++ "]:" ++ port
  host : ']' ∉ host.toList

/-- the address is host and port in one of the forms, and no bracket is in the port -/
structure Spells (address host port : String) : Prop where
  form : Bare address host port ∨ Bracketed address host port
  port : '[' ∉ port.toList ∧ ']' ∉ port.toList

/-- what is wrong with an address that spells nothing; of several faults the first counts -/
def complaint (address : String) : String :=
  let cs := address.toList
  if cs.head? = some '[' then
    if ']' ∉ cs then "missing \"]\" in address "
    else if (Text.afterFirst ']' cs).head? ≠ some ':' then "missing port in address "
    else "unexpected bracket in address "
  else
    if ':' ∉ cs then "missing port in address "
    else if 1 < cs.count ':' then "too many colons in address "
    else "unexpected bracket in address "

/-! ## the two branches -/

theorem parts_of_start {cs : List Char} (h : cs.head? ≠ some '[') :
    parts cs = match Text.cutLast? ':' cs with
      | none => .error .missingPort
      | some (host, port) => if ':' ∈ host then .error .tooManyColons else .ok (host, port) := by
  unfold parts
  split
  · exact absurd rfl h
  · rfl

theorem head?_append_cons {host port : List Char} (h : host.head? ≠ some '[') :
    (host ++ ':' :: port).head? ≠ some '[' := by
  cases host with
  | nil => simp
  | cons c host => exact h

theorem parts_bare {host port : List Char} (hs : host.head? ≠ some '[') (hh : ':' ∉ host)
    (hp : ':' ∉ port) : parts (host ++ ':' :: port) = .ok (host, port) := by
  have hcut : Text.cutLast? ':' (':' :: port) = some ([], port) := by
    rw [Text.cutLast?, Text.cutLast?_eq_none_iff.mpr hp]
    rfl
  rw [parts_of_start (head?_append_cons hs), Text.cutLast?_append hh, hcut]
  simp [hh]

theorem parts_bracketed {host : List Char} (hh : ']' ∉ host) (port : List Char) :
    parts ('[' :: (host ++ ']' :: ':' :: port)) = .ok (host, port) := by
  simp only [parts, Text.cut?_append_cons hh]

/-- the parts of an address are joined in the form that starts as the address does -/
theorem parts_eq_ok {cs host port : List Char} (h : parts cs = .ok (host, port)) :
    (cs = host ++ ':' :: port ∧ host.head? ≠ some '[' ∧ ':' ∉ host ∧ ':' ∉ port) ∨
      (cs = '[' :: (host ++ ']' :: ':' :: port) ∧ ']' ∉ host) := by
  by_cases hs : cs.head? = some '['
  · obtain ⟨ds, rfl⟩ : ∃ ds, cs = '[' :: ds := List.head?_eq_some_iff.mp hs
    right
    rw [parts] at h
    split at h
    · cases h
    · next a b hcut =>
      obtain ⟨rfl, rfl⟩ := Prod.mk.inj (Except.ok.inj h)
      exact ⟨by rw [Text.eq_of_cut? hcut], Text.not_mem_of_cut? hcut⟩
    · cases h
  · left
    rw [parts_of_start hs] at h
    split at h
    · cases h
    · next a b hcut =>
      split at h
      · cases h
      · next ha =>
        obtain ⟨rfl, rfl⟩ := Prod.mk.inj (Except.ok.inj h)
        have hcs := Text.eq_of_cutLast? hcut
        refine ⟨hcs, fun hhead => hs ?_, ha, Text.not_mem_of_cutLast? hcut⟩
        rw [hcs, List.head?_append, hhead]
        rfl

/-! ## both together -/

theorem any_isBracket_eq_false_iff {cs : List Char} :
    cs.any isBracket = false ↔ '[' ∉ cs ∧ ']' ∉ cs := by
  simp only [List.any_eq_false, isBracket, Bool.or_eq_true, beq_iff_eq, not_or]
  exact ⟨fun h => ⟨fun hm => (h _ hm).1 rfl, fun hm => (h _ hm).2 rfl⟩,
    fun h c hc => ⟨fun he => h.1 (he ▸ hc), fun he => h.2 (he ▸ hc)⟩⟩

theorem split?_eq_ok_iff {address host port : String} :
    split? address = .ok (host, port) ↔
      parts address.toList = .ok (host.toList, port.toList) ∧
        '[' ∉ port.toList ∧ ']' ∉ port.toList := by
  rw [← any_isBracket_eq_false_iff]
  constructor
  · intro h
    have hparts := split?_eq_ok h
    refine ⟨hparts, ?_⟩
    cases hany : port.toList.any isBracket with
    | false => rfl
    | true =>
      simp only [split?, hparts, hany, if_pos] at h
      cases h
  · rintro ⟨hparts, hany⟩
    simp only [split?, hparts, hany, String.ofList_toList]
    rfl

theorem bare_iff {address host port : String} : Bare address host port ↔
    address.toList = host.toList ++ ':' :: port.toList ∧ host.toList.head? ≠ some '[' ∧
      ':' ∉ host.toList ∧ ':' ∉ port.toList := by
  have hwritten : address = host ++ ":" ++ port
      ↔ address.toList = host.toList ++ ':' :: port.toList := by
    rw [← String.toList_inj]
    simp
  rw [← hwritten]
  exact ⟨fun h => ⟨h.written, h.start, h.host, h.port⟩, fun h => ⟨h.1, h.2.1, h.2.2.1, h.2.2.2⟩⟩

theorem bracketed_iff {address host port : String} : Bracketed address host port ↔
    address.toList = '[' :: (host.toList ++ ']' :: ':' :: port.toList) ∧ ']' ∉ host.toList := by
  have hwritten : address = "[" ++ host ++ "]:" ++ port
      ↔ address.toList = '[' :: (host.toList ++ ']' :: ':' :: port.toList) := by
    rw [← String.toList_inj]
    simp
  rw [← hwritten]
  exact ⟨fun h => ⟨h.written, h.host⟩, fun h => ⟨h.1, h.2⟩⟩

theorem split?_eq_ok_iff_spells {address host port : String} :
    split? address = .ok (host, port) ↔ Spells address host port := by
  rw [split?_eq_ok_iff]
  constructor
  · rintro ⟨hparts, hport⟩
    exact ⟨(parts_eq_ok hparts).imp bare_iff.mpr bracketed_iff.mpr, hport⟩
  · rintro ⟨hform, hport⟩
    refine ⟨?_, hport⟩
    rcases hform with hbare | hbracketed
    · obtain ⟨hcs, hs, hh, hp⟩ := bare_iff.mp hbare
      rw [hcs, parts_bare hs hh hp]
    · obtain ⟨hcs, hh⟩ := bracketed_iff.mp hbracketed
      rw [hcs, parts_bracketed hh]

/-- the spelling that `join` chooses is read back -/
theorem split?_join {address host port : String} (h : split? address = .ok (host, port)) :
    split? (join host port) = .ok (host, port) := by
  rw [split?_eq_ok_iff_spells] at h ⊢
  refine ⟨?_, h.port⟩
  rw [join]
  split
  · next hneeds =>
    -- the address had brackets already, since nothing else lets these characters through
    right
    refine ⟨rfl, ?_⟩
    rcases h.form with hbare | hbracketed
    · rcases hneeds with hs | hh | hp
      · exact absurd hs hbare.start
      · exact absurd hh hbare.host
      · exact absurd hp hbare.port
    · exact hbracketed.host
  · next hneeds =>
    obtain ⟨hs, hh, hp⟩ : _ ∧ _ ∧ _ := ⟨fun h => hneeds (.inl h), fun h => hneeds (.inr (.inl h)),
      fun h => hneeds (.inr (.inr h))⟩
    exact .inl ⟨rfl, hs, hh, hp⟩

/-! ## what is refused -/

/-- behind an opening bracket, the rest of the address decides -/
theorem complaint_bracketed {address : String} {host rest : List Char}
    (hcs : address.toList = '[' :: (host ++ ']' :: rest)) (hh : ']' ∉ host) :
    complaint address = if rest.head? = some ':' then "unexpected bracket in address "
      else "missing port in address " := by
  have hmem : ']' ∈ '[' :: (host ++ ']' :: rest) := by simp
  have hafter : Text.afterFirst ']' ('[' :: (host ++ ']' :: rest)) = rest :=
    Text.afterFirst_append_cons (List.not_mem_cons_of_ne_of_not_mem (by decide) hh) rest
  rw [complaint, hcs]
  simp only [List.head?_cons, hmem, hafter, not_true_eq_false, if_pos, if_false, ne_eq, ite_not]

/-- without one, the number of colons does -/
theorem complaint_of_start {address : String} (hs : address.toList.head? ≠ some '[') :
    complaint address = if ':' ∉ address.toList then "missing port in address "
      else if 1 < address.toList.count ':' then "too many colons in address "
      else "unexpected bracket in address " := by
  rw [complaint]
  exact if_neg hs

/-- the message is the complaint about the address -/
def Complains (address : String) (e : AddressError) : Prop :=
  e.message = complaint address ++ Text.quoted address

theorem complains_of_parts {address : String} {f : String → AddressError}
    (h : parts address.toList = .error f) : Complains address (f address) := by
  rw [Complains]
  by_cases hs : address.toList.head? = some '['
  · obtain ⟨ds, hcs⟩ := List.head?_eq_some_iff.mp hs
    rw [hcs, parts] at h
    split at h
    · next hcut =>
      have hmem : ']' ∉ '[' :: ds :=
        List.not_mem_cons_of_ne_of_not_mem (by decide) (Text.cut?_eq_none_iff.mp hcut)
      have hcomplaint : complaint address = "missing \"]\" in address " := by
        rw [complaint, hcs]
        simp only [List.head?_cons, hmem, not_false_eq_true, if_pos]
      rw [← Except.error.inj h, hcomplaint]
      rfl
    · cases h
    · next p hcolon hcut =>
      obtain ⟨host, rest⟩ := p
      have hrest : rest.head? ≠ some ':' := by
        intro hhead
        obtain ⟨port, rfl⟩ := List.head?_eq_some_iff.mp hhead
        exact hcolon host port rfl
      rw [Text.eq_of_cut? hcut] at hcs
      rw [← Except.error.inj h, complaint_bracketed hcs (Text.not_mem_of_cut? hcut), if_neg hrest]
      rfl
  · rw [parts_of_start hs] at h
    rw [complaint_of_start hs]
    split at h
    · next hcut =>
      rw [← Except.error.inj h, if_pos (Text.cutLast?_eq_none_iff.mp hcut)]
      rfl
    · next host port hcut =>
      split at h
      · next hhost =>
        have hcount : 1 < address.toList.count ':' := by
          rw [Text.eq_of_cutLast? hcut, List.count_append, List.count_cons_self]
          have := List.count_pos_iff.mpr hhost
          omega
        have hmem : ':' ∈ address.toList := List.count_pos_iff.mp (by omega)
        rw [← Except.error.inj h, if_neg (fun hn => hn hmem), if_pos hcount]
        rfl
      · cases h

theorem complains_of_split? {address : String} {e : AddressError}
    (h : split? address = .error e) : Complains address e := by
  rw [split?] at h
  split at h
  · next f hparts =>
    rw [← Except.error.inj h]
    exact complains_of_parts hparts
  · next host port hparts =>
    split at h
    · -- the parts are those of one of the forms, so that only the brackets of the port are left
      rw [← Except.error.inj h, Complains]
      rcases parts_eq_ok hparts with ⟨hcs, hs, hh, hp⟩ | ⟨hcs, hh⟩
      · have hcount : address.toList.count ':' = 1 := by
          rw [hcs, List.count_append, List.count_cons_self, List.count_eq_zero.mpr hh,
            List.count_eq_zero.mpr hp]
        have hmem : ':' ∈ address.toList := List.count_pos_iff.mp (by omega)
        rw [complaint_of_start (hcs ▸ head?_append_cons hs), if_neg (fun hn => hn hmem),
          if_neg (by omega)]
        rfl
      · rw [complaint_bracketed hcs hh, List.head?_cons, if_pos rfl]
        rfl
    · cases h

/-- **The language of addresses.**  An address is split into a host and a port exactly if it spells
them, it spells one host and one port at most, and if it spells none it is refused for the first
of its faults.  What can be read can be written, in one of the forms. -/
theorem split?_spells (address : String) :
    (∀ host port, split? address = .ok (host, port) ↔ Spells address host port) ∧
    (∀ host port host' port', Spells address host port → Spells address host' port' →
      host = host' ∧ port = port') ∧
    ((¬ ∃ host port, Spells address host port) → ∃ e, split? address = .error e ∧
      e.label = "ValueError" ∧ e.message = complaint address ++ Text.quoted address) ∧
    ∀ host port, split? (join host port) = .ok (host, port) ↔
      ∃ address, Spells address host port := by
  refine ⟨fun host port => split?_eq_ok_iff_spells, fun host port host' port' h h' => ?_,
    fun h => ?_, fun host port => ⟨fun h => ?_, fun h => ?_⟩⟩
  · have hsame := (split?_eq_ok_iff_spells.mpr h).symm.trans (split?_eq_ok_iff_spells.mpr h')
    exact Prod.mk.inj (Except.ok.inj hsame)
  · cases hsplit : split? address with
    | ok p => exact absurd ⟨p.1, p.2, split?_eq_ok_iff_spells.mp hsplit⟩ h
    | error e => exact ⟨e, rfl, rfl, complains_of_split? hsplit⟩
  · exact ⟨_, split?_eq_ok_iff_spells.mp h⟩
  · obtain ⟨address, h⟩ := h
    exact split?_join (split?_eq_ok_iff_spells.mpr h)

/-- brackets let a colon into the port, and without the colon behind them there is no port -/
theorem split?_spells_bracketed :
    Spells "[::1]:8:8" "::1" "8:8" ∧ split? "[::1]:8:8" = .ok ("::1", "8:8") ∧
    (∀ host port, Spells "[::1]:8:8" host port → host = "::1" ∧ port = "8:8") ∧
    (¬ ∃ host port, Spells "[::1]8" host port) ∧ ∃ e, split? "[::1]8" = .error e ∧
      e.label = "ValueError" ∧ e.message = complaint "[::1]8" ++ Text.quoted "[::1]8" := by
  have hspells : Spells "[::1]:8:8" "::1" "8:8" :=
    ⟨.inr ⟨by decide, by decide⟩, by decide⟩
  have hnone : ¬ ∃ host port, Spells "[::1]8" host port := by
    rintro ⟨host, port, h⟩
    have hok := ((split?_spells "[::1]8").1 host port).mpr h
    have herror : split? "[::1]8" = .error (.missingPort "[::1]8") := rfl
    rw [herror] at hok
    cases hok
  obtain ⟨haccepts, hunique, -⟩ := split?_spells "[::1]:8:8"
  exact ⟨hspells, (haccepts _ _).mpr hspells, fun host port h => hunique _ _ _ _ h hspells, hnone,
    (split?_spells "[::1]8").2.2.1 hnone⟩

end ProxyInjector.Address
