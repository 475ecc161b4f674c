import ProxyInjector.Proofs.Address.Forms

/-!
# Where a listening proxy can be reached

The descriptor of an address never has a host that stands for all interfaces, since these become
the machine itself, and a text that is no address becomes a port of the machine itself.

* `Descriptor.ofAddress_of_spells`   the descriptor of a text that spells a host and a port;
* `Descriptor.ofAddress_of_error`    the descriptor of any other text;
* `Descriptor.ofAddress_local_iff`   which texts name a port of the machine itself;
* `Descriptor.ofAddress_reachable`   all of it together.
-/

namespace ProxyInjector.Descriptor

open Address

/-! ## the two branches -/

/-- the host under which a listening proxy is reached -/
def reached (host : String) : String :=
  if host ∈ ["", "0.0.0.0", "::"] then "127.0.0.1" else host

theorem reached_not_mem (host : String) : reached host ∉ ["", "0.0.0.0", "::"] := by
  rw [reached]
  split
  · decide
  · next h => exact h

theorem reached_eq_iff {host : String} :
    reached host = "127.0.0.1" ↔ host ∈ ["", "0.0.0.0", "::", "127.0.0.1"] := by
  have hmem : host ∈ ["", "0.0.0.0", "::", "127.0.0.1"]
      ↔ host ∈ ["", "0.0.0.0", "::"] ∨ host = "127.0.0.1" := by
    simp [or_assoc]
  rw [hmem, reached]
  split
  · next h => exact iff_of_true rfl (.inl h)
  · next h => exact (or_iff_right h).symm

theorem ofAddress_of_spells {address host port : String} (h : Spells address host port) :
    ofAddress address = ⟨reached host, port⟩ := by
  have hwildcard : isWildcard host = true ↔ host ∈ ["", "0.0.0.0", "::"] := List.contains_iff_mem
  rw [ofAddress_eq (split?_eq_ok_iff_spells.mpr h), reached]
  simp only [hwildcard]
  rfl

theorem ofAddress_of_error {address : String} {e : AddressError} (h : split? address = .error e) :
    ofAddress address = ⟨"127.0.0.1", withoutColon address⟩ := by
  rw [ofAddress, h]
  rfl

theorem withoutColon_of_head? {s : String} (h : s.toList.head? = some ':') :
    s = ":" ++ withoutColon s := by
  obtain ⟨cs, hcs⟩ := List.head?_eq_some_iff.mp h
  have hrest : withoutColon s = String.ofList cs := by simp only [withoutColon, hcs]
  rw [hrest, ← String.toList_inj]
  simp [hcs]

theorem withoutColon_of_head?_ne {s : String} (h : s.toList.head? ≠ some ':') :
    withoutColon s = s := by
  rw [withoutColon]
  split
  · next cs hcs => exact absurd (hcs ▸ rfl) h
  · rfl

/-! ## ports of the machine itself -/

/-- a text that spells something has a colon -/
theorem mem_of_spells {address host port : String} (h : Spells address host port) :
    ':' ∈ address.toList := by
  rcases h.form with hbare | hbracketed
  · rw [hbare.written]
    simp
  · rw [hbracketed.written]
    simp

theorem ofAddress_of_not_mem {port : String} (h : ':' ∉ port.toList) :
    ofAddress port = ⟨"127.0.0.1", port⟩ := by
  cases hsplit : split? port with
  | ok parts => exact absurd (mem_of_spells (split?_eq_ok_iff_spells.mp hsplit)) h
  | error e =>
    rw [ofAddress_of_error hsplit, withoutColon_of_head?_ne fun hhead => h (List.mem_of_head? hhead)]

section
variable {address port : String}

/-- no character of the port means anything to the readers of addresses -/
def IsPlainPort (port : String) : Prop :=
  ':' ∉ port.toList ∧ '[' ∉ port.toList ∧ ']' ∉ port.toList

theorem spells_iff (hport : IsPlainPort port) {host : String} (hopen : '[' ∉ host.toList)
    (hclose : ']' ∉ host.toList) : Spells address host port ↔
      ':' ∉ host.toList ∧ address = host ++ ":" ++ port ∨ address = "[" ++ host ++ "]:" ++ port := by
  constructor
  · intro h
    exact h.form.imp (fun hbare => ⟨hbare.host, hbare.written⟩) fun h => h.written
  · rintro (⟨hcolon, rfl⟩ | rfl)
    · exact ⟨.inl ⟨rfl, fun hhead => hopen (List.mem_of_head? hhead), hcolon, hport.1⟩, hport.2⟩
    · exact ⟨.inr ⟨rfl, hclose⟩, hport.2⟩

/-- the texts that name a port of the machine itself -/
theorem ofAddress_local_iff (hport : IsPlainPort port) : ofAddress address = ⟨"127.0.0.1", port⟩ ↔
    address ∈ [port, ":" ++ port, "0.0.0.0:" ++ port, "[]:" ++ port, "[::]:" ++ port,
      "[0.0.0.0]:" ++ port] ∨ address ∈ ["127.0.0.1:" ++ port, "[127.0.0.1]:" ++ port] := by
  have hspells : (∃ host ∈ ["", "0.0.0.0", "::", "127.0.0.1"], Spells address host port)
      ↔ address = ":" ++ port ∨ address = "[]:" ++ port ∨ address = "0.0.0.0:" ++ port
        ∨ address = "[0.0.0.0]:" ++ port ∨ address = "[::]:" ++ port
        ∨ address = "127.0.0.1:" ++ port ∨ address = "[127.0.0.1]:" ++ port := by
    simp only [List.mem_cons, List.not_mem_nil, or_false, exists_eq_or_imp, exists_eq_left]
    rw [spells_iff hport (by decide) (by decide), spells_iff hport (by decide) (by decide),
      spells_iff hport (by decide) (by decide), spells_iff hport (by decide) (by decide)]
    simp [or_assoc]
  have hlocal : ofAddress address = ⟨"127.0.0.1", port⟩ ↔ address = port ∨
      ∃ host ∈ ["", "0.0.0.0", "::", "127.0.0.1"], Spells address host port := by
    constructor
    · intro h
      cases hsplit : split? address with
      | ok parts =>
        have hparts := split?_eq_ok_iff_spells.mp hsplit
        rw [ofAddress_of_spells hparts] at h
        obtain ⟨hhost, rfl⟩ := Descriptor.mk.inj h
        exact .inr ⟨parts.1, reached_eq_iff.mp hhost, hparts⟩
      | error e =>
        rw [ofAddress_of_error hsplit] at h
        obtain ⟨-, rfl⟩ := Descriptor.mk.inj h
        by_cases hhead : address.toList.head? = some ':'
        · right
          refine ⟨"", by decide, (spells_iff hport (by decide) (by decide)).mpr (.inl ⟨by decide, ?_⟩)⟩
          exact withoutColon_of_head? hhead
        · exact .inl (withoutColon_of_head?_ne hhead).symm
    · rintro (rfl | ⟨host, hhost, h⟩)
      · exact ofAddress_of_not_mem hport.1
      · rw [ofAddress_of_spells h, reached_eq_iff.mpr hhost]
  rw [hlocal, hspells]
  simp only [List.mem_cons, List.not_mem_nil, or_false]
  grind

end

/-- **Where a proxy is reached.**  The descriptor of a text never names all interfaces.  If the
text is an address, the descriptor has its port and its host, or the machine itself in the place of
all interfaces; if it is none, the machine itself and the text without the colon it may start with.
The texts that name a plain port of the machine itself are the port alone, the port behind any host
that stands for all interfaces or for none, and the port behind the machine itself. -/
theorem ofAddress_reachable (address : String) :
    (ofAddress address).host ∉ ["", "0.0.0.0", "::"] ∧
    (∀ host port, split? address = .ok (host, port) → (ofAddress address).port = port ∧
      (ofAddress address).host = if host ∈ ["", "0.0.0.0", "::"] then "127.0.0.1" else host) ∧
    (∀ e, split? address = .error e → (ofAddress address).host = "127.0.0.1" ∧
      address = if address.toList.head? = some ':' then ":" ++ (ofAddress address).port
        else (ofAddress address).port) ∧
    ∀ port : String, ':' ∉ port.toList → '[' ∉ port.toList → ']' ∉ port.toList →
      (ofAddress address = ⟨"127.0.0.1", port⟩ ↔
        address ∈ [port, ":" ++ port, "0.0.0.0:" ++ port, "[]:" ++ port, "[::]:" ++ port,
          "[0.0.0.0]:" ++ port] ∨ address ∈ ["127.0.0.1:" ++ port, "[127.0.0.1]:" ++ port]) := by
  have hok : ∀ host port, split? address = .ok (host, port) →
      ofAddress address = ⟨reached host, port⟩ :=
    fun host port h => ofAddress_of_spells (split?_eq_ok_iff_spells.mp h)
  have herror : ∀ e, split? address = .error e →
      ofAddress address = ⟨"127.0.0.1", withoutColon address⟩ := fun e => ofAddress_of_error
  refine ⟨?_, fun host port h => ?_, fun e h => ?_, fun port hcolon hopen hclose =>
    ofAddress_local_iff ⟨hcolon, hopen, hclose⟩⟩
  · cases h : split? address with
    | ok parts =>
      rw [hok parts.1 parts.2 h]
      exact reached_not_mem parts.1
    | error e =>
      rw [herror e h]
      show "127.0.0.1" ∉ ["", "0.0.0.0", "::"]
      decide
  · rw [hok host port h]
    exact ⟨rfl, rfl⟩
  · rw [herror e h]
    refine ⟨rfl, ?_⟩
    split
    · next hhead => exact withoutColon_of_head? hhead
    · next hhead => exact (withoutColon_of_head?_ne hhead).symm

/-- one colon too many, and all interfaces in two spellings -/
theorem ofAddress_reachable_wildcards :
    split? "::8899" = .error (.tooManyColons "::8899") ∧
    (ofAddress "::8899").host = "127.0.0.1" ∧ "::8899" = ":" ++ (ofAddress "::8899").port ∧
    split? "[::]:8899" = .ok ("::", "8899") ∧
    (ofAddress "[::]:8899").port = "8899" ∧ (ofAddress "[::]:8899").host = "127.0.0.1" ∧
    ':' ∉ "8899".toList ∧ '[' ∉ "8899".toList ∧ ']' ∉ "8899".toList ∧
    ofAddress "[]:8899" = ⟨"127.0.0.1", "8899"⟩ := by
  have herror : split? "::8899" = .error (.tooManyColons "::8899") := rfl
  have hok : split? "[::]:8899" = .ok ("::", "8899") := rfl
  have hport : ':' ∉ "8899".toList ∧ '[' ∉ "8899".toList ∧ ']' ∉ "8899".toList := by decide
  obtain ⟨-, -, hrest, -⟩ := ofAddress_reachable "::8899"
  obtain ⟨-, hparts, -, -⟩ := ofAddress_reachable "[::]:8899"
  obtain ⟨-, -, -, hlocal⟩ := ofAddress_reachable "[]:8899"
  obtain ⟨hloopback, haddress⟩ := hrest _ herror
  rw [if_pos (by decide)] at haddress
  obtain ⟨hsame, hhost⟩ := hparts _ _ hok
  rw [if_pos (by decide)] at hhost
  exact ⟨herror, hloopback, haddress, hok, hsame, hhost, hport.1, hport.2.1, hport.2.2,
    (hlocal "8899" hport.1 hport.2.1 hport.2.2).mpr (.inl (by decide))⟩

end ProxyInjector.Descriptor
