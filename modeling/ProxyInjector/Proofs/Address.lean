import ProxyInjector.Proofs.Descriptor

/-!
# Addresses as descriptors

Brackets protect the colons of an address, and a descriptor has no brackets.

* `Address.not_mem_of_split?`     only an address that starts with a bracket has colons in its parts;
* `Descriptor.plain_ofAddress_iff`
                                  the descriptor of an address is plain if there are none, but also
                                  where they are those of the host that stands for all interfaces.
-/

namespace ProxyInjector

namespace Address

theorem split?_eq_ok {address host port : String} (h : split? address = .ok (host, port)) :
    parts address.toList = .ok (host.toList, port.toList) := by
  unfold split? at h
  split at h
  · cases h
  · next cs ds hparts =>
    split at h
    · cases h
    · obtain ⟨rfl, rfl⟩ := Prod.mk.inj (Except.ok.inj h)
      rw [hparts, String.toList_ofList, String.toList_ofList]

theorem not_mem_of_split? {address host port : String} (h : split? address = .ok (host, port))
    (hb : address.toList.head? ≠ some '[') : ':' ∉ host.toList ∧ ':' ∉ port.toList := by
  have hparts := split?_eq_ok h
  unfold parts at hparts
  split at hparts
  · next cs hcs =>
    rw [hcs] at hb
    exact absurd rfl hb
  · split at hparts
    · cases hparts
    · next cs ds hcut =>
      split at hparts
      · cases hparts
      · next hhost =>
        obtain ⟨rfl, rfl⟩ := Prod.mk.inj (Except.ok.inj hparts)
        exact ⟨hhost, Text.not_mem_of_cutLast? hcut⟩

end Address

namespace Descriptor

open Address

theorem ofAddress_eq {address host port : String} (h : split? address = .ok (host, port)) :
    ofAddress address = ⟨if isWildcard host then loopback else host, port⟩ := by
  rw [ofAddress, h]

theorem plain_ofAddress_iff {address host port : String} (h : split? address = .ok (host, port)) :
    (ofAddress address).Plain ↔ (':' ∈ host.toList → host = "::") ∧ ':' ∉ port.toList := by
  rw [ofAddress_eq h, Plain]
  refine and_congr_left fun _ => ?_
  cases hw : isWildcard host with
  | true =>
    have hloopback : ':' ∉ loopback.toList := by decide
    have hhost : ':' ∈ host.toList → host = "::" := by
      intro hc
      simp only [isWildcard, wildcards, List.contains_cons, Bool.or_eq_true, beq_iff_eq,
        List.contains_nil, Bool.false_eq_true, or_false] at hw
      rcases hw with rfl | rfl | rfl
      · simp at hc
      · revert hc
        decide
      · rfl
    simpa only [if_pos] using iff_of_true hloopback hhost
  | false =>
    have hne : host ≠ "::" := by
      rintro rfl
      revert hw
      decide
    simp [hne]

end Descriptor

end ProxyInjector
