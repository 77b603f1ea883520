import GatewaySession.Vault.Basic

/-!
# The storage keys of a vault

All keys of a vault begin alike, and the names of the slots tell them apart.

## Main results

* `Vault.keyFor_injective` — different slots have different keys
* `Vault.isPrefixOf_keyFor` — how every key begins
-/

namespace GatewaySession

theorem Slot.name_injective {first second : Slot} (h : first.name = second.name) :
    first = second := by
  cases first <;> cases second <;> first | rfl | exact absurd h (by decide)

namespace Vault

/-- The keys of different slots differ. -/
theorem keyFor_injective (vault : Vault) {first second : Slot}
    (h : vault.keyFor first = vault.keyFor second) : first = second := by
  have names : (vault.keyStart ++ first.name).toList = (vault.keyStart ++ second.name).toList :=
    congrArg String.toList h
  rw [String.toList_append, String.toList_append] at names
  exact Slot.name_injective (String.toList_inj.1 (List.append_cancel_left names))

theorem keyFor_ne (vault : Vault) {first second : Slot} (h : first ≠ second) :
    vault.keyFor first ≠ vault.keyFor second := fun eq => h (keyFor_injective vault eq)

/-- Every key begins as the vault's keys do. -/
theorem isPrefixOf_keyFor (vault : Vault) (slot : Slot) :
    vault.keyStart.toList.isPrefixOf (vault.keyFor slot).toList = true := by
  rw [keyFor, String.toList_append]
  exact List.isPrefixOf_iff_prefix.2 (List.prefix_append _ _)

end Vault

end GatewaySession
