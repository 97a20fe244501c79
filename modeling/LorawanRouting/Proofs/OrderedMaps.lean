import Std.Data.ExtTreeMap
import Std.Data.ExtTreeSet
import Mathlib.Data.List.Nodup
import Mathlib.Logic.Function.Basic

/-!
Maps and sets that keep their keys in order. Two lists in strictly ascending order that hold the
same things are the same list, which tells what the listing of a map or a set must be.
-/

namespace LorawanRouting.OrderedMaps
open Std

variable {α β γ : Type} [Ord α] [TransOrd α]

def Ascending (key : γ → α) (l : List γ) : Prop :=
  l.Pairwise fun x y => compare (key x) (key y) = .lt

theorem Ascending.nodup_map {key : γ → α} {l : List γ} (h : Ascending key l) :
    (l.map key).Nodup := by
  refine List.pairwise_map.mpr (h.imp ?_)
  intro x y hlt heq
  have hself : compare (key y) (key y) = .eq := ReflCmp.compare_self
  rw [heq, hself] at hlt
  cases hlt

theorem Ascending.nodup {key : γ → α} {l : List γ} (h : Ascending key l) : l.Nodup :=
  List.Nodup.of_map key h.nodup_map

theorem Ascending.eq_of_mem_iff {key : γ → α} {l₁ l₂ : List γ} (h₁ : Ascending key l₁)
    (h₂ : Ascending key l₂) (hmem : ∀ x, x ∈ l₁ ↔ x ∈ l₂) : l₁ = l₂ := by
  have hperm : l₁.Perm l₂ := (List.perm_ext_iff_of_nodup h₁.nodup h₂.nodup).mpr hmem
  refine hperm.eq_of_pairwise ?_ h₁ h₂
  intro x y _ _ hxy hyx
  have hswap : compare (key x) (key y) = (compare (key y) (key x)).swap := OrientedCmp.eq_swap
  rw [hswap, hyx] at hxy
  cases hxy

theorem ascending_toList (m : ExtTreeMap α β) : Ascending Prod.fst m.toList :=
  ExtTreeMap.ordered_keys_toList

theorem ascending_set_toList (s : ExtTreeSet α) : Ascending (fun x => x) s.toList :=
  ExtTreeSet.ordered_toList

theorem values_eq_map_toList (m : ExtTreeMap α β) : m.values = m.toList.map Prod.snd := by
  have hfold : m.values = m.foldr (fun _ v l => v :: l) [] := by
    obtain ⟨inner⟩ := m
    induction inner using ExtDTreeMap.inductionOn with
    | _ inner => rfl
  rw [hfold, ExtTreeMap.foldr_eq_foldr_toList]
  induction m.toList with
  | nil => rfl
  | cons e l ih => rw [List.foldr_cons, ih, List.map_cons]

variable [LawfulEqOrd α]

theorem getD_insert [DecidableEq α] (m : ExtTreeMap α β) (key : α) (v default : β) :
    (fun k => (m.insert key v)[k]?.getD default) =
      Function.update (fun k => m[k]?.getD default) key v := by
  funext k
  by_cases hk : k = key
  · simp [hk]
  · simp [ExtTreeMap.getElem?_insert, hk, Ne.symm hk]

theorem getD_erase [DecidableEq α] (m : ExtTreeMap α β) (key : α) (default : β) :
    (fun k => (m.erase key)[k]?.getD default) =
      Function.update (fun k => m[k]?.getD default) key default := by
  funext k
  by_cases hk : k = key
  · simp [hk]
  · simp [ExtTreeMap.getElem?_erase, hk, Ne.symm hk]

theorem getElem?_foldl_insert {l : List (α × β)} (hl : (l.map Prod.fst).Nodup)
    (m : ExtTreeMap α β) (k : α) (v : β) :
    (l.foldl (fun m e => m.insert e.1 e.2) m)[k]? = some v ↔
      (k, v) ∈ l ∨ (∀ w, (k, w) ∉ l) ∧ m[k]? = some v := by
  induction l generalizing m with
  | nil => simp
  | cons e l ih =>
    obtain ⟨k', v'⟩ := e
    obtain ⟨hnew, hl⟩ := List.nodup_cons.mp hl
    have hnew : ∀ w, (k', w) ∉ l := fun w hw => hnew (List.mem_map.mpr ⟨_, hw, rfl⟩)
    rw [List.foldl_cons, ih hl, ExtTreeMap.getElem?_insert]
    by_cases hk : k' = k
    · subst hk
      simp [hnew, eq_comm]
    · have hcmp : ¬ compare k' k = .eq := fun h => hk (LawfulEqCmp.eq_of_compare h)
      simp [hcmp, Ne.symm hk]

end LorawanRouting.OrderedMaps
