import Mathlib.Algebra.BigOperators.Group.List.Basic
import Mathlib.Algebra.GroupWithZero.Nat

namespace Diagnostics

theorem sum_map_flatMap {α β : Type} (f : α → List β) (w : β → Nat) (l : List α) :
    ((l.flatMap f).map w).sum = (l.map fun a => ((f a).map w).sum).sum := by
  rw [List.map_flatMap, List.flatMap_def, List.sum_flatten, List.map_map]
  rfl

theorem sum_map_filter_of_zero {α : Type} {p : α → Bool} {w : α → Nat} {l : List α} (h : ∀ a ∈ l, ¬ p a → w a = 0) :
    ((l.filter p).map w).sum = (l.map w).sum := by
  induction l with
  | nil => rfl
  | cons a l ih =>
    obtain ⟨ha, hl⟩ := List.forall_mem_cons.1 h
    rw [List.map_cons, List.sum_cons, ← ih hl]
    by_cases hp : p a
    · rw [List.filter_cons_of_pos hp, List.map_cons, List.sum_cons]
    · rw [List.filter_cons_of_neg hp, ha hp, Nat.zero_add]

theorem flatMap_fibers_perm {α κ : Type} [DecidableEq κ] {f : α → κ} {keys : List κ} {l : List α} (hkeys : keys.Nodup)
    (h : ∀ a ∈ l, f a ∈ keys) : (keys.flatMap fun k => l.filter (f · = k)).Perm l := by
  induction keys generalizing l with
  | nil =>
    obtain rfl := List.eq_nil_iff_forall_not_mem.2 fun a ha => List.not_mem_nil (h a ha)
    exact .refl _
  | cons k keys ih =>
    obtain ⟨hk, hkeys⟩ := List.nodup_cons.1 hkeys
    have hrest : ∀ a ∈ l.filter (fun a => !decide (f a = k)), f a ∈ keys := by
      intro a ha
      obtain ⟨hmem, hne⟩ := List.mem_filter.1 ha
      exact (List.mem_cons.1 (h a hmem)).resolve_left (by simpa using hne)
    have hfibers : (keys.flatMap fun k' => (l.filter fun a => !decide (f a = k)).filter (f · = k')) =
        keys.flatMap fun k' => l.filter (f · = k') := by
      refine List.flatMap_congr fun k' hk' => ?_
      have hne : k' ≠ k := fun heq => hk (heq ▸ hk')
      rw [List.filter_filter]
      refine List.filter_congr fun a _ => ?_
      by_cases ha : f a = k' <;> simp [ha, hne]
    have hperm := ih hkeys hrest
    rw [hfibers] at hperm
    rw [List.flatMap_cons]
    exact (hperm.append_left _).trans (List.filter_append_perm (fun a => decide (f a = k)) l)

theorem sum_fibers {α κ : Type} [DecidableEq κ] {f : α → κ} (w : α → Nat) {keys : List κ} {l : List α}
    (hkeys : keys.Nodup) (h : ∀ a ∈ l, f a ∈ keys) :
    (keys.map fun k => ((l.filter (f · = k)).map w).sum).sum = (l.map w).sum := by
  rw [← sum_map_flatMap, ((flatMap_fibers_perm hkeys h).map w).sum_eq]

end Diagnostics
