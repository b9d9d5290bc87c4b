import Mathlib.Algebra.Order.BigOperators.Group.List
import Mathlib.Algebra.Order.Ring.Nat
import Mathlib.Data.Nat.Find
import Diagnostics.Source.Excerpt

namespace Diagnostics

structure MaximalRun (ks : List Nat) (first last : Nat) : Prop where
  le : first ≤ last
  full : ∀ k, first ≤ k → k ≤ last → k ∈ ks
  opens : ∀ k ∈ ks, k + 1 ≠ first
  closes : last + 1 ∉ ks

variable {ks : List Nat} {k first last : Nat}

theorem MaximalRun.unique {last' : Nat} (h : MaximalRun ks first last) (h' : MaximalRun ks first last') :
    last = last' := by
  have hle := h.le
  have hle' := h'.le
  rcases Nat.lt_trichotomy last last' with hlt | heq | hlt
  · exact absurd (h'.full (last + 1) (by omega) hlt) h.closes
  · exact heq
  · exact absurd (h.full (last' + 1) (by omega) hlt) h'.closes

theorem exists_maximalRun (hk : k ∈ ks) (hopens : ∀ j ∈ ks, j + 1 ≠ k) : ∃ last, MaximalRun ks k last := by
  have hends : ∃ n, k + n + 1 ∉ ks := by
    refine ⟨ks.sum, fun hmem => ?_⟩
    have hle := List.le_sum_of_mem hmem
    omega
  refine ⟨k + Nat.find hends, Nat.le_add_right .., fun m hm hle => ?_, hopens, Nat.find_spec hends⟩
  rcases Nat.lt_or_eq_of_le hm with hlt | rfl
  · -- A number in front of the first missing one.
    obtain ⟨n, rfl⟩ : ∃ n, m = k + n + 1 := ⟨m - k - 1, by omega⟩
    have hbefore : n < Nat.find hends := by omega
    exact not_not.1 (Nat.find_min hends hbefore)
  · exact hk

theorem countP_markGaps (k : Nat) {rest : List Nat} (h : (k :: rest).Pairwise (· < ·)) :
    (markGaps (some k) rest).countP (·.2) = rest.countP fun m => ∀ j ∈ k :: rest, j + 1 ≠ m := by
  induction rest generalizing k with
  | nil => rfl
  | cons m rest ih =>
    obtain ⟨hk, hrest⟩ := List.pairwise_cons.1 h
    have hm := (List.pairwise_cons.1 hrest).1
    have hkm := hk m (List.mem_cons_self ..)
    have hhead : (∀ j ∈ k :: m :: rest, j + 1 ≠ m) ↔ k + 1 ≠ m := by
      simp only [List.forall_mem_cons]
      refine ⟨fun h => h.1, fun h => ⟨h, by omega, fun j hj => ?_⟩⟩
      have := hm j hj
      omega
    have htail : rest.countP (fun x => ∀ j ∈ k :: m :: rest, j + 1 ≠ x) =
        rest.countP fun x => ∀ j ∈ m :: rest, j + 1 ≠ x := by
      refine List.countP_congr fun x hx => ?_
      have := hm x hx
      rw [decide_eq_true_iff, decide_eq_true_iff, List.forall_mem_cons]
      exact ⟨fun h => h.2, fun h => ⟨by omega, h⟩⟩
    rw [markGaps, List.countP_cons, List.countP_cons, ih m hrest, htail]
    simp only [hhead, Option.any_some]

theorem exists_maximalRuns (h : ks.Pairwise (· < ·)) (hne : ks ≠ []) :
    ∃ runs : List (Nat × Nat), runs.Nodup ∧ (∀ first last, (first, last) ∈ runs ↔ MaximalRun ks first last) ∧
      (markGaps none ks).countP (·.2) + 1 = runs.length := by
  have hstarts : ∀ k, k ∈ ks → (∀ j ∈ ks, j + 1 ≠ k) → ∃ last, MaximalRun ks k last :=
    fun _ hk hopens => exists_maximalRun hk hopens
  choose! last hlast using hstarts
  refine ⟨(ks.filter fun k => ∀ j ∈ ks, j + 1 ≠ k).map fun k => (k, last k), ?_, fun a b => ?_, ?_⟩
  · exact ((h.imp Nat.ne_of_lt).filter _).map _ fun a b hne heq => hne (Prod.mk.inj heq).1
  · rw [List.mem_map]
    constructor
    · rintro ⟨k, hk, heq⟩
      obtain ⟨rfl, rfl⟩ := Prod.mk.inj heq
      obtain ⟨hmem, hopens⟩ := List.mem_filter.1 hk
      exact hlast k hmem (of_decide_eq_true hopens)
    · intro hrun
      have hmem := hrun.full a (Nat.le_refl a) hrun.le
      refine ⟨a, List.mem_filter.2 ⟨hmem, decide_eq_true hrun.opens⟩, ?_⟩
      rw [(hlast a hmem hrun.opens).unique hrun]
  · cases ks with
    | nil => exact absurd rfl hne
    | cons k rest =>
      obtain ⟨hk, -⟩ := List.pairwise_cons.1 h
      have hfirst : ∀ j ∈ k :: rest, j + 1 ≠ k := by
        intro j hj
        rcases List.mem_cons.1 hj with rfl | hj
        · omega
        · have := hk j hj
          omega
      rw [List.length_map, ← List.countP_eq_length_filter, markGaps, List.countP_cons_of_neg (by simp),
        countP_markGaps k h, List.countP_cons_of_pos (by simpa using hfirst)]

end Diagnostics
