import Mathlib.Data.List.Nodup

namespace Diagnostics

theorem lookup_cons_eq {κ α : Type} [DecidableEq κ] (k key : κ) (a : α) (entries : List (κ × α)) :
    ((k, a) :: entries).lookup key = if key = k then some a else entries.lookup key := by
  by_cases h : key = k
  · simp [h]
  · simp [List.lookup_cons, beq_false_of_ne h, h]

theorem lookup_eq_some_iff_mem {κ β : Type} [BEq κ] [LawfulBEq κ] {entries : List (κ × β)} {k : κ} {v : β}
    (h : (entries.map (·.1)).Nodup) : entries.lookup k = some v ↔ (k, v) ∈ entries := by
  rw [List.lookup_eq_some_iff]
  constructor
  · rintro ⟨front, behind, rfl, -⟩
    exact List.mem_append_right _ (List.mem_cons_self ..)
  · intro hmem
    obtain ⟨front, behind, rfl⟩ := List.append_of_mem hmem
    rw [List.map_append, List.map_cons, List.nodup_append] at h
    refine ⟨front, behind, rfl, fun p hp => bne_iff_ne.2 ?_⟩
    exact (h.2.2 p.1 (List.mem_map_of_mem hp) k (List.mem_cons_self ..)).symm

end Diagnostics
