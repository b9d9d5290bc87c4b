namespace Diagnostics

variable {α : Type}

def insertBy (le : α → α → Bool) (a : α) : List α → List α
  | [] => [a]
  | b :: rest => if le a b then a :: b :: rest else b :: insertBy le a rest

def sortBy (le : α → α → Bool) : List α → List α
  | [] => []
  | a :: rest => insertBy le a (sortBy le rest)

theorem insertBy_perm (le : α → α → Bool) (a : α) (l : List α) : (insertBy le a l).Perm (a :: l) := by
  induction l with
  | nil => exact .refl _
  | cons b rest ih =>
      simp only [insertBy]
      split
      · exact .refl _
      · exact (ih.cons b).trans (.swap a b rest)

theorem sortBy_perm (le : α → α → Bool) (l : List α) : (sortBy le l).Perm l := by
  induction l with
  | nil => exact .refl _
  | cons a rest ih => exact (insertBy_perm le a (sortBy le rest)).trans (ih.cons a)

section Ordered

variable {le : α → α → Bool} (htotal : ∀ a b, le a b ∨ le b a)
  (htrans : ∀ a b c, le a b → le b c → le a c)

include htotal htrans

theorem pairwise_insertBy (a : α) {l : List α} (h : l.Pairwise fun b c => le b c) :
    (insertBy le a l).Pairwise fun b c => le b c := by
  induction l with
  | nil => exact List.pairwise_singleton _ a
  | cons b rest ih =>
      obtain ⟨hb, hrest⟩ := List.pairwise_cons.1 h
      rw [insertBy]
      split
      · rename_i hab
        apply List.Pairwise.cons _ h
        intro c hc
        rcases List.mem_cons.1 hc with rfl | hc
        · exact hab
        · exact htrans _ _ _ hab (hb c hc)
      · rename_i hab
        apply List.Pairwise.cons _ (ih hrest)
        intro c hc
        rcases List.mem_cons.1 ((insertBy_perm le a rest).mem_iff.1 hc) with rfl | hc
        · exact (htotal c b).resolve_left hab
        · exact hb c hc

theorem pairwise_sortBy (l : List α) : (sortBy le l).Pairwise fun a b => le a b := by
  induction l with
  | nil => exact .nil
  | cons a rest ih => exact pairwise_insertBy htotal htrans a ih

end Ordered

end Diagnostics
