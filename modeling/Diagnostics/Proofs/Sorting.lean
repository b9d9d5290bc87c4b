import Diagnostics.Sorting
import Mathlib.Data.List.Find
import Mathlib.Data.List.Sort

namespace Diagnostics

variable {α : Type} {le : α → α → Bool}

theorem head?_insertBy (a : α) (l : List α) :
    (insertBy le a l).head? = some (l.head?.elim a fun b => if le a b then a else b) := by
  cases l with
  | nil => rfl
  | cons b rest =>
    rw [insertBy]
    split <;> simp_all

theorem head?_sortBy (htotal : ∀ a b, le a b ∨ le b a) (htrans : ∀ a b c, le a b → le b c → le a c) (l : List α) :
    (sortBy le l).head? = l.find? fun a => l.all (le a) := by
  induction l with
  | nil => rfl
  | cons a rest ih =>
    have hself : le a a := (htotal a a).elim id id
    rw [sortBy, head?_insertBy, ih]
    cases hfind : rest.find? fun b => rest.all (le b) with
    | none =>
      have hnil : rest = [] := by
        have hhead := (sortBy_perm le rest).length_eq
        rw [hfind, List.head?_eq_none_iff] at ih
        rw [ih] at hhead
        exact List.length_eq_zero_iff.1 hhead.symm
      simp [hnil, hself]
    | some b =>
      have hb : ∀ c ∈ rest, le b c := by simpa using List.find?_some hfind
      have hmem : b ∈ rest := List.mem_of_find?_eq_some hfind
      by_cases hab : le a b
      · have hleast : (a :: rest).all (le a) := by
          rw [List.all_cons, hself, Bool.true_and, List.all_eq_true]
          exact fun c hc => htrans a b c hab (hb c hc)
        simp only [List.find?_cons, hleast, Option.elim_some, if_pos hab]
      · have hnot : (a :: rest).all (le a) = false := by
          rw [Bool.eq_false_iff]
          exact fun hall => hab (List.all_eq_true.1 hall b (List.mem_cons_of_mem _ hmem))
        have hba : le b a := (htotal a b).resolve_left hab
        have hsame : ∀ c ∈ rest, (a :: rest).all (le c) = rest.all (le c) := by
          intro c _
          rw [List.all_cons, Bool.and_eq_right_iff_imp]
          exact fun hall => htrans c b a (List.all_eq_true.1 hall b hmem) hba
        simp only [List.find?_cons, hnot, List.find?_congr hsame, hfind, Option.elim_some, if_neg hab]

theorem sortBy_eq_of_perm {κ : Type} {key : α → κ} (htotal : ∀ a b, le a b ∨ le b a)
    (htrans : ∀ a b c, le a b → le b c → le a c) (hkey : ∀ a b, le a b → le b a → key a = key b) {l l' : List α}
    (h : (l.map key).Nodup) (hperm : l'.Perm l) : sortBy le l' = sortBy le l := by
  have hsorted := (sortBy_perm le l').trans (hperm.trans (sortBy_perm le l).symm)
  refine hsorted.eq_of_pairwise (fun a b ha hb hab hba => ?_) (pairwise_sortBy htotal htrans l')
    (pairwise_sortBy htotal htrans l)
  have ha : a ∈ l := hperm.subset ((sortBy_perm le l').subset ha)
  exact List.inj_on_of_nodup_map h ha ((sortBy_perm le l).subset hb) (hkey a b hab hba)

theorem pairwise_map_sortBy {β κ : Type} {f : α → β} {key : α → κ} {lt : β → β → Prop}
    (htotal : ∀ a b, le a b ∨ le b a) (htrans : ∀ a b c, le a b → le b c → le a c)
    (hlt : ∀ a b, le a b → key a ≠ key b → lt (f a) (f b)) {l : List α} (h : (l.map key).Nodup) :
    ((sortBy le l).map f).Pairwise lt := by
  have hkeys := ((sortBy_perm le l).map key).nodup_iff.2 h
  rw [List.Nodup, List.pairwise_map] at hkeys
  rw [List.pairwise_map]
  exact (pairwise_sortBy htotal htrans l).imp₂ hlt hkeys

theorem map_sortBy_eq {β : Type} {f : α → β} {lt : β → β → Prop} {l l' : List α}
    (hasymm : ∀ a b, lt a b → ¬ lt b a) (hperm : (l'.map f).Perm (l.map f))
    (h : ((sortBy le l).map f).Pairwise lt) (h' : ((sortBy le l').map f).Pairwise lt) :
    (sortBy le l').map f = (sortBy le l).map f := by
  have hsorted := ((sortBy_perm le l').map f).trans (hperm.trans ((sortBy_perm le l).map f).symm)
  exact hsorted.eq_of_pairwise (fun a b _ _ hab hba => absurd hba (hasymm a b hab)) h' h

end Diagnostics
