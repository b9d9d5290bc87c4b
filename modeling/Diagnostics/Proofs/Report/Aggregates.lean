import Diagnostics.Proofs.Entries
import Diagnostics.Proofs.Sorting
import Diagnostics.Report
import Mathlib.Algebra.GroupWithZero.Nat
import Mathlib.Data.List.Induction

namespace Diagnostics

namespace Severity

theorem getElem?_rank (s : Severity) : all[s.rank]? = some s := by cases s <;> rfl

theorem rank_injective {a b : Severity} (h : a.rank = b.rank) : a = b := by
  have ha := getElem?_rank a
  rw [h, getElem?_rank] at ha
  exact (Option.some.inj ha).symm

instance : Std.IsLinearOrder Severity where
  le_refl a := Nat.le_refl a.rank
  le_trans _ _ _ hab hbc := Nat.le_trans hab hbc
  le_antisymm _ _ hab hba := rank_injective (Nat.le_antisymm hab hba)
  le_total a b := Nat.le_total a.rank b.rank

instance : Std.LawfulOrderMax Severity where
  max_eq_or a b := by
    change (if a ≤ b then b else a) = a ∨ (if a ≤ b then b else a) = b
    split
    · exact .inr rfl
    · exact .inl rfl
  max_le_iff a b c := by
    change (if a ≤ b then b else a) ≤ c ↔ a ≤ c ∧ b ≤ c
    split
    · rename_i hab
      exact ⟨fun hbc => ⟨Nat.le_trans hab hbc, hbc⟩, And.right⟩
    · rename_i hab
      have hba : b ≤ a := (Std.le_total (a := a) (b := b)).resolve_left hab
      exact ⟨fun hac => ⟨hac, Nat.le_trans hba hac⟩, And.left⟩

end Severity

section Greatest

variable {α : Type} [LE α] [Max α] [Std.IsLinearOrder α] [Std.LawfulOrderMax α] {l l' : List α}

theorem max?_congr (h : ∀ a, a ∈ l ↔ a ∈ l') : l.max? = l'.max? := by
  ext a
  simp only [List.max?_eq_some_iff, h]

theorem max?_append (l l' : List α) : (l ++ l').max? = Option.merge max l.max? l'.max? := by
  cases hl : l.max? with
  | none =>
    obtain rfl := List.max?_eq_none_iff.1 hl
    rw [List.nil_append, Option.merge_none_left]
  | some a =>
    cases hl' : l'.max? with
    | none =>
      obtain rfl := List.max?_eq_none_iff.1 hl'
      rw [List.append_nil, hl]
      rfl
    | some b =>
      obtain ⟨ha, hle⟩ := List.max?_eq_some_iff.1 hl
      obtain ⟨hb, hle'⟩ := List.max?_eq_some_iff.1 hl'
      refine List.max?_eq_some_iff.2 ⟨?_, fun c hc => ?_⟩
      · rcases Std.MaxEqOr.max_eq_or a b with h | h <;> rw [h]
        · exact List.mem_append_left _ ha
        · exact List.mem_append_right _ hb
      · rcases List.mem_append.1 hc with hc | hc
        · exact Std.le_trans (hle c hc) Std.left_le_max
        · exact Std.le_trans (hle' c hc) Std.right_le_max

theorem getLast?_eq_max? (h : l.Pairwise (· ≤ ·)) : l.getLast? = l.max? := by
  cases hlast : l.getLast? with
  | none =>
    obtain rfl := List.getLast?_eq_none_iff.1 hlast
    rfl
  | some a =>
    obtain ⟨front, rfl⟩ := List.getLast?_eq_some_iff.1 hlast
    refine (List.max?_eq_some_iff.2 ⟨List.mem_concat_self, fun b hb => ?_⟩).symm
    rcases List.mem_append.1 hb with hb | hb
    · exact (List.pairwise_append.1 h).2.2 b hb a (List.mem_singleton_self a)
    · rw [List.mem_singleton.1 hb]
      exact Std.le_refl a

end Greatest

namespace Report

variable {entries : List (Severity × Nat)} {s t : Severity}

theorem map_fst_bump (entries : List (Severity × Nat)) (s : Severity) :
    (bump entries s).map (·.1) = if s ∈ entries.map (·.1) then entries.map (·.1) else entries.map (·.1) ++ [s] := by
  induction entries with
  | nil => rfl
  | cons e entries ih =>
    obtain ⟨t, n⟩ := e
    by_cases hts : t = s
    · simp [bump, hts]
    · have hst : s ≠ t := Ne.symm hts
      simp only [bump, if_neg hts, List.map_cons, ih, List.mem_cons, hst, false_or]
      split <;> rfl

theorem nodup_bump (h : (entries.map (·.1)).Nodup) (s : Severity) : ((bump entries s).map (·.1)).Nodup := by
  rw [map_fst_bump]
  split
  · exact h
  · rename_i hs
    exact h.append (List.nodup_singleton s) (List.disjoint_singleton.2 hs)

theorem lookup_bump (entries : List (Severity × Nat)) (s t : Severity) :
    (bump entries s).lookup t =
      if t = s then some ((entries.lookup t).getD 0 + 1) else entries.lookup t := by
  induction entries with
  | nil => exact lookup_cons_eq s t 1 []
  | cons e entries ih =>
    obtain ⟨u, n⟩ := e
    rw [bump]
    split
    · rename_i hus
      obtain rfl := hus
      simp only [lookup_cons_eq]
      split <;> rfl
    · rename_i hus
      simp only [lookup_cons_eq, ih]
      by_cases htu : t = u
      · simp [htu, hus]
      · simp only [if_neg htu]

theorem sum_bump (entries : List (Severity × Nat)) (s : Severity) :
    ((bump entries s).map (·.2)).sum = (entries.map (·.2)).sum + 1 := by
  induction entries with
  | nil => rfl
  | cons e entries ih =>
    obtain ⟨t, n⟩ := e
    by_cases hts : t = s
    · simp only [bump, if_pos hts, List.map_cons, List.sum_cons]
      omega
    · simp only [bump, if_neg hts, List.map_cons, List.sum_cons, ih]
      omega

theorem foldl_bump (l : List Severity) :
    ((l.foldl bump []).map (·.1)).Nodup ∧
      (∀ s, (l.foldl bump []).lookup s = if s ∈ l then some (l.count s) else none) ∧
      ((l.foldl bump []).map (·.2)).sum = l.length := by
  induction l using List.reverseRecOn with
  | nil => exact ⟨List.nodup_nil, fun s => rfl, rfl⟩
  | append_singleton l t ih =>
    obtain ⟨hnodup, hlookup, hsum⟩ := ih
    rw [List.foldl_concat]
    refine ⟨nodup_bump hnodup t, fun s => ?_, by rw [sum_bump, hsum, List.length_append, List.length_singleton]⟩
    rw [lookup_bump, hlookup]
    by_cases hst : s = t
    · by_cases hs : s ∈ l <;> simp [hst, hst ▸ hs, List.count_append, List.count_eq_zero_of_not_mem]
    · simp [hst, List.count_append, Ne.symm hst]

theorem mem_severityCounts {r : Report} {n : Nat} :
    (s, n) ∈ r.severityCounts ↔ 0 < n ∧ n = r.severities.count s := by
  obtain ⟨hnodup, hlookup, -⟩ := foldl_bump r.severities
  rw [severityCounts, (sortBy_perm _ _).mem_iff, ← lookup_eq_some_iff_mem hnodup, hlookup]
  split
  · rename_i hs
    have hpos := List.count_pos_iff.2 hs
    simp only [Option.some.injEq]
    omega
  · rename_i hs
    rw [List.count_eq_zero_of_not_mem hs]
    simp only [reduceCtorEq, false_iff]
    omega

theorem pairwise_severityCounts (r : Report) : (r.severityCounts.map (·.1)).Pairwise (· < ·) := by
  have hkeys := (foldl_bump r.severities).1
  refine pairwise_map_sortBy (fun a b => ?_) (fun a b c hab hbc => ?_) (fun a b hab hne => ?_) hkeys
  · simpa only [decide_eq_true_eq] using Std.le_total (a := a.1) (b := b.1)
  · rw [decide_eq_true_eq] at *
    exact Std.le_trans hab hbc
  · exact Nat.lt_of_le_of_ne (of_decide_eq_true hab) fun heq => hne (Severity.rank_injective heq)

theorem mem_map_severityCounts {r : Report} {s : Severity} :
    s ∈ r.severityCounts.map (·.1) ↔ s ∈ r.severities := by
  rw [List.mem_map]
  constructor
  · rintro ⟨⟨s, n⟩, hmem, rfl⟩
    obtain ⟨hpos, rfl⟩ := mem_severityCounts.1 hmem
    exact List.count_pos_iff.1 hpos
  · intro hs
    exact ⟨_, mem_severityCounts.2 ⟨List.count_pos_iff.2 hs, rfl⟩, rfl⟩

theorem getLast?_severityCounts (r : Report) : r.severityCounts.getLast?.map (·.1) = r.severity := by
  have hsorted : (r.severityCounts.map (·.1)).Pairwise (· ≤ ·) :=
    r.pairwise_severityCounts.imp fun h => Nat.le_of_lt h
  rw [← List.getLast?_map, getLast?_eq_max? hsorted, severity]
  exact max?_congr fun s => mem_map_severityCounts

theorem count_severities (r : Report) (s : Severity) : r.severities.count s = r.issues.countP (·.severity = s) := by
  rw [severities, List.count, List.countP_map]
  exact List.countP_congr fun i _ => by simp

theorem sum_severityCounts (r : Report) : (r.severityCounts.map (·.2)).sum = r.issues.length := by
  rw [severityCounts, ((sortBy_perm _ _).map _).sum_nat, (foldl_bump r.severities).2.2, severities, List.length_map]

def countOf (r : Report) (s : Severity) : Nat := (r.severityCounts.lookup s).getD 0

theorem countOf_eq (r : Report) (s : Severity) : r.countOf s = r.severities.count s := by
  have hnodup : (r.severityCounts.map (·.1)).Nodup := r.pairwise_severityCounts.imp fun h heq => by
    rw [heq] at h
    exact Nat.lt_irrefl _ h
  have hlookup (n : Nat) : r.severityCounts.lookup s = some n ↔ 0 < n ∧ n = r.severities.count s :=
    (lookup_eq_some_iff_mem hnodup).trans mem_severityCounts
  rw [countOf]
  cases h : r.severityCounts.lookup s with
  | none =>
    refine (Nat.eq_zero_of_not_pos fun hpos => ?_).symm
    rw [(hlookup _).2 ⟨hpos, rfl⟩] at h
    cases h
  | some n => exact ((hlookup n).1 h).2

theorem severities_withIssues (r : Report) (is : List Issue) :
    (r.withIssues is).severities = r.severities ++ is.map (·.severity) := List.map_append

theorem severity_of_perm {r q : Report} (h : q.severities.Perm r.severities) : q.severity = r.severity :=
  max?_congr fun _ => h.mem_iff

theorem severityCounts_of_perm {r q : Report} (h : q.severities.Perm r.severities) :
    q.severityCounts = r.severityCounts := by
  have hsorted (r : Report) : r.severityCounts.Pairwise fun a b => a.1 < b.1 :=
    List.pairwise_map.1 r.pairwise_severityCounts
  have hnodup (r : Report) : r.severityCounts.Nodup :=
    (List.pairwise_map.1 r.pairwise_severityCounts).imp fun hlt => by
      rintro rfl
      exact Nat.lt_irrefl _ hlt
  have hperm : q.severityCounts.Perm r.severityCounts := by
    rw [List.perm_ext_iff_of_nodup (hnodup q) (hnodup r)]
    rintro ⟨s, n⟩
    rw [mem_severityCounts, mem_severityCounts, h.count_eq]
  exact hperm.eq_of_pairwise (fun a b _ _ hab hba => absurd hba (Nat.lt_asymm hab)) (hsorted q) (hsorted r)

theorem aggregates_agree (r q : Report) :
    (r.severity = none ↔ r.issues = []) ∧
    (∀ s, r.severity = some s ↔ (∃ i ∈ r.issues, i.severity = s) ∧ ∀ i ∈ r.issues, i.severity ≤ s) ∧
    (r.severityCounts.map (·.1)).Pairwise (· < ·) ∧
    (∀ s n, (s, n) ∈ r.severityCounts ↔ 0 < n ∧ n = r.issues.countP (·.severity = s)) ∧
    (r.severityCounts.map (·.2)).sum = r.issues.length ∧
    r.severityCounts.getLast?.map (·.1) = r.severity ∧
    (q.issues.Perm r.issues →
      q.severity = r.severity ∧ q.severityCounts = r.severityCounts ∧ q.summaryText = r.summaryText) ∧
    (∀ s, (r.withIssues q.issues).countOf s = r.countOf s + q.countOf s) ∧
    (r.withIssues q.issues).severity = Option.merge max r.severity q.severity := by
  refine ⟨?none, fun s => ?some, r.pairwise_severityCounts, fun s n => ?counts, r.sum_severityCounts,
    r.getLast?_severityCounts, fun h => ?perm, fun s => ?adds, ?joined⟩
  case none => rw [severity, List.max?_eq_none_iff, severities, List.map_eq_nil_iff]
  case some => rw [severity, List.max?_eq_some_iff, severities, List.mem_map, List.forall_mem_map]
  case counts => rw [mem_severityCounts, count_severities]
  case perm =>
    have hperm : q.severities.Perm r.severities := h.map _
    have hcounts := severityCounts_of_perm hperm
    exact ⟨severity_of_perm hperm, hcounts, by rw [summaryText, summaryText, hcounts]⟩
  case adds =>
    rw [countOf_eq, countOf_eq, countOf_eq, severities_withIssues, List.count_append]
    rfl
  case joined =>
    rw [severity, severities_withIssues, max?_append]
    rfl

theorem aggregates_agree_reordered :
    let r := (ofIssue (.new .error "a")).withIssues [.new .note "b", .new .error "c"]
    let q := ((empty.withIssue (.new .error "c")).withIssues [.new .error "a", .new .note "b"]).withFooter
      ⟨"done", [], true⟩
    q.issues.Perm r.issues ∧ q.severity = r.severity ∧ q.severityCounts = r.severityCounts ∧
      q.summaryText = r.summaryText ∧ r.severityCounts = [(.note, 1), (.error, 2)] := by
  intro r q
  have hperm : q.issues.Perm r.issues := by decide
  obtain ⟨-, -, -, -, -, -, hsame, -⟩ := aggregates_agree r q
  obtain ⟨hseverity, hcounts, hsummary⟩ := hsame hperm
  exact ⟨hperm, hseverity, hcounts, hsummary, by decide⟩

end Report

end Diagnostics
