import Diagnostics.Proofs.Outcome
import Diagnostics.Proofs.Sorting
import Diagnostics.Proofs.Source.LineTable
import Diagnostics.Source.Excerpt

namespace Diagnostics

theorem exists_filter_eq_singleton {α β : Type} [DecidableEq β] {f : α → β} {l : List α}
    (h : (l.map f).Nodup) {b : β} (hb : b ∈ l.map f) : ∃ a ∈ l, f a = b ∧ l.filter (f · = b) = [a] := by
  induction l with
  | nil => cases hb
  | cons a l ih =>
    obtain ⟨ha, hl⟩ := List.nodup_cons.1 h
    rcases List.mem_cons.1 hb with rfl | hb
    · refine ⟨a, List.mem_cons_self .., rfl, ?_⟩
      rw [List.filter_cons_of_pos (by simp), List.filter_eq_nil_iff.2]
      intro c hc heq
      exact ha (of_decide_eq_true heq ▸ List.mem_map_of_mem hc)
    · obtain ⟨c, hc, hcb, hfilter⟩ := ih hl hb
      refine ⟨c, List.mem_cons_of_mem _ hc, hcb, ?_⟩
      rw [List.filter_cons_of_neg, hfilter]
      intro heq
      exact ha (of_decide_eq_true heq ▸ hb)

section Windows

variable {last line offset context k : Nat} {shown : List Nat} {requested : List Int} {r : Int}

theorem pairwise_le_sortBy {α : Type} [LinearOrder α] (l : List α) :
    (sortBy (fun a b : α => decide (a ≤ b)) l).Pairwise (· ≤ ·) := by
  have hsorted : (sortBy (fun a b : α => decide (a ≤ b)) l).Pairwise fun a b => decide (a ≤ b) = true :=
    pairwise_sortBy (fun a b => by simpa using le_total a b)
      (fun a b c hab hbc => decide_eq_true ((of_decide_eq_true hab).trans (of_decide_eq_true hbc))) l
  exact hsorted.imp fun hab => of_decide_eq_true hab

theorem mem_insert_if {p : Prop} [Decidable p] {a : Nat} :
    k ∈ (if p then shown.insert a else shown) ↔ k ∈ shown ∨ p ∧ k = a := by
  split
  · rename_i hp
    rw [List.mem_insert_iff, or_comm, and_iff_right hp]
  · rename_i hp
    simp [hp]

theorem nodup_insert_if {p : Prop} [Decidable p] {a : Nat} (h : shown.Nodup) :
    (if p then shown.insert a else shown).Nodup := by
  split
  · exact h.insert
  · exact h

theorem mem_addAt : k ∈ addAt last line shown offset ↔
    k ∈ shown ∨ offset < line ∧ k = line - offset ∨ line + offset ≤ last ∧ k = line + offset := by
  rw [addAt, mem_insert_if, mem_insert_if, or_assoc]

theorem mem_foldl_of_step {α β : Type} {f : List β → α → List β} {b : β} {P : α → Prop}
    (h : ∀ set a, b ∈ f set a ↔ b ∈ set ∨ P a) (l : List α) (set : List β) :
    b ∈ l.foldl f set ↔ b ∈ set ∨ ∃ a ∈ l, P a := by
  induction l generalizing set with
  | nil => simp
  | cons a l ih => rw [List.foldl_cons, ih, h, or_assoc, List.exists_mem_cons_iff]

theorem mem_addAround : k ∈ addAround last context shown line ↔ k ∈ shown ∨
    (1 ≤ k ∧ k < line ∧ line - k ≤ context) ∨ line < k ∧ k - line ≤ context ∧ k ≤ last := by
  rw [addAround, mem_foldl_of_step (f := addAt last line) fun shown offset => mem_addAt]
  simp only [List.mem_range'_1]
  refine or_congr_right ⟨?_, ?_⟩
  · rintro ⟨offset, hoffset, ⟨hlt, rfl⟩ | ⟨hle, rfl⟩⟩
    · exact .inl (by omega)
    · exact .inr (by omega)
  · rintro (h | h)
    · exact ⟨line - k, by omega, .inl (by omega)⟩
    · exact ⟨k - line, by omega, .inr (by omega)⟩

theorem nodup_windows (last : Nat) {requested : List Nat} (h : requested.Nodup) (context : Nat) :
    (windows last requested context).Nodup := by
  refine (sortBy_perm _ _).nodup_iff.2 (List.foldlRecOn (motive := List.Nodup) requested _ h ?_)
  intro shown hshown line _
  refine List.foldlRecOn (motive := List.Nodup) (List.range' 1 context) _ hshown ?_
  exact fun shown hshown offset _ => nodup_insert_if (nodup_insert_if hshown)

theorem mem_windows {requested : List Nat} : k ∈ windows last requested context ↔ k ∈ requested ∨
    ∃ line ∈ requested, (1 ≤ k ∧ k < line ∧ line - k ≤ context) ∨ line < k ∧ k - line ≤ context ∧ k ≤ last := by
  rw [windows, (sortBy_perm _ _).mem_iff,
    mem_foldl_of_step (f := addAround last context) fun shown line => mem_addAround]

theorem mem_requestedNumbers : r ∈ requestedNumbers requested ↔ r ∈ requested := by
  rw [requestedNumbers, (sortBy_perm _ _).mem_iff, mem_foldl_of_step (P := (r = ·)) fun set a => ?_]
  · simp
  · rw [List.mem_insert_iff, or_comm]

theorem nodup_requestedNumbers (requested : List Int) : (requestedNumbers requested).Nodup := by
  refine (sortBy_perm _ _).nodup_iff.2 (List.foldlRecOn (motive := List.Nodup) requested _ List.nodup_nil ?_)
  exact fun numbers hnumbers r _ => hnumbers.insert

theorem pairwise_requestedNumbers (requested : List Int) : (requestedNumbers requested).Pairwise (· < ·) :=
  (pairwise_le_sortBy _).imp₂ (fun _ _ => lt_of_le_of_ne) (nodup_requestedNumbers requested)

theorem mem_requestedLines (h : ∀ r ∈ requested, 0 ≤ r) : k ∈ requestedLines requested ↔ (k : Int) ∈ requested := by
  rw [requestedLines, List.mem_map]
  simp only [mem_requestedNumbers]
  constructor
  · rintro ⟨r, hr, rfl⟩
    rwa [Int.toNat_of_nonneg (h r hr)]
  · exact fun hk => ⟨k, hk, Int.toNat_natCast k⟩

theorem nodup_requestedLines (h : ∀ r ∈ requested, 0 ≤ r) : (requestedLines requested).Nodup := by
  refine (nodup_requestedNumbers requested).map_on fun a ha b hb hab => ?_
  rw [← Int.toNat_of_nonneg (h a (mem_requestedNumbers.1 ha)), hab,
    Int.toNat_of_nonneg (h b (mem_requestedNumbers.1 hb))]

end Windows

namespace Source

def shows (s : Source) (requested : List Int) (context k : Nat) : Bool :=
  requested.any fun r =>
    r = k || ((k : Int) < r && r - k ≤ context)
      || (r < k && k - r ≤ context && k ≤ s.lastContextLine)

def lineNumbers (s : Source) : List Nat := (List.range s.lineCount).map (· + 1)

def shownLines (s : Source) (requested : List Int) (context : Nat) : List Nat :=
  s.lineNumbers.filter (s.shows requested context)

theorem mem_lineNumbers {s : Source} {k : Nat} : k ∈ s.lineNumbers ↔ 1 ≤ k ∧ k ≤ s.lineCount := by
  rw [lineNumbers, List.mem_map]
  constructor
  · rintro ⟨i, hi, rfl⟩
    rw [List.mem_range] at hi
    omega
  · intro h
    exact ⟨k - 1, List.mem_range.2 (by omega), by omega⟩

theorem mem_shownLines_bounds {s : Source} {requested : List Int} {context k : Nat}
    (h : k ∈ s.shownLines requested context) : 1 ≤ k ∧ k ≤ s.lineCount :=
  mem_lineNumbers.1 (List.mem_of_mem_filter h)

theorem pairwise_shownLines (s : Source) (requested : List Int) (context : Nat) :
    (s.shownLines requested context).Pairwise (· < ·) := by
  refine List.Pairwise.filter _ ?_
  rw [lineNumbers, List.pairwise_map]
  exact List.Pairwise.imp (fun h => Nat.succ_lt_succ h) List.pairwise_lt_range

theorem requested_mem_shownLines {s : Source} {requested : List Int} (context : Nat) {k : Nat}
    (hk : 1 ≤ k ∧ k ≤ s.lineCount) (h : (k : Int) ∈ requested) : k ∈ s.shownLines requested context := by
  rw [shownLines, List.mem_filter]
  refine ⟨mem_lineNumbers.2 hk, ?_⟩
  rw [shows, List.any_eq_true]
  exact ⟨k, h, by simp⟩

theorem lastContextLine_le (s : Source) : s.lastContextLine ≤ s.lineCount := by
  rw [lastContextLine]
  split <;> omega

theorem windows_eq {s : Source} {requested : List Int} (context : Nat) (h : ∀ r ∈ requested, 1 ≤ r ∧ r ≤ s.lineCount) :
    windows s.lastContextLine (requestedLines requested) context = s.shownLines requested context := by
  have hnonneg : ∀ r ∈ requested, 0 ≤ r := fun r hr => Int.le_trans Int.one_nonneg (h r hr).1
  have hlt : (windows s.lastContextLine (requestedLines requested) context).Pairwise (· < ·) :=
    (pairwise_le_sortBy _).imp₂ (fun _ _ => lt_of_le_of_ne)
      (nodup_windows s.lastContextLine (nodup_requestedLines hnonneg) context)
  refine hlt.eq_of_mem_iff (s.pairwise_shownLines requested context) fun k => ?_
  have hlast := s.lastContextLine_le
  rw [mem_windows, mem_requestedLines hnonneg, shownLines, List.mem_filter, mem_lineNumbers, shows, List.any_eq_true]
  simp only [Bool.or_eq_true, Bool.and_eq_true, decide_eq_true_eq]
  constructor
  · rintro (hk | ⟨line, hline, hnear⟩)
    · exact ⟨by have := h k hk; omega, k, hk, by simp⟩
    · rw [mem_requestedLines hnonneg] at hline
      have := h line hline
      exact ⟨by omega, line, hline, by omega⟩
  · rintro ⟨hk, r, hr, hnear⟩
    obtain ⟨line, rfl⟩ := Int.eq_ofNat_of_zero_le (hnonneg r hr)
    rcases hnear with (heq | hnear) | hnear
    · exact .inl (heq ▸ hr)
    · exact .inr ⟨line, (mem_requestedLines hnonneg).2 hr, by omega⟩
    · exact .inr ⟨line, (mem_requestedLines hnonneg).2 hr, by omega⟩

theorem markGaps_fst (before : Option Nat) (ks : List Nat) : (markGaps before ks).map (·.1) = ks := by
  induction ks generalizing before with
  | nil => rfl
  | cons k ks ih => rw [markGaps, List.map_cons, ih]

def excerptLines (s : Source) (requested : List Int) (context : Nat) : List ExcerptLine :=
  (markGaps none (s.shownLines requested context)).map fun (k, gap) => ⟨k, s.shownText k, gap⟩

theorem excerpt_eq {s : Source} {requested : List Int} (context : Nat)
    (h : ∀ r ∈ requested, 1 ≤ r ∧ r ≤ s.lineCount) :
    s.excerpt requested context = .ok (s.excerptLines requested context) := by
  have hmissing : s.missingLine? requested = none := by
    rw [missingLine?, List.find?_eq_none]
    intro r hr
    have := h r (mem_requestedNumbers.1 hr)
    simp
    omega
  rw [excerpt, hmissing]
  simp only [windows_eq context h]
  refine mapM_eq_map fun kg hkg => ?_
  obtain ⟨k, gap⟩ := kg
  have hk : k ∈ s.shownLines requested context := by
    rw [← markGaps_fst none (s.shownLines requested context)]
    exact List.mem_map_of_mem hkg
  simp only [lineText_of_line (mem_shownLines_bounds hk)]
  rfl

theorem excerptLines_number (s : Source) (requested : List Int) (context : Nat) :
    (s.excerptLines requested context).map (·.number) = s.shownLines requested context := by
  rw [excerptLines, List.map_map]
  exact markGaps_fst none (s.shownLines requested context)

theorem nodup_shownLines (s : Source) (requested : List Int) (context : Nat) :
    (s.shownLines requested context).Nodup :=
  (s.pairwise_shownLines requested context).imp Nat.ne_of_lt

theorem excerptLines_text {s : Source} {requested : List Int} {context : Nat} {l : ExcerptLine}
    (h : l ∈ s.excerptLines requested context) : l.text = s.shownText l.number := by
  rw [excerptLines, List.mem_map] at h
  obtain ⟨kg, -, rfl⟩ := h
  rfl

structure Similar (shown : List Nat) (s s' : Source) : Prop where
  lineCount : s'.lineCount = s.lineCount
  lastContextLine : s'.lastContextLine = s.lastContextLine
  shownText : ∀ k ∈ shown, s'.shownText k = s.shownText k

variable {s s' : Source} {shown : List Nat}

theorem Similar.lineNumbers (h : Similar shown s s') : s'.lineNumbers = s.lineNumbers := by
  rw [Source.lineNumbers, Source.lineNumbers, h.lineCount]

theorem Similar.shownLines (h : Similar shown s s') (requested : List Int) (context : Nat) :
    s'.shownLines requested context = s.shownLines requested context := by
  have hshows : s'.shows requested context = s.shows requested context := by
    funext k
    rw [shows, shows, h.lastContextLine]
  rw [Source.shownLines, Source.shownLines, h.lineNumbers, hshows]

theorem Similar.excerptLines {requested : List Int} {context : Nat}
    (h : Similar (s.shownLines requested context) s s') :
    s'.excerptLines requested context = s.excerptLines requested context := by
  rw [Source.excerptLines, Source.excerptLines, h.shownLines]
  apply List.map_congr_left
  intro kg hkg
  have hk : kg.1 ∈ s.shownLines requested context := by
    rw [← markGaps_fst none (s.shownLines requested context)]
    exact List.mem_map_of_mem hkg
  simp only [h.shownText kg.1 hk]

end Source

end Diagnostics
