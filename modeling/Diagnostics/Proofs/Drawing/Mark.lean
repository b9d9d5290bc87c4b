import Diagnostics.Proofs.Drawing.Canvas
import Diagnostics.Proofs.Drawing.Packing

namespace Diagnostics

def Spaced : Nat → List Mark → Prop
  | _, [] => True
  | pos, m :: rest => pos ≤ m.start ∧ m.start < m.stop ∧ Spaced m.stop rest

def reach : Nat → List Mark → Nat
  | pos, [] => pos
  | _, m :: rest => reach m.stop rest

theorem Mark.start_lt_stop_new (start stop : Nat) (kind : Weight) (label : Option String) (order : Nat) :
    (Mark.new start stop kind label order).start < (Mark.new start stop kind label order).stop := by
  rw [new]
  split <;> simp only <;> omega

theorem Mark.stop_new (start stop : Nat) (kind : Weight) (label : Option String) (order : Nat) :
    (Mark.new start stop kind label order).stop = max stop (start + 1) := by
  rw [new]
  split <;> simp only <;> omega

theorem reach_eq_getLast? (pos : Nat) (row : List Mark) :
    reach pos row = (row.getLast?.map (·.stop)).getD pos := by
  induction row generalizing pos with
  | nil => rfl
  | cons m rest ih =>
    rw [reach, ih, List.getLast?_cons]
    cases rest.getLast? <;> rfl

theorem le_reach {pos : Nat} {row : List Mark} (h : Spaced pos row) : pos ≤ reach pos row := by
  induction row generalizing pos with
  | nil => exact Nat.le_refl pos
  | cons m rest ih =>
    obtain ⟨hpos, hlt, hrest⟩ := h
    have := ih hrest
    rw [reach]
    omega

theorem le_start_of_spaced {pos : Nat} {row : List Mark} {m : Mark} (h : Spaced pos row) (hm : m ∈ row) :
    pos ≤ m.start := by
  induction row generalizing pos with
  | nil => cases hm
  | cons n rest ih =>
    obtain ⟨hpos, hlt, hrest⟩ := h
    rcases List.mem_cons.1 hm with rfl | hm
    · exact hpos
    · have := ih hrest hm
      omega

def Packed (rows : List (List Mark)) : Prop := ∀ row ∈ rows, row ≠ [] ∧ Spaced 0 row

theorem spaced_of_pairwise {pos : Nat} {row : List Mark} (hfrom : ∀ m ∈ row, pos ≤ m.start)
    (hproper : ∀ m ∈ row, m.start < m.stop) (h : row.Pairwise fun a b => a.stop ≤ b.start) : Spaced pos row := by
  induction row generalizing pos with
  | nil => trivial
  | cons m rest ih =>
    obtain ⟨hm, hrest⟩ := List.pairwise_cons.1 h
    obtain ⟨hlt, hproper⟩ := List.forall_mem_cons.1 hproper
    exact ⟨hfrom m (List.mem_cons_self ..), hlt, ih hm hproper hrest⟩

theorem packed_packMarks {marks : List Mark} (h : ∀ m ∈ marks, m.start < m.stop) : Packed (packMarks marks) := by
  have htight := tight_packMarks h
  intro row hrow
  refine ⟨htight.nonempty row hrow, spaced_of_pairwise (fun m _ => Nat.zero_le m.start) ?_ (htight.spaced row hrow)⟩
  intro m hm
  exact h m ((packMarks_perm marks).subset (List.mem_flatten.2 ⟨row, hrow, hm⟩))

theorem exists_group {marks : List Mark} {m : Mark} (horders : (marks.map (·.order)).Nodup) (hm : m ∈ marks) :
    ∃ before group after, packMarks marks = before ++ group :: after ∧ m ∈ group ∧
      ∀ other ∈ before ++ after, ∀ n ∈ other, n.order ≠ m.order := by
  have hperm := packMarks_perm marks
  obtain ⟨group, hgroup, hmem⟩ := List.mem_flatten.1 (hperm.mem_iff.2 hm)
  obtain ⟨before, after, hrows⟩ := List.append_of_mem hgroup
  refine ⟨before, group, after, hrows, hmem, fun other hother n hn heq => ?_⟩
  have hmiddle : (before ++ group :: after).Perm (group :: (before ++ after)) := List.perm_middle
  have hnodup : ((group ++ (before ++ after).flatten).map (·.order)).Nodup := by
    rw [hrows] at hperm
    exact ((hmiddle.flatten.symm.trans hperm).map (·.order)).nodup_iff.2 horders
  rw [List.map_append, List.nodup_append] at hnodup
  have hout : n.order ∈ (before ++ after).flatten.map (·.order) :=
    List.mem_map_of_mem (List.mem_flatten.2 ⟨other, hother, hn⟩)
  exact hnodup.2.2 _ (List.mem_map_of_mem hmem) _ hout heq.symm

namespace MarkRow

def paint (g : Glyphs) : Nat → List Mark → List Cell
  | _, [] => []
  | pos, m :: rest =>
      List.replicate (m.start - pos) Cell.blank
        ++ List.replicate (m.stop - m.start) (g.caret m.kind, some m.kind) ++ paint g m.stop rest

theorem length_paint (g : Glyphs) {pos : Nat} {row : List Mark} (h : Spaced pos row) :
    (paint g pos row).length = reach pos row - pos := by
  induction row generalizing pos with
  | nil => simp [paint, reach]
  | cons m rest ih =>
    obtain ⟨hpos, hlt, hrest⟩ := h
    have hle := le_reach hrest
    rw [paint, List.length_append, List.length_append, List.length_replicate, List.length_replicate,
      ih hrest, reach]
    omega

theorem foldl_fill (g : Glyphs) {row : List Mark} {canvas : Canvas} (h : Spaced canvas.length row) :
    row.foldl (fun c m => Canvas.fill c m.start m.stop (g.caret m.kind) (some m.kind)) canvas =
      canvas ++ paint g canvas.length row := by
  induction row generalizing canvas with
  | nil => rw [paint, List.append_nil]; rfl
  | cons m rest ih =>
    obtain ⟨hpos, hlt, hrest⟩ := h
    have hfill : Canvas.fill canvas m.start m.stop (g.caret m.kind) (some m.kind) =
        canvas ++ (List.replicate (m.start - canvas.length) Cell.blank
          ++ List.replicate (m.stop - m.start) (g.caret m.kind, some m.kind)) := by
      rw [Canvas.fill, if_pos hlt, Canvas.put_of_length_le hpos, List.map_replicate, List.append_assoc]
    have hlength : (canvas ++ (List.replicate (m.start - canvas.length) Cell.blank
        ++ List.replicate (m.stop - m.start) (g.caret m.kind, some m.kind))).length = m.stop := by
      simp only [List.length_append, List.length_replicate]
      omega
    rw [List.foldl_cons, hfill, ih (hlength.symm ▸ hrest), hlength, paint, List.append_assoc]

def covering (row : List Mark) (j : Nat) : Option Mark := row.find? fun m => m.start ≤ j && j < m.stop

def cellAt (g : Glyphs) (row : List Mark) (j : Nat) : Cell :=
  match covering row j with
  | some m => (g.caret m.kind, some m.kind)
  | none => Cell.blank

theorem covering_eq_some {pos j : Nat} {row : List Mark} {m : Mark} (h : Spaced pos row) (hm : m ∈ row) :
    covering row j = some m ↔ m.start ≤ j ∧ j < m.stop := by
  constructor
  · intro hj
    have hcovers := List.find?_some hj
    simpa using hcovers
  · intro hj
    induction row generalizing pos with
    | nil => cases hm
    | cons n rest ih =>
      obtain ⟨hpos, hlt, hrest⟩ := h
      rcases List.mem_cons.1 hm with rfl | hm
      · rw [covering, List.find?_cons_of_pos]
        simpa using hj
      · have hstart := le_start_of_spaced hrest hm
        rw [covering, List.find?_cons_of_neg]
        · exact ih hrest hm
        · simp only [Bool.and_eq_true, decide_eq_true_eq]
          omega

theorem covering_of_lt {pos j : Nat} {row : List Mark} (h : Spaced pos row) (hj : j < pos) :
    covering row j = none := by
  rw [covering, List.find?_eq_none]
  intro m hm
  have := le_start_of_spaced h hm
  simp only [Bool.and_eq_true, decide_eq_true_eq]
  omega

theorem range'_split {a b c : Nat} (h : a ≤ b) (h' : b ≤ c) :
    List.range' a (c - a) = List.range' a (b - a) ++ List.range' b (c - b) := by
  have hsum : b - a + (c - b) = c - a := by omega
  have happend := List.range'_append_1 (s := a) (m := b - a) (n := c - b)
  rw [Nat.add_sub_cancel' h, hsum] at happend
  exact happend.symm

theorem paint_eq (g : Glyphs) {pos : Nat} {row : List Mark} (h : Spaced pos row) :
    paint g pos row = (List.range' pos (reach pos row - pos)).map (cellAt g row) := by
  induction row generalizing pos with
  | nil => simp [paint, reach]
  | cons m rest ih =>
    have hcovered (j : Nat) : covering (m :: rest) j = some m ↔ m.start ≤ j ∧ j < m.stop :=
      covering_eq_some h (List.mem_cons_self ..)
    obtain ⟨hpos, hlt, hrest⟩ := h
    have hle := le_reach hrest
    have hsplit : List.range' pos (reach pos (m :: rest) - pos) =
        List.range' pos (m.start - pos) ++ (List.range' m.start (m.stop - m.start)
          ++ List.range' m.stop (reach m.stop rest - m.stop)) := by
      rw [reach, range'_split hpos (by omega), range'_split (Nat.le_of_lt hlt) hle]
    have hbefore : (List.range' pos (m.start - pos)).map (cellAt g (m :: rest)) =
        List.replicate (m.start - pos) Cell.blank := by
      rw [List.eq_replicate_iff, List.length_map, List.length_range']
      refine ⟨rfl, fun c hc => ?_⟩
      obtain ⟨j, hj, rfl⟩ := List.mem_map.1 hc
      rw [List.mem_range'_1] at hj
      have hspaced : Spaced m.start (m :: rest) := ⟨Nat.le_refl _, hlt, hrest⟩
      rw [cellAt, covering_of_lt hspaced (by omega)]
    have hon : (List.range' m.start (m.stop - m.start)).map (cellAt g (m :: rest)) =
        List.replicate (m.stop - m.start) (g.caret m.kind, some m.kind) := by
      rw [List.eq_replicate_iff, List.length_map, List.length_range']
      refine ⟨rfl, fun c hc => ?_⟩
      obtain ⟨j, hj, rfl⟩ := List.mem_map.1 hc
      rw [List.mem_range'_1] at hj
      rw [cellAt, (hcovered j).2 ⟨hj.1, by omega⟩]
    have hbehind : (List.range' m.stop (reach m.stop rest - m.stop)).map (cellAt g (m :: rest)) =
        (List.range' m.stop (reach m.stop rest - m.stop)).map (cellAt g rest) := by
      refine List.map_congr_left fun j hj => ?_
      rw [List.mem_range'_1] at hj
      rw [cellAt, cellAt, covering, covering, List.find?_cons_of_neg]
      simp only [Bool.and_eq_true, decide_eq_true_eq]
      omega
    rw [paint, ih hrest, hsplit, List.map_append, List.map_append, hbefore, hon, hbehind, List.append_assoc]

theorem lt_reach_of_covering {pos j : Nat} {row : List Mark} {m : Mark} (h : Spaced pos row)
    (hj : covering row j = some m) : j < reach pos row := by
  have hmem := List.mem_of_find?_eq_some hj
  have hcovers := (covering_eq_some h hmem).1 hj
  induction row generalizing pos with
  | nil => cases hmem
  | cons n rest ih =>
    obtain ⟨hpos, hlt, hrest⟩ := h
    have hle := le_reach hrest
    rw [reach]
    rcases List.mem_cons.1 hmem with rfl | hmem
    · omega
    · exact ih hrest ((covering_eq_some hrest hmem).2 hcovers) hmem

def trailing (row : List Mark) : List Cell :=
  match row.getLast? with
  | some last => if last.hasLabel then Cell.blank :: last.labelText.map (·, some last.kind) else []
  | none => []

theorem markers_eq (g : Glyphs) {row : List Mark} (h : Spaced 0 row) :
    markers g row = (List.range (reach 0 row)).map (cellAt g row) ++ trailing row := by
  have hlength := length_paint g h
  have hdrawn : row.foldl (fun c m => Canvas.fill c m.start m.stop (g.caret m.kind) (some m.kind)) [] =
      paint g 0 row := foldl_fill g (show Spaced (List.length ([] : Canvas)) row from h)
  rw [List.range_eq_range', ← Nat.sub_zero (reach 0 row), ← paint_eq g h, markers, hdrawn, trailing]
  cases hlast : row.getLast? with
  | none => rw [List.append_nil]
  | some last =>
    rw [reach_eq_getLast?, hlast, Nat.sub_zero] at hlength
    simp only [Option.map_some, Option.getD_some] at hlength
    simp only
    split
    · rw [Canvas.put_of_length_le (by omega), hlength, Nat.add_sub_cancel_left, List.append_assoc]
      rfl
    · rw [List.append_nil]

theorem getLast?_paint (g : Glyphs) {pos : Nat} {row : List Mark} (h : Spaced pos row) (hne : row ≠ []) :
    ∃ c k, (paint g pos row).getLast? = some (c, some k) := by
  induction row generalizing pos with
  | nil => exact absurd rfl hne
  | cons m rest ih =>
    obtain ⟨hpos, hlt, hrest⟩ := h
    have hcount : m.stop - m.start = m.stop - m.start - 1 + 1 := by omega
    by_cases hnil : rest = []
    · refine ⟨g.caret m.kind, m.kind, ?_⟩
      rw [paint, hnil, paint, List.append_nil, hcount, List.replicate_succ', ← List.append_assoc,
        List.getLast?_concat]
    · obtain ⟨c, k, hlast⟩ := ih hrest hnil
      refine ⟨c, k, ?_⟩
      rw [paint, List.getLast?_append, hlast]
      rfl

theorem getLast?_markers (g : Glyphs) {row : List Mark} (h : Spaced 0 row) (hne : row ≠ []) :
    ∃ c k, (markers g row).getLast? = some (c, some k) := by
  have hpaint := getLast?_paint g h hne
  rw [paint_eq g h, Nat.sub_zero, ← List.range_eq_range'] at hpaint
  rw [markers_eq g h, List.getLast?_append, trailing]
  cases hlast : row.getLast? with
  | none => exact hpaint
  | some last =>
    simp only
    split
    · rename_i hlabel
      have hne : last.labelText ≠ [] := by
        simpa [Mark.hasLabel] using hlabel
      refine ⟨last.labelText.getLast hne, last.kind, ?_⟩
      rw [List.getLast?_cons, List.getLast?_map, List.getLast?_eq_some_getLast hne]
      rfl
    · exact hpaint

end MarkRow

end Diagnostics
