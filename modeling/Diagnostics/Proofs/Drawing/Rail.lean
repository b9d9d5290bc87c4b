import Diagnostics.Drawing.Rows
import Diagnostics.Proofs.Drawing.Canvas
import Diagnostics.Proofs.Drawing.Piece
import Mathlib.Data.List.Induction

namespace Diagnostics

theorem Row.getElem?_cells_trim {r : Row} {i : Nat} {c : Cell} (hc : c ≠ Cell.blank) :
    r.trim.cells[i]? = some c ↔ r.cells[i]? = some c := by
  obtain ⟨n, hn⟩ := cells_trim r
  rw [hn]
  by_cases hi : i < r.trim.cells.length
  · rw [List.getElem?_append_left hi]
  · have hi := Nat.le_of_not_lt hi
    rw [List.getElem?_append_right hi, List.getElem?_eq_none hi]
    simp only [reduceCtorEq, List.getElem?_replicate, false_iff]
    split
    · intro h
      exact hc (Option.some.inj h).symm
    · simp

namespace Rail

def vertical (g : Glyphs) (r : Rail) : Cell := (g.railVertical, some r.kind)

def verticalOr (g : Glyphs) (other : Cell) (runs : Bool) (r : Rail) : Cell := if runs then r.vertical g else other

theorem vertical_ne_blank (g : Glyphs) (r : Rail) : r.vertical g ≠ Cell.blank := by
  simp [vertical, Cell.blank]

theorem verticalOr_eq_vertical {g : Glyphs} {other : Cell} {runs : Bool} {r : Rail} (h : other ≠ r.vertical g) :
    r.verticalOr g other runs = r.vertical g ↔ runs = true := by
  cases runs <;> simp [verticalOr, h]

theorem precedes_total (a b : Rail) : a.precedes b ∨ b.precedes a := by
  simp [precedes]
  omega

theorem precedes_trans (a b c : Rail) (hab : a.precedes b) (hbc : b.precedes c) : a.precedes c := by
  simp [precedes] at *
  omega

end Rail

theorem pairwise_arrangeRails (rails : List Rail) :
    (arrangeRails rails).Pairwise fun a b => a.startLine ≤ b.startLine := by
  apply (pairwise_sortBy Rail.precedes_total Rail.precedes_trans rails).imp
  intro a b h
  simp [Rail.precedes] at h
  omega

theorem Glyphs.railTop_ne (charset : CharSet) : (ofCharSet charset).railTop ≠ (ofCharSet charset).railVertical := by
  cases charset <;> decide

theorem Glyphs.railFill_ne (charset : CharSet) :
    (ofCharSet charset).railFill ≠ (ofCharSet charset).railVertical := by
  cases charset <;> decide

namespace Rails

variable {rails : List Rail} {i j : Nat} {r o : Rail}

theorem lt_width (h : rails[i]? = some r) : i < rails.length ∧ width rails = rails.length + 1 := by
  obtain ⟨hi, -⟩ := List.getElem?_eq_some_iff.1 h
  have hne : ¬ rails.isEmpty := by
    simpa using List.ne_nil_of_length_pos (Nat.zero_lt_of_lt hi)
  exact ⟨hi, by rw [width, if_neg hne]⟩

def drawn : Option (Char × Weight) → Cell
  | some (c, kind) => (c, some kind)
  | none => Cell.blank

theorem pass_concat (draw : Nat → Rail → Option (Char × Weight)) (rails : List Rail) (r : Rail) :
    pass draw (rails ++ [r]) =
      match draw rails.length r with
      | some (c, kind) => (pass draw rails).put rails.length [c] (some kind)
      | none => pass draw rails := by
  rw [pass, List.zipIdx_append, List.foldl_append, Nat.zero_add]
  rfl

theorem padTo_pass (draw : Nat → Rail → Option (Char × Weight)) (rails : List Rail) :
    (pass draw rails).length ≤ rails.length ∧
      (pass draw rails).padTo rails.length = rails.zipIdx.map fun (r, i) => drawn (draw i r) := by
  induction rails using List.reverseRecOn with
  | nil => exact ⟨Nat.le_refl _, rfl⟩
  | append_singleton rails r ih =>
    obtain ⟨hlength, hcells⟩ := ih
    rw [pass_concat, List.length_append, List.length_singleton, List.zipIdx_append, List.map_append, ← hcells,
      Nat.zero_add]
    cases hdraw : draw rails.length r with
    | none =>
      refine ⟨Nat.le_succ_of_le hlength, ?_⟩
      rw [Canvas.padTo_succ hlength]
      simp [drawn, hdraw]
    | some cell =>
      have hput := Canvas.put_of_le hlength [cell.1] (some cell.2)
      have hreach : ((pass draw rails).put rails.length [cell.1] (some cell.2)).length = rails.length + 1 := by
        rw [hput, List.length_append, Canvas.length_padTo]
        rfl
      refine ⟨Nat.le_of_eq hreach, ?_⟩
      rw [Canvas.padTo_of_length_eq hreach, hput]
      simp [drawn, hdraw]

theorem padTo_verticals (g : Glyphs) (runs : Rail → Bool) (rails : List Rail) :
    let canvas := pass (fun _ o => if runs o then some (g.railVertical, o.kind) else none) rails
    canvas.length ≤ rails.length ∧ canvas.padTo rails.length = rails.map fun o => o.verticalOr g .blank (runs o) := by
  intro canvas
  obtain ⟨hlength, hcells⟩ := padTo_pass (fun _ o => if runs o then some (g.railVertical, o.kind) else none) rails
  refine ⟨hlength, hcells.trans ?_⟩
  conv_rhs => rw [← List.zipIdx_map_fst 0 rails, List.map_map]
  refine List.map_congr_left fun ⟨o, j⟩ _ => ?_
  simp only [Function.comp_apply, Rail.verticalOr, Rail.vertical]
  split <;> rfl

theorem beside_eq (g : Glyphs) (rails : List Rail) (line : Nat) :
    beside g rails line =
      if rails.isEmpty then []
      else rails.map (fun r => r.verticalOr g .blank (r.isActive line)) ++ [Cell.blank] := by
  obtain ⟨hlength, hcells⟩ := padTo_verticals g (fun r => r.isActive line) rails
  rw [beside, width]
  split
  · rename_i hempty
    obtain rfl := List.isEmpty_iff.1 hempty
    rfl
  · rw [Canvas.put_of_le (Nat.le_succ_of_le hlength), Canvas.padTo_succ hlength, hcells, List.map_nil, List.append_nil]

theorem opening_eq (g : Glyphs) (hr : rails[i]? = some r) :
    opening g rails i r =
      (rails.take i).map (fun o => o.verticalOr g .blank (o.isActive r.startLine || o.startLine = r.startLine))
        ++ (g.railTop, some r.kind)
          :: List.replicate (width rails + r.startCell - (i + 1)) (g.railFill, some r.kind)
        ++ [(g.caret r.kind, some r.kind)] := by
  obtain ⟨hi, hwidth⟩ := lt_width hr
  have hstop : i + 1 < width rails + r.startCell := by omega
  obtain ⟨hlength, hcells⟩ :=
    padTo_verticals g (fun o => o.isActive r.startLine || o.startLine = r.startLine) (rails.take i)
  rw [List.length_take_of_le (Nat.le_of_lt hi)] at hlength hcells
  have hfront := (List.length_map (fun o : Rail => o.verticalOr g .blank
    (o.isActive r.startLine || o.startLine = r.startLine))).trans (List.length_take_of_le (Nat.le_of_lt hi))
  rw [opening, Canvas.put_of_le hlength, hcells, Canvas.put_fill (Canvas.padTo_of_length_eq ?_) ?_ hstop]
  · simp
  · rw [List.length_append, hfront]
    rfl
  · rw [List.length_append, hfront]
    exact Nat.le_refl _

theorem drawn_crossing (g : Glyphs) (r o : Rail) (hij : j ≠ i) :
    drawn (crossing g i r j o) =
      if j = i then (g.railBottom, some r.kind)
      else o.verticalOr g (if i < j then (g.railFill, some r.kind) else .blank) (passes i r.endLine j o) := by
  rw [crossing, if_neg hij, if_neg hij, Rail.verticalOr]
  split
  · rfl
  · split <;> rfl

theorem padTo_closing (g : Glyphs) (hr : rails[i]? = some r) :
    ((pass (crossing g i r) rails).put i [g.railBottom] (some r.kind)).padTo rails.length =
      rails.zipIdx.map fun (o, j) =>
        if j = i then (g.railBottom, some r.kind)
        else o.verticalOr g (if i < j then (g.railFill, some r.kind) else .blank) (passes i r.endLine j o) := by
  obtain ⟨hi, -⟩ := lt_width hr
  rw [Canvas.padTo_put_singleton _ _ hi, (padTo_pass _ _).2]
  apply List.ext_getElem?
  intro j
  rw [List.getElem?_set, List.length_map, List.length_zipIdx, if_pos hi, List.getElem?_map, List.getElem?_map,
    List.getElem?_zipIdx, Nat.zero_add]
  by_cases hij : i = j
  · subst hij
    simp [hr]
  · rw [if_neg hij]
    cases rails[j]? with
    | none => rfl
    | some o => exact congrArg some (drawn_crossing g r o (Ne.symm hij))

theorem closingRun_eq (g : Glyphs) (hr : rails[i]? = some r) :
    closingRun g rails i r =
      rails.zipIdx.map (fun (o, j) =>
          if j = i then (g.railBottom, some r.kind)
          else o.verticalOr g (if i < j then (g.railFill, some r.kind) else .blank) (passes i r.endLine j o))
        ++ List.replicate (width rails + r.endCell - rails.length) (g.railFill, some r.kind)
        ++ [(g.caret r.kind, some r.kind)] := by
  obtain ⟨hi, hwidth⟩ := lt_width hr
  have hstop : rails.length < width rails + r.endCell := by omega
  have hreach : ((pass (crossing g i r) rails).put i [g.railBottom] (some r.kind)).length ≤ rails.length :=
    Canvas.length_put_le (padTo_pass _ _).1 _ (Nat.succ_le_of_lt hi) _
  exact Canvas.put_fill (padTo_closing g hr) hreach hstop _ _ _

theorem length_closingRun (g : Glyphs) (hr : rails[i]? = some r) :
    (closingRun g rails i r).length = width rails + r.endCell + 1 := by
  obtain ⟨hi, hwidth⟩ := lt_width hr
  rw [closingRun_eq g hr]
  simp only [List.length_append, List.length_map, List.length_zipIdx, List.length_replicate, List.length_singleton]
  omega

theorem closing_eq (g : Glyphs) (hr : rails[i]? = some r) :
    closing g rails i r = closingRun g rails i r ++
      if r.labelText.isEmpty then [] else Cell.blank :: r.labelText.map (·, some r.kind) := by
  rw [closing]
  split
  · rw [List.append_nil]
  · have hlength := length_closingRun g hr
    rw [Canvas.put_of_length_le (by omega), hlength, Nat.add_sub_add_left, List.append_assoc]
    rfl

theorem startLine_le (hsorted : rails.Pairwise fun a b => a.startLine ≤ b.startLine) (hij : i ≤ j)
    (hr : rails[i]? = some r) (ho : rails[j]? = some o) : r.startLine ≤ o.startLine := by
  obtain ⟨hi, rfl⟩ := List.getElem?_eq_some_iff.1 hr
  obtain ⟨hj, rfl⟩ := List.getElem?_eq_some_iff.1 ho
  rcases Nat.lt_or_eq_of_le hij with hij | rfl
  · exact List.pairwise_iff_getElem.1 hsorted i j hi hj hij
  · exact Nat.le_refl _

theorem beside_vertical (g : Glyphs) (h : rails[i]? = some r) (line : Nat) (tail : List Cell) :
    (beside g rails line ++ tail)[i]? = some (r.vertical g) ↔ r.startLine < line ∧ line ≤ r.endLine := by
  obtain ⟨hi, -⟩ := lt_width h
  have hne : ¬ rails.isEmpty := by
    simpa using List.ne_nil_of_length_pos (Nat.zero_lt_of_lt hi)
  rw [beside_eq, if_neg hne, List.append_assoc, List.getElem?_append_left (by simpa using hi), List.getElem?_map, h,
    Option.map_some, Option.some.injEq, Rail.verticalOr_eq_vertical (r.vertical_ne_blank g).symm, Rail.isActive]
  simp

theorem getElem?_opening (g : Glyphs) (hr : rails[i]? = some r) (j : Nat) :
    (opening g rails i r)[j]? =
      if j < i then rails[j]?.map fun o => o.verticalOr g .blank (o.isActive r.startLine || o.startLine = r.startLine)
      else if j = i then some (g.railTop, some r.kind)
      else if j < width rails + r.startCell then some (g.railFill, some r.kind)
      else if j = width rails + r.startCell then some (g.caret r.kind, some r.kind)
      else none := by
  obtain ⟨hi, hwidth⟩ := lt_width hr
  have hlength : ((rails.take i).map fun o : Rail => o.verticalOr g .blank
      (o.isActive r.startLine || o.startLine = r.startLine)).length = i := by
    rw [List.length_map, List.length_take, Nat.min_eq_left (Nat.le_of_lt hi)]
  rw [opening_eq g hr, List.append_assoc]
  split
  · rename_i hji
    rw [List.getElem?_append_left (hlength.symm ▸ hji), List.getElem?_map, List.getElem?_take_of_lt hji]
  · rename_i hij
    rw [List.getElem?_append_right (hlength.symm ▸ Nat.le_of_not_lt hij), hlength, List.cons_append, List.getElem?_cons]
    split
    · rw [if_pos (by omega)]
    · rw [if_neg (by omega), List.getElem?_append, List.length_replicate]
      split
      · rw [List.getElem?_replicate_of_lt (by assumption), if_pos (by omega)]
      · rw [if_neg (by omega), List.getElem?_singleton]
        congr 1
        exact propext (by omega)

theorem opening_vertical (charset : CharSet) (hsorted : rails.Pairwise fun a b => a.startLine ≤ b.startLine)
    (hspan : r.startLine < r.endLine) (hr : rails[i]? = some r) (ho : rails[j]? = some o) :
    (opening (Glyphs.ofCharSet charset) rails j o)[i]? = some (r.vertical (Glyphs.ofCharSet charset)) ↔
      i < j ∧ o.startLine ≤ r.endLine := by
  obtain ⟨hi, hwidth⟩ := lt_width hr
  rw [getElem?_opening _ ho]
  rcases Nat.lt_trichotomy i j with hij | rfl | hij
  · have hle := startLine_le hsorted (Nat.le_of_lt hij) hr ho
    rw [if_pos hij, hr, Option.map_some, Option.some.injEq, Rail.verticalOr_eq_vertical (r.vertical_ne_blank _).symm,
      Rail.isActive]
    simp
    omega
  · simp [Rail.vertical, Glyphs.railTop_ne charset]
  · have hfill : i < width rails + o.startCell := by omega
    rw [if_neg (by omega), if_neg (by omega), if_pos hfill]
    simp [Rail.vertical, Glyphs.railFill_ne charset]
    omega

theorem getElem?_closing_of_lt (g : Glyphs) (hr : rails[i]? = some r) (ho : rails[j]? = some o) :
    (closing g rails i r)[j]? = some (if j = i then (g.railBottom, some r.kind)
      else o.verticalOr g (if i < j then (g.railFill, some r.kind) else .blank) (passes i r.endLine j o)) := by
  obtain ⟨hj, -⟩ := lt_width ho
  rw [closing_eq g hr, closingRun_eq g hr, List.append_assoc, List.append_assoc,
    List.getElem?_append_left (by simpa using hj), List.getElem?_map,
    List.getElem?_zipIdx, ho]
  simp

theorem closing_vertical (charset : CharSet) (hr : rails[i]? = some r) (ho : rails[j]? = some o) (hij : i ≠ j) :
    (closing (Glyphs.ofCharSet charset) rails j o)[i]? = some (r.vertical (Glyphs.ofCharSet charset)) ↔
      r.startLine ≤ o.endLine ∧ (o.endLine < r.endLine ∨ r.endLine = o.endLine ∧ i < j) := by
  have hother : (if j < i then ((Glyphs.ofCharSet charset).railFill, some o.kind) else Cell.blank) ≠
      r.vertical (Glyphs.ofCharSet charset) := by
    split
    · simp [Rail.vertical, Glyphs.railFill_ne charset]
    · exact (r.vertical_ne_blank _).symm
  rw [getElem?_closing_of_lt _ ho hr, Option.some.injEq, if_neg hij, Rail.verticalOr_eq_vertical hother, passes]
  simp

end Rails

end Diagnostics
