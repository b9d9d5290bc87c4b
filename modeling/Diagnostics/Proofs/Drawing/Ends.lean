import Diagnostics.Proofs.Drawing.Rail

namespace Diagnostics

namespace Rails

structure Opens (g : Glyphs) (rails : List Rail) (i : Nat) (r : Rail) (cells : List Cell) : Prop where
  left : ∀ j o, j < i → rails[j]? = some o → cells[j]? =
    some (if o.startLine ≤ r.startLine ∧ r.startLine ≤ o.endLine then (g.railVertical, some o.kind) else Cell.blank)
  corner : cells[i]? = some (g.railTop, some r.kind)
  run : ∀ j, i < j → j < width rails + r.startCell → cells[j]? = some (g.railFill, some r.kind)
  caret : cells[width rails + r.startCell]? = some (g.caret r.kind, some r.kind)
  length : cells.length = width rails + r.startCell + 1

structure Closes (g : Glyphs) (rails : List Rail) (i : Nat) (r : Rail) (cells : List Cell) : Prop where
  left : ∀ j o, j < i → rails[j]? = some o → cells[j]? =
    some (if o.startLine ≤ r.endLine ∧ r.endLine ≤ o.endLine then (g.railVertical, some o.kind) else Cell.blank)
  corner : cells[i]? = some (g.railBottom, some r.kind)
  right : ∀ j o, i < j → rails[j]? = some o → cells[j]? =
    some (if o.startLine ≤ r.endLine ∧ r.endLine < o.endLine then (g.railVertical, some o.kind)
      else (g.railFill, some r.kind))
  run : ∀ j, rails.length ≤ j → j < width rails + r.endCell → cells[j]? = some (g.railFill, some r.kind)
  caret : cells[width rails + r.endCell]? = some (g.caret r.kind, some r.kind)
  label : cells.drop (width rails + r.endCell + 1) =
    if r.labelText = [] then [] else Cell.blank :: r.labelText.map (·, some r.kind)

variable {g : Glyphs} {rails : List Rail} {i j : Nat} {r o : Rail} {cells : List Cell}

theorem Opens.drawn (h : Opens g rails i r cells) (hij : i ≤ j) (hj : j ≤ width rails + r.startCell) :
    ∃ c, cells[j]? = some (c, some r.kind) := by
  rcases Nat.eq_or_lt_of_le hij with rfl | hij
  · exact ⟨_, h.corner⟩
  rcases Nat.eq_or_lt_of_le hj with rfl | hj
  · exact ⟨_, h.caret⟩
  · exact ⟨_, h.run j hij hj⟩

theorem Closes.drawn (h : Closes g rails i r cells) (hij : i ≤ j) (hj : j ≤ width rails + r.endCell) :
    ∃ c k, cells[j]? = some (c, some k) := by
  rcases Nat.eq_or_lt_of_le hij with rfl | hij
  · exact ⟨_, _, h.corner⟩
  by_cases hlength : j < rails.length
  · have hright := h.right j _ hij (List.getElem?_eq_getElem hlength)
    split at hright
    · exact ⟨_, _, hright⟩
    · exact ⟨_, _, hright⟩
  rcases Nat.eq_or_lt_of_le hj with rfl | hj
  · exact ⟨_, _, h.caret⟩
  · exact ⟨_, _, h.run j (Nat.le_of_not_lt hlength) hj⟩

theorem length_opening (g : Glyphs) (hr : rails[i]? = some r) :
    (opening g rails i r).length = width rails + r.startCell + 1 := by
  obtain ⟨hi, hwidth⟩ := lt_width hr
  simp only [opening_eq g hr, List.length_append, List.length_map, List.length_take, List.length_cons,
    List.length_replicate, List.length_nil]
  omega

theorem opens_opening (g : Glyphs) (hspan : ∀ o ∈ rails, o.startLine < o.endLine) (hr : rails[i]? = some r) :
    Opens g rails i r (opening g rails i r) := by
  obtain ⟨hi, hwidth⟩ := lt_width hr
  refine ⟨fun j o hji ho => ?left, ?corner, fun j hij hj => ?run, ?caret, length_opening g hr⟩
  case left =>
    have hlines := hspan o (List.mem_of_getElem? ho)
    have hruns : (o.isActive r.startLine || o.startLine = r.startLine) = true ↔
        o.startLine ≤ r.startLine ∧ r.startLine ≤ o.endLine := by
      simp [Rail.isActive]
      omega
    rw [getElem?_opening g hr, if_pos hji, ho, Option.map_some, Rail.verticalOr]
    simp only [hruns, Rail.vertical]
  case corner =>
    rw [getElem?_opening g hr, if_neg (Nat.lt_irrefl i), if_pos rfl]
  case run =>
    rw [getElem?_opening g hr, if_neg (by omega), if_neg (by omega), if_pos hj]
  case caret =>
    rw [getElem?_opening g hr, if_neg (by omega), if_neg (by omega), if_neg (by omega), if_pos rfl]

theorem drop_closing (g : Glyphs) (hr : rails[i]? = some r) :
    (closing g rails i r).drop rails.length =
      List.replicate (r.endCell + 1) (g.railFill, some r.kind) ++ (g.caret r.kind, some r.kind) ::
        if r.labelText = [] then [] else Cell.blank :: r.labelText.map (·, some r.kind) := by
  obtain ⟨-, hwidth⟩ := lt_width hr
  have hcount : width rails + r.endCell - rails.length = r.endCell + 1 := by omega
  rw [closing_eq g hr, closingRun_eq g hr, List.append_assoc, List.append_assoc, List.drop_left' (by simp), hcount]
  simp only [List.isEmpty_iff, List.singleton_append]

theorem closes_closing (g : Glyphs) (hr : rails[i]? = some r) : Closes g rails i r (closing g rails i r) := by
  obtain ⟨hi, hwidth⟩ := lt_width hr
  have hbehind (k : Nat) : (closing g rails i r)[rails.length + k]? = (List.replicate (r.endCell + 1)
      (g.railFill, some r.kind) ++ (g.caret r.kind, some r.kind) ::
        if r.labelText = [] then [] else Cell.blank :: r.labelText.map (·, some r.kind))[k]? := by
    rw [← drop_closing g hr, List.getElem?_drop]
  refine ⟨fun j o hji ho => ?left, ?corner, fun j o hij ho => ?right, fun j hle hj => ?run, ?caret, ?label⟩
  case left =>
    have hruns : passes i r.endLine j o = true ↔ o.startLine ≤ r.endLine ∧ r.endLine ≤ o.endLine := by
      simp [passes]
      omega
    rw [getElem?_closing_of_lt g hr ho, if_neg (Nat.ne_of_lt hji), if_neg (Nat.not_lt_of_lt hji), Rail.verticalOr]
    simp only [hruns, Rail.vertical]
  case corner =>
    rw [getElem?_closing_of_lt g hr hr, if_pos rfl]
  case right =>
    have hruns : passes i r.endLine j o = true ↔ o.startLine ≤ r.endLine ∧ r.endLine < o.endLine := by
      simp [passes]
      omega
    rw [getElem?_closing_of_lt g hr ho, if_neg (Nat.ne_of_gt hij), if_pos hij, Rail.verticalOr]
    simp only [hruns, Rail.vertical]
  case run =>
    obtain ⟨k, rfl⟩ := Nat.exists_eq_add_of_le hle
    have hk : k < r.endCell + 1 := by omega
    rw [hbehind, List.getElem?_append_left (by simpa using hk), List.getElem?_replicate_of_lt hk]
  case caret =>
    have hplace : width rails + r.endCell = rails.length + (r.endCell + 1) := by omega
    rw [hplace, hbehind, List.getElem?_append_right (by simp), List.length_replicate, Nat.sub_self]
    rfl
  case label =>
    have hplace : width rails + r.endCell + 1 = rails.length + (r.endCell + 1 + 1) := by omega
    rw [hplace, ← List.drop_drop, drop_closing g hr, ← List.drop_drop, List.drop_left' (by simp)]
    rfl

theorem getLast?_opening (g : Glyphs) (hr : rails[i]? = some r) :
    (opening g rails i r).getLast? = some (g.caret r.kind, some r.kind) := by
  rw [opening_eq g hr, List.getLast?_concat]

theorem getLast?_closing (g : Glyphs) (hr : rails[i]? = some r) :
    ∃ c, (closing g rails i r).getLast? = some (c, some r.kind) := by
  rw [closing_eq g hr, closingRun_eq g hr, List.append_assoc, List.singleton_append, List.getLast?_append,
    List.getLast?_cons]
  split
  · exact ⟨_, rfl⟩
  · rename_i hlabel
    have hne : r.labelText ≠ [] := by simpa using hlabel
    refine ⟨r.labelText.getLast hne, ?_⟩
    rw [List.getLast?_cons, List.getLast?_map, List.getLast?_eq_some_getLast hne]
    rfl

theorem trim_opening (g : Glyphs) (hr : rails[i]? = some r) :
    (Row.ofCells (opening g rails i r)).trim.cells = (Row.ofCells (opening g rails i r)).cells := by
  apply Row.cells_trim_of_getLast? (c := (g.caret r.kind, some r.kind))
  · rw [Row.cells_ofCells, getLast?_opening g hr]
  · simp [Cell.blank]

theorem trim_closing (g : Glyphs) (hr : rails[i]? = some r) :
    (Row.ofCells (closing g rails i r)).trim.cells = (Row.ofCells (closing g rails i r)).cells := by
  obtain ⟨c, hlast⟩ := getLast?_closing g hr
  apply Row.cells_trim_of_getLast? (c := (c, some r.kind))
  · rw [Row.cells_ofCells, hlast]
  · simp [Cell.blank]

theorem opening_mem_openings (g : Glyphs) (hr : rails[i]? = some r) :
    (Row.ofCells (opening g rails i r)).trim ∈ Rows.openings g rails r.startLine :=
  List.mem_map.2 ⟨(r, i), List.mem_filter.2 ⟨List.mem_zipIdx_iff_getElem?.2 hr, decide_eq_true rfl⟩, rfl⟩

theorem closing_mem_closings (g : Glyphs) (hr : rails[i]? = some r) :
    (Row.ofCells (closing g rails i r)).trim ∈ Rows.closings g rails r.endLine := by
  have hmem : (r, i) ∈ rails.zipIdx.filter (·.1.endLine = r.endLine) :=
    List.mem_filter.2 ⟨List.mem_zipIdx_iff_getElem?.2 hr, decide_eq_true rfl⟩
  exact List.mem_map.2 ⟨(r, i), List.mem_reverse.2 hmem, rfl⟩

theorem rails_connected (charset : CharSet) (marks : List Rail) (hspan : ∀ r ∈ marks, r.startLine < r.endLine)
    (i : Nat) (r : Rail) (hr : (arrangeRails marks)[i]? = some r) :
    let g := Glyphs.ofCharSet charset
    let rails := arrangeRails marks
    let first := Row.ofCells (opening g rails i r)
    let last := Row.ofCells (closing g rails i r)
    (Opens g rails i r first.cells ∧ Closes g rails i r last.cells) ∧
      (first.trim ∈ Rows.openings g rails r.startLine ∧ first.trim.cells = first.cells) ∧
      (last.trim ∈ Rows.closings g rails r.endLine ∧ last.trim.cells = last.cells) ∧
      (∀ j, i ≤ j → j ≤ width rails + r.startCell → ∃ c, first.cells[j]? = some (c, some r.kind)) ∧
      ∀ j, i ≤ j → j ≤ width rails + r.endCell → ∃ c k, last.cells[j]? = some (c, some k) := by
  intro g rails first last
  have hspan' : ∀ o ∈ rails, o.startLine < o.endLine := fun o ho =>
    hspan o ((sortBy_perm Rail.precedes marks).subset ho)
  have hopens : Opens g rails i r first.cells := by
    rw [Row.cells_ofCells]
    exact opens_opening g hspan' hr
  have hcloses : Closes g rails i r last.cells := by
    rw [Row.cells_ofCells]
    exact closes_closing g hr
  exact ⟨⟨hopens, hcloses⟩, ⟨opening_mem_openings g hr, trim_opening g hr⟩,
    ⟨closing_mem_closings g hr, trim_closing g hr⟩, fun j => hopens.drawn, fun j => hcloses.drawn⟩

theorem rails_connected_crossing :
    let r : Rail := ⟨2, 0, 4, 2, .secondary, some "x", 1⟩
    let marks : List Rail := [⟨3, 1, 5, 0, .primary, none, 0⟩, r, ⟨1, 0, 4, 0, .primary, none, 2⟩]
    let last := Row.ofCells (closing .ascii (arrangeRails marks) 1 r)
    (∀ r ∈ marks, r.startLine < r.endLine) ∧ (arrangeRails marks)[1]? = some r ∧
      Closes .ascii (arrangeRails marks) 1 r last.cells ∧ last.cells[2]? = some ('|', some .primary) := by
  intro r marks last
  have hspan : ∀ r ∈ marks, r.startLine < r.endLine := by decide
  have hr : (arrangeRails marks)[1]? = some r := by decide
  have hcloses := (rails_connected .ascii marks hspan 1 r hr).1.2
  exact ⟨hspan, hr, hcloses, hcloses.right 2 ⟨3, 1, 5, 0, .primary, none, 0⟩ (by decide) (by decide)⟩

end Rails

end Diagnostics
