import Diagnostics.Block
import Diagnostics.Proofs.Drawing.Rail

namespace Diagnostics

inductive Feature where
  | text
  | marks
  | opening (i : Nat)
  | closing (i : Nat)

structure Stage where
  line : Nat
  feature : Feature

namespace Stage

def turn (s : Stage) : Nat × Int :=
  match s.feature with
  | .text => (0, 0)
  | .marks => (1, 0)
  | .opening i => (2, i)
  | .closing i => (3, -i)

def Before (a b : Stage) : Prop :=
  a.line < b.line ∨
    a.line = b.line ∧ (a.turn.1 < b.turn.1 ∨ a.turn.1 = b.turn.1 ∧ a.turn.2 < b.turn.2)

theorem before_asymm {a b : Stage} (h : a.Before b) : ¬ b.Before a := by
  simp only [Before] at *
  omega

theorem before_trans {a b c : Stage} (h : a.Before b) (h' : b.Before c) : a.Before c := by
  simp only [Before] at *
  omega

theorem ne_of_before {a b : Stage} (h : a.Before b) : a ≠ b := by
  rintro rfl
  exact before_asymm h h

def Precedes (a b : Stage) : Prop := a.Before b ∨ a = b ∧ a.feature = .marks

theorem precedes_of_turn_lt {line : Nat} {a b : Feature}
    (h : (turn ⟨line, a⟩).1 < (turn ⟨line, b⟩).1) : Precedes ⟨line, a⟩ ⟨line, b⟩ := .inl (.inr ⟨rfl, .inl h⟩)

theorem before_of_precedes {a b : Stage} (h : a.Precedes b) (hne : a.feature ≠ .marks ∨ b.feature ≠ .marks) :
    a.Before b := by
  rcases h with h | ⟨rfl, hmarks⟩
  · exact h
  · rcases hne with hne | hne <;> exact absurd hmarks hne

end Stage

theorem exists_split {l : List (Stage × Row)} {o c : Stage × Row} (hl : l.Pairwise fun a b => a.1.Precedes b.1)
    (ho : o ∈ l) (hc : c ∈ l) (hoc : o.1.Before c.1) (hof : o.1.feature ≠ .marks) (hcf : c.1.feature ≠ .marks) :
    ∃ before between after, l = before ++ o :: between ++ c :: after ∧ (∀ d ∈ before, d.1.Before o.1) ∧
      (∀ d ∈ between, o.1.Before d.1 ∧ d.1.Before c.1) ∧ ∀ d ∈ after, c.1.Before d.1 := by
  obtain ⟨before, rest, rfl⟩ := List.append_of_mem ho
  obtain ⟨-, hrest, hbefore⟩ := List.pairwise_append.1 hl
  have hfront : ∀ d ∈ before, d.1.Before o.1 := fun d hd =>
    Stage.before_of_precedes (hbefore d hd o (List.mem_cons_self ..)) (.inr hof)
  rcases List.mem_append.1 hc with hc | hc
  · exact absurd (hfront c hc) (Stage.before_asymm hoc)
  rcases List.mem_cons.1 hc with rfl | hc
  · exact absurd hoc (Stage.before_asymm hoc)
  obtain ⟨between, after, rfl⟩ := List.append_of_mem hc
  obtain ⟨hopen, hrest⟩ := List.pairwise_cons.1 hrest
  obtain ⟨-, hafter, hinner⟩ := List.pairwise_append.1 hrest
  refine ⟨before, between, after, by simp, hfront, fun d hd => ⟨?_, ?_⟩, fun d hd => ?_⟩
  · exact Stage.before_of_precedes (hopen d (List.mem_append_left _ hd)) (.inl hof)
  · exact Stage.before_of_precedes (hinner d hd c (List.mem_cons_self ..)) (.inr hcf)
  · exact Stage.before_of_precedes ((List.pairwise_cons.1 hafter).1 d hd) (.inl hcf)

namespace Block

def openingRow (g : Glyphs) (b : Block) (i : Nat) (r : Rail) : Row := (Row.ofCells (Rails.opening g b.rails i r)).trim

def closingRow (g : Glyphs) (b : Block) (i : Nat) (r : Rail) : Row := (Row.ofCells (Rails.closing g b.rails i r)).trim

def drawnAt (config : Config) (g : Glyphs) (b : Block) (l : ExcerptLine) : List (Stage × Row) :=
  (⟨l.number, .text⟩, b.body config g l)
    :: (Rows.marks g b.rails l.number (b.marksOn l.number)).map (⟨l.number, .marks⟩, ·)
    ++ (b.rails.zipIdx.filter (·.1.startLine = l.number)).map (fun (r, i) =>
      (⟨l.number, .opening i⟩, b.openingRow g i r))
    ++ (b.rails.zipIdx.filter (·.1.endLine = l.number)).reverse.map (fun (r, i) =>
      (⟨l.number, .closing i⟩, b.closingRow g i r))

def drawn (config : Config) (g : Glyphs) (b : Block) : List (Stage × Row) := b.lines.flatMap (b.drawnAt config g)

variable {config : Config} {g : Glyphs} {b : Block} {l : ExcerptLine} {d : Stage × Row} {i : Nat} {r : Rail}

theorem map_snd_drawn (config : Config) (g : Glyphs) (b : Block) :
    (b.drawn config g).map (·.2) =
      b.lines.flatMap fun l => b.body config g l :: Rows.below g b.rails l.number (b.marksOn l.number) := by
  rw [drawn, List.map_flatMap]
  congr 1
  funext l
  simp [drawnAt, Rows.below, Rows.openings, Rows.closings, openingRow, closingRow, Function.comp_def]

theorem mem_drawnAt (h : d ∈ b.drawnAt config g l) :
    d = (⟨l.number, .text⟩, b.body config g l) ∨
    (∃ canvas, d = (⟨l.number, .marks⟩, (Row.ofCells (Rails.beside g b.rails l.number ++ canvas)).trim)) ∨
    (∃ j o, b.rails[j]? = some o ∧ o.startLine = l.number ∧ d = (⟨l.number, .opening j⟩, b.openingRow g j o)) ∨
    ∃ j o, b.rails[j]? = some o ∧ o.endLine = l.number ∧ d = (⟨l.number, .closing j⟩, b.closingRow g j o) := by
  simp only [drawnAt, Rows.marks, List.cons_append, List.append_assoc, List.mem_cons, List.mem_append, List.mem_map,
    List.mem_reverse, List.mem_filter, List.mem_zipIdx_iff_getElem?, decide_eq_true_eq] at h
  rcases h with h | ⟨row, ⟨canvas, -, rfl⟩, rfl⟩ | ⟨⟨o, j⟩, ⟨ho, hline⟩, rfl⟩ | ⟨⟨o, j⟩, ⟨ho, hline⟩, rfl⟩
  · exact .inl h
  · exact .inr (.inl ⟨canvas, rfl⟩)
  · exact .inr (.inr (.inl ⟨j, o, ho, hline, rfl⟩))
  · exact .inr (.inr (.inr ⟨j, o, ho, hline, rfl⟩))

theorem line_of_mem_drawnAt (h : d ∈ b.drawnAt config g l) : d.1.line = l.number := by
  rcases mem_drawnAt h with rfl | ⟨canvas, rfl⟩ | ⟨j, o, -, -, rfl⟩ | ⟨j, o, -, -, rfl⟩ <;> rfl

theorem opening_mem_drawn (config : Config) (g : Glyphs) (hr : b.rails[i]? = some r)
    (hline : r.startLine ∈ b.lines.map (·.number)) :
    (⟨r.startLine, .opening i⟩, b.openingRow g i r) ∈ b.drawn config g := by
  obtain ⟨l, hl, hnumber⟩ := List.mem_map.1 hline
  apply List.mem_flatMap.2 ⟨l, hl, _⟩
  simp only [drawnAt, List.mem_append, List.mem_map, List.mem_filter, List.mem_zipIdx_iff_getElem?, decide_eq_true_eq]
  exact .inl (.inr ⟨(r, i), ⟨hr, hnumber.symm⟩, by rw [hnumber]⟩)

theorem closing_mem_drawn (config : Config) (g : Glyphs) (hr : b.rails[i]? = some r)
    (hline : r.endLine ∈ b.lines.map (·.number)) :
    (⟨r.endLine, .closing i⟩, b.closingRow g i r) ∈ b.drawn config g := by
  obtain ⟨l, hl, hnumber⟩ := List.mem_map.1 hline
  apply List.mem_flatMap.2 ⟨l, hl, _⟩
  simp only [drawnAt, List.mem_append, List.mem_map, List.mem_reverse, List.mem_filter, List.mem_zipIdx_iff_getElem?,
    decide_eq_true_eq]
  exact .inr ⟨(r, i), ⟨hr, hnumber.symm⟩, by rw [hnumber]⟩

theorem pairwise_zipIdx {α : Type} (l : List α) : l.zipIdx.Pairwise fun a b => a.2 < b.2 := by
  rw [← List.pairwise_map (f := Prod.snd), List.zipIdx_map_snd]
  exact List.pairwise_lt_range'

theorem pairwise_drawnAt (config : Config) (g : Glyphs) (b : Block) (l : ExcerptLine) :
    (b.drawnAt config g l).Pairwise fun c d => c.1.Precedes d.1 := by
  simp only [drawnAt, List.cons_append, List.append_assoc, List.pairwise_cons, List.pairwise_append, List.pairwise_map,
    List.pairwise_reverse, List.mem_append, List.mem_map]
  refine ⟨?_, ?_, ⟨?_, ?_, ?_⟩, ?_⟩
  · rintro _ (⟨_, -, rfl⟩ | ⟨_, -, rfl⟩ | ⟨_, -, rfl⟩) <;>
      exact Stage.precedes_of_turn_lt (by simp [Stage.turn])
  · rw [List.pairwise_iff_forall_sublist]
    intro _ _ _
    exact .inr ⟨rfl, rfl⟩
  · apply ((pairwise_zipIdx b.rails).filter _).imp
    intro p q hpq
    exact .inl (.inr ⟨rfl, .inr ⟨rfl, by simpa [Stage.turn] using hpq⟩⟩)
  · apply ((pairwise_zipIdx b.rails).filter _).imp
    intro p q hpq
    exact .inl (.inr ⟨rfl, .inr ⟨rfl, by simpa [Stage.turn] using hpq⟩⟩)
  · rintro _ ⟨_, -, rfl⟩ _ ⟨_, -, rfl⟩
    exact Stage.precedes_of_turn_lt (by simp [Stage.turn])
  · rintro _ ⟨_, -, rfl⟩ _ (⟨_, -, rfl⟩ | ⟨_, -, rfl⟩) <;>
      exact Stage.precedes_of_turn_lt (by simp [Stage.turn])

theorem pairwise_drawn (config : Config) (g : Glyphs) (hlines : (b.lines.map (·.number)).Pairwise (· < ·)) :
    (b.drawn config g).Pairwise fun c d => c.1.Precedes d.1 := by
  rw [drawn, List.pairwise_flatMap]
  refine ⟨fun l _ => b.pairwise_drawnAt config g l, ?_⟩
  apply (List.pairwise_map.1 hlines).imp
  intro l m hlm c hc d hd
  rw [← line_of_mem_drawnAt hc, ← line_of_mem_drawnAt hd] at hlm
  exact .inl (.inl hlm)

theorem body_vertical (config : Config) (g : Glyphs) (l : ExcerptLine) (hr : b.rails[i]? = some r) :
    (b.body config g l).cells[i]? = some (r.vertical g) ↔ r.startLine < l.number ∧ l.number ≤ r.endLine := by
  have hcells : (Row.ofCells (Rails.beside g b.rails l.number)
      ++ [Piece.plain (Text.expandTabs config.tabWidth l.text)]).cells[i]? = some (r.vertical g) ↔
        r.startLine < l.number ∧ l.number ≤ r.endLine := by
    rw [Row.cells_append, Row.cells_ofCells, Rails.beside_vertical g hr]
  rw [body]
  split
  · rw [Row.getElem?_cells_trim (r.vertical_ne_blank g), hcells]
  · exact hcells

theorem vertical_iff (charset : CharSet) (hsorted : b.rails.Pairwise fun a b => a.startLine ≤ b.startLine)
    (hr : b.rails[i]? = some r) (hspan : r.startLine < r.endLine)
    (hd : d ∈ b.drawn config (Glyphs.ofCharSet charset)) (hne : d.1.feature ≠ .closing i) :
    d.2.cells[i]? = some (r.vertical (Glyphs.ofCharSet charset)) ↔
      Stage.Before ⟨r.startLine, .opening i⟩ d.1 ∧ d.1.Before ⟨r.endLine, .closing i⟩ := by
  have hblank := r.vertical_ne_blank (Glyphs.ofCharSet charset)
  obtain ⟨l, -, hd⟩ := List.mem_flatMap.1 hd
  rcases mem_drawnAt hd with rfl | ⟨canvas, rfl⟩ | ⟨j, o, ho, hline, rfl⟩ | ⟨j, o, ho, hline, rfl⟩
  · rw [body_vertical config _ l hr]
    simp [Stage.Before, Stage.turn]
    omega
  · rw [Row.getElem?_cells_trim hblank, Row.cells_ofCells, Rails.beside_vertical _ hr]
    simp [Stage.Before, Stage.turn]
    omega
  · have horder : r.startLine < o.startLine → i < j := by
      intro hlt
      refine Nat.lt_of_not_le fun hji => ?_
      have := Rails.startLine_le hsorted hji ho hr
      omega
    have hle : i < j → r.startLine ≤ o.startLine := fun hij =>
      Rails.startLine_le hsorted (Nat.le_of_lt hij) hr ho
    rw [openingRow, Row.getElem?_cells_trim hblank, Row.cells_ofCells,
      Rails.opening_vertical charset hsorted hspan hr ho, ← hline]
    simp [Stage.Before, Stage.turn]
    omega
  · have hij : i ≠ j := by
      rintro rfl
      exact hne rfl
    rw [closingRow, Row.getElem?_cells_trim hblank, Row.cells_ofCells, Rails.closing_vertical charset hr ho hij,
      ← hline]
    simp [Stage.Before, Stage.turn]
    omega

theorem stage_of_opening (hr : b.rails[i]? = some r) (hd : d ∈ b.drawn config g) (h : d.1.feature = .opening i) :
    d.1 = ⟨r.startLine, .opening i⟩ := by
  obtain ⟨l, -, hd⟩ := List.mem_flatMap.1 hd
  rcases mem_drawnAt hd with rfl | ⟨canvas, rfl⟩ | ⟨j, o, ho, hline, rfl⟩ | ⟨j, o, ho, hline, rfl⟩ <;> cases h
  obtain rfl := Option.some.inj (hr.symm.trans ho)
  rw [hline]

theorem stage_of_closing (hr : b.rails[i]? = some r) (hd : d ∈ b.drawn config g) (h : d.1.feature = .closing i) :
    d.1 = ⟨r.endLine, .closing i⟩ := by
  obtain ⟨l, -, hd⟩ := List.mem_flatMap.1 hd
  rcases mem_drawnAt hd with rfl | ⟨canvas, rfl⟩ | ⟨j, o, ho, hline, rfl⟩ | ⟨j, o, ho, hline, rfl⟩ <;> cases h
  obtain rfl := Option.some.inj (hr.symm.trans ho)
  rw [hline]

theorem rails_continuous (config : Config) (b : Block) (rails : List Rail) (hrails : b.rails = arrangeRails rails)
    (hspan : ∀ r ∈ rails, r.startLine < r.endLine) (hlines : (b.lines.map (·.number)).Pairwise (· < ·))
    (hshown : ∀ r ∈ rails, r.startLine ∈ b.lines.map (·.number) ∧ r.endLine ∈ b.lines.map (·.number)) :
    let g := Glyphs.ofCharSet config.charset
    (b.drawn config g).map (·.2) =
        (b.lines.flatMap fun l => b.body config g l :: Rows.below g b.rails l.number (b.marksOn l.number)) ∧
      ∀ i r, b.rails[i]? = some r → ∃ before between after,
        let opening := (⟨r.startLine, .opening i⟩, b.openingRow g i r)
        let closing := (⟨r.endLine, .closing i⟩, b.closingRow g i r)
        b.drawn config g = before ++ opening :: between ++ closing :: after ∧
          (∀ d ∈ before ++ between ++ after, d.1.feature ≠ .opening i ∧ d.1.feature ≠ .closing i) ∧
          (∀ d ∈ between, d.2.cells[i]? = some (g.railVertical, some r.kind)) ∧
          ∀ d ∈ before ++ opening :: after, d.2.cells[i]? ≠ some (g.railVertical, some r.kind) := by
  intro g
  refine ⟨map_snd_drawn config g b, fun i r hr => ?_⟩
  have hsorted : b.rails.Pairwise fun a b => a.startLine ≤ b.startLine := hrails ▸ pairwise_arrangeRails rails
  have hr' : r ∈ rails := by
    have := List.mem_of_getElem? hr
    rwa [hrails, arrangeRails, (sortBy_perm Rail.precedes rails).mem_iff] at this
  have hspan := hspan r hr'
  obtain ⟨hfirst, hlast⟩ := hshown r hr'
  let o : Stage := ⟨r.startLine, .opening i⟩
  let c : Stage := ⟨r.endLine, .closing i⟩
  have hoc : o.Before c := .inl hspan
  obtain ⟨before, between, after, hsplit, hbefore, hbetween, hafter⟩ :=
    exists_split (b.pairwise_drawn config g hlines) (opening_mem_drawn config g hr hfirst)
      (closing_mem_drawn config g hr hlast) hoc (by simp) (by simp)
  have hsub : ∀ d ∈ before ++ between ++ after, d ∈ b.drawn config g := by
    intro d hd
    rw [hsplit]
    simp only [List.mem_append, List.mem_cons] at hd ⊢
    rcases hd with (hd | hd) | hd <;> simp [hd]
  have hother : ∀ d ∈ before ++ between ++ after, d.1 ≠ o ∧ d.1 ≠ c := by
    intro d hd
    simp only [List.mem_append] at hd
    rcases hd with (hd | hd) | hd
    · exact ⟨Stage.ne_of_before (hbefore d hd), Stage.ne_of_before (Stage.before_trans (hbefore d hd) hoc)⟩
    · exact ⟨(Stage.ne_of_before (hbetween d hd).1).symm, Stage.ne_of_before (hbetween d hd).2⟩
    · exact ⟨(Stage.ne_of_before (Stage.before_trans hoc (hafter d hd))).symm,
        (Stage.ne_of_before (hafter d hd)).symm⟩
  have hfeature : ∀ d ∈ before ++ between ++ after, d.1.feature ≠ .opening i ∧ d.1.feature ≠ .closing i :=
    fun d hd => ⟨fun h => (hother d hd).1 (stage_of_opening hr (hsub d hd) h),
      fun h => (hother d hd).2 (stage_of_closing hr (hsub d hd) h)⟩
  have hcell : ∀ d ∈ before ++ between ++ after,
      d.2.cells[i]? = some (r.vertical g) ↔ o.Before d.1 ∧ d.1.Before c := fun d hd =>
    vertical_iff config.charset hsorted hr hspan (hsub d hd) (hfeature d hd).2
  refine ⟨before, between, after, hsplit, hfeature, ?_, ?_⟩
  · intro d hd
    exact (hcell d (by simp [hd])).2 (hbetween d hd)
  · intro d hd hvertical
    rcases List.mem_append.1 hd with hd | hd
    · exact Stage.before_asymm (hbefore d hd) ((hcell d (by simp [hd])).1 hvertical).1
    rcases List.mem_cons.1 hd with rfl | hd
    · have hrow := vertical_iff config.charset hsorted hr hspan (opening_mem_drawn config g hr hfirst) (by simp)
      exact Stage.ne_of_before (hrow.1 hvertical).1 rfl
    · exact Stage.before_asymm (hafter d hd) ((hcell d (by simp [hd])).1 hvertical).2

theorem rails_continuous_shared :
    let inner : Rail := ⟨1, 2, 3, 0, .secondary, some "s", 0⟩
    let rails : List Rail := [inner, ⟨3, 0, 4, 1, .primary, none, 1⟩, ⟨1, 0, 3, 5, .primary, none, 2⟩]
    let b : Block := ⟨"a", ⟨1, 1⟩, [], [⟨1, [], false⟩, ⟨3, ['x'], true⟩, ⟨4, [], false⟩],
      [(3, .new 0 2 .primary none 3)], arrangeRails rails⟩
    (∀ r ∈ rails, r.startLine < r.endLine) ∧ (b.lines.map (·.number)).Pairwise (· < ·) ∧
      (∀ r ∈ rails, r.startLine ∈ b.lines.map (·.number) ∧ r.endLine ∈ b.lines.map (·.number)) ∧
      b.rails[1]? = some inner ∧
      ∃ before between after, b.drawn Config.initial Glyphs.ascii =
          before ++ (⟨1, .opening 1⟩, b.openingRow Glyphs.ascii 1 inner) :: between ++
            (⟨3, .closing 1⟩, b.closingRow Glyphs.ascii 1 inner) :: after ∧
        ∀ d ∈ between, d.2.cells[1]? = some ('|', some .secondary) := by
  intro inner rails b
  have hspan : ∀ r ∈ rails, r.startLine < r.endLine := by decide
  have hlines : (b.lines.map (·.number)).Pairwise (· < ·) := by decide
  have hshown : ∀ r ∈ rails, r.startLine ∈ b.lines.map (·.number) ∧ r.endLine ∈ b.lines.map (·.number) := by decide
  have hinner : b.rails[1]? = some inner := by decide
  obtain ⟨before, between, after, hsplit, -, hvertical, -⟩ :=
    (rails_continuous Config.initial b rails rfl hspan hlines hshown).2 1 inner hinner
  exact ⟨hspan, hlines, hshown, hinner, before, between, after, hsplit, hvertical⟩

end Block

end Diagnostics
