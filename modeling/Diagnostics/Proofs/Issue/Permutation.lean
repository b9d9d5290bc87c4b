import Diagnostics.Proofs.Drawing.Order
import Diagnostics.Proofs.Issue.Styles
import Mathlib.Data.List.Perm.Basic

namespace Diagnostics

namespace Source

variable {s : Source} {requested requested' : List Int}

theorem excerptLines_perm (h : requested'.Perm requested) (context : Nat) :
    s.excerptLines requested' context = s.excerptLines requested context := by
  have hshows : s.shows requested' context = s.shows requested context := by
    funext k
    exact h.any_eq
  rw [excerptLines, excerptLines, shownLines, shownLines, hshows]

end Source

namespace Placed

def unordered (p : Placed) : Placed := { p with order := 0 }

def startsAt (tab : Nat) (p : Placed) : Nat × Nat :=
  (p.span.start.line, p.cells tab p.span.start.line (p.span.start.column - 1))

theorem lines_shapeOf_unordered (tab : Nat) (p : Placed) : (p.unordered.shapeOf tab).lines = (p.shapeOf tab).lines := by
  rw [shapeOf, shapeOf]
  change (if p.span.isMultiline then _ else _ : Shape).lines = _
  split
  · rfl
  · rfl

end Placed

namespace Block

variable {placed placed' : List Placed}

theorem here_unordered (placed : List Placed) (origin : String) :
    here (placed.map Placed.unordered) origin = (here placed origin).map Placed.unordered := List.filter_map

theorem here_perm (h : (placed'.map Placed.unordered).Perm (placed.map Placed.unordered)) (origin : String) :
    ((here placed' origin).map Placed.unordered).Perm ((here placed origin).map Placed.unordered) := by
  rw [← here_unordered, ← here_unordered]
  exact h.filter _

theorem requestedBy_perm (h : (placed'.map Placed.unordered).Perm (placed.map Placed.unordered)) (tab : Nat)
    (origin : String) :
    (requestedBy (shapesOf tab placed' origin)).Perm (requestedBy (shapesOf tab placed origin)) := by
  have hlines (placed : List Placed) : (shapesOf tab placed origin).flatMap Shape.lines =
      ((here placed origin).map Placed.unordered).flatMap fun p => (p.shapeOf tab).lines := by
    rw [shapesOf, List.flatMap_map, List.flatMap_map]
    congr 1
    funext p
    exact (p.lines_shapeOf_unordered tab).symm
  rw [requestedBy, requestedBy, hlines, hlines]
  exact ((here_perm h origin).flatMap_right _).map _

theorem marksOn_perm (config : Config) (i i' : Issue) (s : Source) (line : Nat)
    (h : (placed'.map Placed.unordered).Perm (placed.map Placed.unordered)) :
    (((ofPlaced config i' placed' s).marksOn line).map Mark.unordered).Perm
      (((ofPlaced config i placed s).marksOn line).map Mark.unordered) := by
  have hmarks (placed : List Placed) : ((within placed s.name line).map (·.markOf config.tabWidth)).map Mark.unordered =
      (((here placed s.name).map Placed.unordered).filter
        fun p => !p.span.isMultiline && p.span.start.line = line).map (·.markOf config.tabWidth) := by
    rw [List.filter_map, List.map_map, List.map_map]
    rfl
  rw [marksOn_ofPlaced, marksOn_ofPlaced, hmarks, hmarks]
  exact ((here_perm h s.name).filter _).map _

theorem starts_marksOn (config : Config) (i : Issue) (s : Source) (line : Nat)
    (h : ((placed.filter (!·.span.isMultiline)).map (·.startsAt config.tabWidth)).Nodup) :
    (((ofPlaced config i placed s).marksOn line).map (·.start)).Nodup := by
  have hsub : (within placed s.name line).Sublist (placed.filter (!·.span.isMultiline)) := by
    refine (List.monotone_filter_right _ fun p hp => ?_).trans (List.filter_sublist.filter _)
    exact (Bool.and_eq_true _ _ ▸ hp).1
  have hsites : ((within placed s.name line).map fun p => (p.markOf config.tabWidth).start).map (line, ·) =
      (within placed s.name line).map (·.startsAt config.tabWidth) := by
    rw [List.map_map]
    refine List.map_congr_left fun p hp => ?_
    have hin := (List.mem_filter.1 hp).2
    rw [Bool.and_eq_true, decide_eq_true_eq] at hin
    rw [Function.comp_apply, ← hin.2]
    rfl
  rw [marksOn_ofPlaced, List.map_map]
  apply List.Nodup.of_map (line, ·)
  exact hsites ▸ (hsub.map _).nodup h

theorem map_rails_ofPlaced (config : Config) (i i' : Issue) (s : Source)
    (h : (placed'.map Placed.unordered).Perm (placed.map Placed.unordered))
    (hsites : ((placed.filter (·.span.isMultiline)).map (·.startsAt config.tabWidth)).Nodup) :
    (ofPlaced config i' placed' s).rails.map Rail.unordered =
      (ofPlaced config i placed s).rails.map Rail.unordered := by
  have hunordered (placed : List Placed) :
      ((across placed s.name).map (·.railOf config.tabWidth)).map Rail.unordered =
      (((here placed s.name).map Placed.unordered).filter (·.span.isMultiline)).map (·.railOf config.tabWidth) := by
    rw [List.filter_map, List.map_map, List.map_map]
    rfl
  have hsub : (across placed s.name).Sublist (placed.filter (·.span.isMultiline)) := List.filter_sublist.filter _
  rw [rails_ofPlaced, rails_ofPlaced]
  apply map_arrangeRails
  · rw [hunordered, hunordered]
    exact ((here_perm h s.name).filter _).map _
  · rw [List.map_map]
    exact (hsub.map _).nodup hsites

structure Reordered (b b' : Block) : Prop where
  name : b'.name = b.name
  location : b'.location = b.location
  lines : b'.lines = b.lines
  marks : ∀ line, ((b'.marksOn line).map Mark.unordered).Perm ((b.marksOn line).map Mark.unordered)
  starts : ∀ line, ((b.marksOn line).map (·.start)).Nodup
  rails : b'.rails.map Rail.unordered = b.rails.map Rail.unordered

namespace Reordered

variable {b b' : Block}

theorem rowsOf (h : Reordered b b') (config : Config) (g : Glyphs) (severity : Severity) (width : Nat) :
    b'.rowsOf config g severity width = b.rowsOf config g severity width := by
  funext l
  have hbeside : Rails.beside g b'.rails l.number = Rails.beside g b.rails l.number := by
    rw [← Rails.beside_unordered, h.rails, Rails.beside_unordered]
  rw [Block.rowsOf, Block.rowsOf, sourceLine, sourceLine, body, body, hbeside,
    Rows.below_eq g l.number h.rails (h.marks l.number) (h.starts l.number)]

theorem compose (h : Reordered b b') (config : Config) (g : Glyphs) (severity : Severity) (width : Nat)
    (isFirst : Bool) : b'.compose config g severity width isFirst = b.compose config g severity width isFirst := by
  rw [Block.compose, Block.compose, place, place, h.name, h.location, h.lines, h.rowsOf]

theorem numberWidth (h : Reordered b b') : b'.numberWidth = b.numberWidth := by
  rw [Block.numberWidth, Block.numberWidth, lastNumber, lastNumber, h.lines]

end Reordered

end Block

namespace Issue

variable {registry : Registry} {i : Issue} {placed : List Placed} {annotations : List Annotation}

theorem exists_place_perm (hplace : i.place registry = .ok placed) (hperm : annotations.Perm i.annotations) :
    ∃ placed', { i with annotations }.place registry = .ok placed' ∧
      (placed'.map Placed.unordered).Perm (placed.map Placed.unordered) := by
  obtain ⟨range, hprimary, hsubjects⟩ := allAnnotations_eq_ok.1 (subjects_of_place hplace)
  have hall := (allAnnotations_eq_ok (i := { i with annotations })).2 ⟨range, hprimary, rfl⟩
  have hplaced : List.Forall₂ (fun a p => a = Placed.subject p) (placed.map (·.subject)) placed := by
    rw [List.forall₂_map_left_iff, List.forall₂_same]
    exact fun _ _ => rfl
  rw [hsubjects] at hplaced
  obtain ⟨ps, hps, hpsPerm⟩ := List.perm_comp_forall₂ (hperm.append_right _) hplaced
  rw [← List.forall₂_map_right_iff, List.forall₂_eq_eq_eq] at hps
  refine ⟨ps.zipIdx.map fun (p, order) => { p with order }, place_of_isFrom ?_ hall ?_, ?_⟩
  · intro p' hp'
    obtain ⟨⟨p, order⟩, hp, rfl⟩ := List.mem_map.1 hp'
    have hfrom := (place_eq_ok hplace).2.1 p (hpsPerm.mem_iff.1 (List.fst_mem_of_mem_zipIdx hp))
    exact ⟨hfrom.lookup, hfrom.resolve⟩
  · rw [hps, List.map_map, List.zipIdx_map]
    rfl
  · have hfst : (ps.zipIdx.map fun (p, order) => ({ p with order } : Placed)).map Placed.unordered =
        ps.map Placed.unordered := by
      rw [List.map_map, ← List.zipIdx_map_fst 0 ps, List.map_map, List.zipIdx_map_fst]
      rfl
    rw [hfst]
    exact hpsPerm.map _

theorem origins_of_single {span : Span} (hprimary : i.primary = some span)
    (horigins : ∀ a ∈ i.annotations, a.span.origin = span.origin) : i.origins = [span.origin] := by
  have hlisted (names : List String) (h : ∀ n ∈ names, n = span.origin) :
      names.foldl addName [span.origin] = [span.origin] := by
    induction names with
    | nil => rfl
    | cons n names ih =>
      obtain ⟨rfl, hrest⟩ := List.forall_mem_cons.1 h
      rw [List.foldl_cons, addName, if_pos (List.mem_singleton_self _)]
      exact ih hrest
  rw [origins, primaryOrigin, hprimary]
  exact hlisted _ (List.forall_mem_map.2 horigins)

theorem blocks_of_single (config : Config) (h : i.place registry = .ok placed) {origin : String} {s : Source}
    (horigins : i.origins = [origin]) (hs : registry.lookup origin = .ok s) :
    i.blocks config registry placed = .ok [Block.ofPlaced config i placed s] := by
  rw [blocks, horigins, mapM_eq_ok]
  exact .cons (Block.ofOrigin_eq config i (place_eq_ok h).2.1 hs) .nil

theorem fullLines_reordered (config : Config) {b b' : Block} (h : b.Reordered b') :
    { i with annotations }.fullLines config [b'] = i.fullLines config [b] := by
  have hwidth : numberWidth [b'] = numberWidth [b] := by
    rw [numberWidth, numberWidth, List.map_singleton, List.map_singleton, h.numberWidth]
  have hblocks : { i with annotations }.blockLines config (Glyphs.ofCharSet config.charset) [b'] =
      i.blockLines config (Glyphs.ofCharSet config.charset) [b] := by
    simp only [blockLines, List.zipIdx_singleton, List.flatMap_singleton, hwidth, h.compose]
  rw [fullLines, fullLines, hwidth, hblocks]
  rfl

theorem reordered_ofPlaced (config : Config) {i' : Issue} {placed' : List Placed} {s : Source}
    (h : (placed'.map Placed.unordered).Perm (placed.map Placed.unordered))
    (hlocation : i'.locationIn s.name placed' = i.locationIn s.name placed)
    (hmarks : ((placed.filter (!·.span.isMultiline)).map (·.startsAt config.tabWidth)).Nodup)
    (hrails : ((placed.filter (·.span.isMultiline)).map (·.startsAt config.tabWidth)).Nodup) :
    (Block.ofPlaced config i placed s).Reordered (Block.ofPlaced config i' placed' s) where
  name := rfl
  location := hlocation
  lines := Source.excerptLines_perm (Block.requestedBy_perm h _ _) _
  marks line := Block.marksOn_perm config i i' s line h
  starts line := Block.starts_marksOn config i s line hmarks
  rails := Block.map_rails_ofPlaced config i i' s h hrails

theorem lines_perm (config : Config) (registry : Registry) (i : Issue) (span : Span) (annotations : List Annotation)
    (placed : List Placed) (hprimary : i.primary = some span)
    (horigins : ∀ a ∈ i.annotations, a.span.origin = span.origin) (hperm : annotations.Perm i.annotations)
    (hplace : i.place registry = .ok placed)
    (hmarks : ((placed.filter (!·.span.isMultiline)).map (·.startsAt config.tabWidth)).Nodup)
    (hrails : ((placed.filter (·.span.isMultiline)).map (·.startsAt config.tabWidth)).Nodup) :
    ∃ out, i.lines config registry = .ok out ∧ { i with annotations }.lines config registry = .ok out := by
  obtain ⟨out, hout⟩ := exists_lines config hplace
  obtain ⟨placed', hplace', hunordered⟩ := exists_place_perm hplace hperm
  refine ⟨out, hout, hout ▸ ?_⟩
  have hleading : i.leading = some span := by rw [leading, hprimary, Option.some_or]
  have hleading' : ({ i with annotations } : Issue).leading = some span := by rw [leading, hprimary, Option.some_or]
  obtain ⟨s, hs, hlocate⟩ := locate_leading hplace hleading
  obtain ⟨s', hs', hlocate'⟩ := locate_leading hplace' hleading'
  obtain rfl : s = s' := Except.ok.inj (hs.symm.trans hs')
  have hlocation := Except.ok.inj (hlocate'.symm.trans hlocate)
  have hheader : ({ i with annotations } : Issue).locatedHeader placed' = i.locatedHeader placed := by
    rw [locatedHeader_leading placed' hleading', locatedHeader_leading placed hleading, hlocation]
    rfl
  have hblocks := blocks_of_single config hplace (origins_of_single hprimary horigins) hs
  have hblocks' := blocks_of_single config hplace' (origins_of_single (i := { i with annotations }) hprimary
    fun a ha => horigins a (hperm.mem_iff.1 ha)) hs
  have hname : s.name = span.origin := Registry.name_of_lookup hs
  have hreordered := reordered_ofPlaced config hunordered (hname ▸ hlocation) hmarks hrails
  cases hstyle : config.style with
  | compact =>
    rw [lines, lines, hplace, hplace']
    simp only [bind, Except.bind, hstyle, hheader]
  | comfortable =>
    rw [lines, lines, hplace, hplace']
    simp only [bind, Except.bind, hstyle, hheader]
    rfl
  | full =>
    rw [lines_full hstyle hplace hblocks, lines_full hstyle hplace' hblocks', fullLines_reordered config hreordered]

theorem lines_perm_swapped :
    let registry : Registry := ⟨[⟨"a", "ab\ncd\n"⟩], List.nodup_singleton _⟩
    let mark : Annotation := ⟨.secondary, ⟨"a", 1, 2, by decide⟩, some "m"⟩
    let rail : Annotation := ⟨.primary, ⟨"a", 0, 5, by decide⟩, some "r"⟩
    let i : Issue := ⟨.error, "e", none, some ⟨"a", 0, 1⟩, [mark, rail], []⟩
    ∃ placed, i.place registry = .ok placed ∧
      ((placed.filter (!·.span.isMultiline)).map (·.startsAt 2)).Nodup ∧
      ((placed.filter (·.span.isMultiline)).map (·.startsAt 2)).Nodup ∧
      ∃ out, i.lines Config.initial registry = .ok out ∧
        { i with annotations := [rail, mark] }.lines Config.initial registry = .ok out := by
  intro registry mark rail i
  have hmarks : ((([⟨mark, ⟨"a", "ab\ncd\n"⟩, ⟨"a", ⟨1, 2⟩, ⟨1, 3⟩, 1, 2, 0, 2⟩, 0⟩,
      ⟨rail, ⟨"a", "ab\ncd\n"⟩, ⟨"a", ⟨1, 1⟩, ⟨2, 3⟩, 0, 5, 0, 5⟩, 1⟩,
      ⟨⟨.primary, ⟨"a", 0, 1, by decide⟩, none⟩, ⟨"a", "ab\ncd\n"⟩, ⟨"a", ⟨1, 1⟩, ⟨1, 2⟩, 0, 1, 0, 2⟩, 2⟩] :
        List Placed).filter (!·.span.isMultiline)).map (·.startsAt 2)).Nodup := by decide
  have hrails := List.nodup_singleton (1, 0)
  exact ⟨_, rfl, hmarks, hrails, lines_perm Config.initial registry i _ [rail, mark] _ rfl (by decide)
    (List.Perm.swap _ _ _) rfl hmarks hrails⟩

end Issue

end Diagnostics
