import Diagnostics.Proofs.Issue.Resolution

namespace Diagnostics

theorem find?_filter_of_find? {α : Type} {p q : α → Bool} {l : List α} {a : α} (h : l.find? q = some a) (hp : p a) :
    (l.filter p).find? q = some a := by
  induction l with
  | nil => cases h
  | cons b l ih =>
    by_cases hq : q b
    · rw [List.find?_cons_of_pos hq] at h
      obtain rfl := Option.some.inj h
      rw [List.filter_cons_of_pos hp, List.find?_cons_of_pos hq]
    · rw [List.find?_cons_of_neg hq] at h
      rw [List.filter_cons]
      split
      · rw [List.find?_cons_of_neg hq, ih h]
      · exact ih h

namespace Issue

def leading (i : Issue) : Option Span :=
  i.primary.or (((i.annotations.find? (·.isPrimary)).or i.annotations.head?).map (·.span.toSpan))

theorem primaryOrigin_eq (i : Issue) : i.primaryOrigin = i.leading.map (·.origin) := by
  rw [primaryOrigin, leading]
  cases i.primary with
  | some span => rfl
  | none =>
    rw [Option.none_or, Option.map_map]
    rfl

theorem origins_of_leading {i : Issue} {span : Span} (h : i.leading = some span) :
    ∃ rest, i.origins = span.origin :: rest := by
  obtain ⟨rest, hrest, -⟩ := i.origins_eq_append
  rw [primaryOrigin_eq, h] at hrest
  exact ⟨rest, hrest⟩

theorem leading_eq_none_iff {i : Issue} : i.leading = none ↔ i.origins = [] := by
  constructor
  · intro h
    have hannotations : i.annotations = [] := by
      rw [leading, Option.or_eq_none_iff, Option.map_eq_none_iff, Option.or_eq_none_iff, List.head?_eq_none_iff] at h
      exact h.2.2
    rw [origins, primaryOrigin_eq, h, hannotations]
    rfl
  · intro h
    cases hleading : i.leading with
    | none => rfl
    | some span =>
      obtain ⟨rest, hrest⟩ := origins_of_leading hleading
      rw [hrest] at h
      cases h

variable {registry : Registry} {i : Issue} {placed : List Placed} {span : Span}

theorem subject_anchor (i : Issue) (origin : String) (placed : List Placed) :
    (i.anchor origin placed).map (·.subject) =
      let here := (placed.map (·.subject)).filter (·.span.origin = origin)
      if i.primary.any (·.origin = origin) then here.getLast? else (here.find? (·.isPrimary)).or here.head? := by
  have hhere : (placed.map (·.subject)).filter (·.span.origin = origin) =
      (placed.filter (·.subject.span.origin = origin)).map (·.subject) := List.filter_map
  simp only [anchor, hhere, List.getLast?_map, List.find?_map, List.head?_map]
  split
  · rfl
  · rw [Option.map_or]
    rfl

theorem anchor_leading (h : i.place registry = .ok placed) (hspan : i.leading = some span) :
    (i.anchor span.origin placed).map (·.subject.span.toSpan) = some span := by
  obtain ⟨range, hprimary, hall⟩ := allAnnotations_eq_ok.1 (subjects_of_place h)
  have hsubject := congrArg (Option.map fun a => a.span.toSpan) (subject_anchor i span.origin placed)
  rw [Option.map_map] at hsubject
  refine hsubject.trans ?_
  rw [hall]
  rw [leading, hprimary] at hspan
  cases range with
  | some r =>
    obtain rfl := Option.some.inj hspan
    -- The primary span is the last of all annotations, so it is the last one of its source.
    simp [hprimary, List.filter_append, ByteRange.toSpan]
  | none =>
    obtain ⟨a, ha, rfl⟩ := Option.map_eq_some_iff.1 hspan
    have hself : decide (a.span.origin = a.span.toSpan.origin) := decide_eq_true rfl
    simp only [hprimary, Option.map_none, Option.any_none, Option.toList_none, List.map_nil, List.append_nil]
    rw [if_neg Bool.false_ne_true]
    rcases Option.or_eq_some_iff.1 ha with hfirst | ⟨hprimaries, hhead⟩
    · rw [find?_filter_of_find? hfirst hself]
      rfl
    · have hnoPrimary : (i.annotations.filter (·.span.origin = a.span.toSpan.origin)).find? (·.isPrimary) = none := by
        rw [List.find?_eq_none] at hprimaries ⊢
        intro b hb
        exact hprimaries b (List.mem_of_mem_filter hb)
      obtain ⟨rest, hrest⟩ := List.head?_eq_some_iff.1 hhead
      have hfind : (a :: rest).find? (·.span.origin = a.span.toSpan.origin) = some a := List.find?_cons_of_pos hself
      rw [hnoPrimary, hrest, Option.none_or, List.head?_filter, hfind]
      rfl

theorem locate_leading (h : i.place registry = .ok placed) (hspan : i.leading = some span) :
    ∃ s, registry.lookup span.origin = .ok s ∧ s.locate span.start = .ok (i.locationIn span.origin placed) := by
  obtain ⟨rest, hrest⟩ := origins_of_leading hspan
  obtain ⟨p, hanchor, hp⟩ := anchor_of_mem_origins h (hrest ▸ List.mem_cons_self ..)
  have hsubject := anchor_leading h hspan
  rw [hanchor] at hsubject
  obtain rfl : p.subject.span.toSpan = span := Option.some.inj hsubject
  have hfrom := (place_eq_ok h).2.1 p (List.mem_of_mem_filter hp)
  obtain ⟨first, -, hfirst, -, hstart, -⟩ := Source.resolve_eq_ok p.subject.span.ordered hfrom.resolve
  refine ⟨p.source, hfrom.lookup, hfirst.trans ?_⟩
  rw [locationIn, hanchor, Option.map_some, Option.getD_some, hstart]

theorem locatedHeader_leading (placed : List Placed) (hspan : i.leading = some span) :
    i.locatedHeader placed =
      .styled (span.origin ++ ":" ++ (i.locationIn span.origin placed).text ++ ": ") .message :: i.headerLine := by
  rw [locatedHeader, primaryOrigin_eq, hspan]
  rfl

theorem forall₂_blocks (config : Config) (g : Glyphs) (width : Nat) (placed : List Placed) {sources : List Source}
    (h : List.Forall₂ (fun origin s => registry.lookup origin = .ok s) i.origins sources) :
    List.Forall₂ (fun origin b => b.location = i.locationIn origin placed ∧ ∀ isFirst,
        (b.compose config g i.severity width isFirst).head? =
          some (Line.location config.charset width isFirst (origin ++ ":" ++ b.location.text)))
      i.origins (sources.map (Block.ofPlaced config i placed)) := by
  rw [List.forall₂_map_right_iff]
  refine h.imp fun origin s hs => ?_
  obtain rfl := Registry.name_of_lookup hs
  exact ⟨rfl, fun isFirst => rfl⟩

theorem lines_by_style (config : Config) (registry : Registry) (i : Issue) (hresolve : i.fault? registry = none) :
    let g := Glyphs.ofCharSet config.charset
    let shown := fun style => i.lines (config.withStyle style) registry
    let notes := fun indent => i.notes.flatMap fun note => Line.note g "note" note indent
    ∃ (placed : List Placed) (head : Line) (blocks : List Block),
      let width := numberWidth blocks
      let parts := blocks.zipIdx.map fun (b, index) => b.compose config g i.severity width (index = 0)
      i.place registry = .ok placed ∧ i.blocks config registry placed = .ok blocks ∧
      shown .compact = .ok [head] ∧
      shown .comfortable = .ok (head :: notes 2) ∧
      shown .full = .ok (i.headerLine :: parts.flatten
        ++ (if i.notes.isEmpty || parts.isEmpty then [] else [Line.gutter g width]) ++ notes (width + 1) ++ [[]]) ∧
      List.Forall₂ (fun origin b => ∀ isFirst, (b.compose config g i.severity width isFirst).head? =
          some (Line.location config.charset width isFirst (origin ++ ":" ++ b.location.text))) i.origins blocks ∧
      (i.origins = [] → head = i.headerLine ∧ blocks = []) ∧
      (i.origins ≠ [] → ∃ span s b rest,
        i.leading = some span ∧ i.primaryOrigin = some span.origin ∧
        registry.lookup span.origin = .ok s ∧ s.locate span.start = .ok b.location ∧
        head = .styled (span.origin ++ ":" ++ b.location.text ++ ": ") .message :: i.headerLine ∧
        blocks = b :: rest) := by
  intro g shown notes
  rw [← faultOf_place, faultOf_eq_none] at hresolve
  obtain ⟨placed, hplace⟩ := hresolve
  obtain ⟨sources, hsources, hblocks⟩ := blocks_eq_ok (config.withStyle .full) hplace
  have hparts := forall₂_blocks config g (numberWidth (sources.map (Block.ofPlaced config i placed))) placed hsources
  replace hblocks : i.blocks config registry placed = .ok (sources.map (Block.ofPlaced config i placed)) := hblocks
  generalize sources.map (Block.ofPlaced config i placed) = blocks at hblocks hparts
  refine ⟨placed, i.locatedHeader placed, blocks, hplace, hblocks, ?_, ?_, ?_, hparts.imp fun _ _ h => h.2, ?_, ?_⟩
  · simp only [shown, lines, hplace]
    rfl
  · simp only [shown, lines, hplace]
    rfl
  · have hfull : shown .full = .ok (i.fullLines (config.withStyle .full) blocks) := lines_full rfl hplace hblocks
    rw [hfull, fullLines, blockLines, List.flatMap_def]
    cases blocks <;> rfl
  · intro hnil
    rw [hnil] at hparts
    refine ⟨?_, List.forall₂_nil_left_iff.1 hparts⟩
    rw [locatedHeader, primaryOrigin_eq, leading_eq_none_iff.2 hnil]
    rfl
  · intro hne
    obtain ⟨span, hspan⟩ := Option.ne_none_iff_exists'.1 (mt leading_eq_none_iff.1 hne)
    obtain ⟨s, hs, hlocate⟩ := locate_leading hplace hspan
    obtain ⟨others, hothers⟩ := origins_of_leading hspan
    rw [hothers, List.forall₂_cons_left_iff] at hparts
    obtain ⟨b, rest, ⟨hlocation, -⟩, -, hrest⟩ := hparts
    refine ⟨span, s, b, rest, hspan, ?_, hs, hlocation ▸ hlocate, hlocation ▸ locatedHeader_leading placed hspan, hrest⟩
    rw [primaryOrigin_eq, hspan]
    rfl

theorem lines_by_style_two_sources :
    let registry : Registry := ⟨[⟨"a", "x\ny\n"⟩, ⟨"b", "z"⟩], by decide⟩
    let i : Issue := ⟨.error, "m", none, none, [⟨.secondary, ⟨"b", 0, 1, by decide⟩, none⟩,
      ⟨.primary, ⟨"a", 2, 3, by decide⟩, some "l"⟩], ["n"]⟩
    i.fault? registry = none ∧
      ∃ head notes position, i.lines (Config.initial.withStyle .compact) registry = .ok [head] ∧
        i.lines (Config.initial.withStyle .comfortable) registry = .ok (head :: notes) ∧
        head = .styled ("a" ++ ":" ++ Position.text position ++ ": ") .message :: i.headerLine := by
  intro registry i
  have hresolve : i.fault? registry = none := by decide
  obtain ⟨_, head, _, -, -, hcompact, hcomfortable, -, -, -, hplaced⟩ :=
    lines_by_style Config.initial registry i hresolve
  obtain ⟨span, _, b, _, hspan, -, -, -, hhead, -⟩ := hplaced (by decide)
  obtain rfl : ⟨"a", 2, 3⟩ = span := Option.some.inj hspan
  exact ⟨hresolve, head, _, b.location, hcompact, hcomfortable, hhead⟩

end Issue

end Diagnostics
