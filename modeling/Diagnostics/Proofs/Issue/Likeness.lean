import Diagnostics.Proofs.Issue.Resolution

namespace Diagnostics

def Annotation.mapRange (f : ByteRange → ByteRange) (a : Annotation) : Annotation := { a with span := f a.span }

@[simp] theorem Annotation.span_mapRange (f : ByteRange → ByteRange) (a : Annotation) :
    (a.mapRange f).span = f a.span := rfl

namespace Span

def mapRange (f : ByteRange → ByteRange) (s : Span) : Span := (s.range?.map fun r => (f r).toSpan).getD s

@[simp] theorem mapRange_toSpan (f : ByteRange → ByteRange) (r : ByteRange) : r.toSpan.mapRange f = (f r).toSpan := by
  rw [mapRange, range?_eq_some.2 rfl, Option.map_some, Option.getD_some]

theorem mapRange_id (s : Span) : s.mapRange id = s := by
  rw [mapRange]
  cases hrange : s.range? with
  | none => rfl
  | some r => exact (range?_eq_some.1 hrange).symm

theorem origin_mapRange {f : ByteRange → ByteRange} (hf : ∀ range, (f range).origin = range.origin) (s : Span) :
    (s.mapRange f).origin = s.origin := by
  rw [mapRange]
  cases hrange : s.range? with
  | none => rfl
  | some r =>
    rw [range?_eq_some.1 hrange]
    exact hf r

end Span

def Placed.site (p : Placed) : String × Weight × Position :=
  (p.subject.span.origin, p.subject.weight, p.span.start)

namespace Issue

def mapRanges (f : ByteRange → ByteRange) (i : Issue) : Issue :=
  { i with primary := i.primary.map (·.mapRange f), annotations := i.annotations.map (·.mapRange f) }

theorem mapRanges_id (i : Issue) : i.mapRanges id = i := by
  have hprimary : i.primary.map (·.mapRange id) = i.primary := by
    rw [Option.map_congr fun span _ => span.mapRange_id, Option.map_id']
  have hannotations : i.annotations.map (·.mapRange id) = i.annotations := List.map_id _
  rw [mapRanges, hprimary, hannotations]

theorem allAnnotations_mapRanges (f : ByteRange → ByteRange) {i : Issue} {as : List Annotation}
    (h : i.allAnnotations = .ok as) : (i.mapRanges f).allAnnotations = .ok (as.map (·.mapRange f)) := by
  obtain ⟨range, hprimary, rfl⟩ := allAnnotations_eq_ok.1 h
  refine allAnnotations_eq_ok.2 ⟨range.map f, ?_, ?_⟩
  · rw [mapRanges, hprimary]
    cases range with
    | none => rfl
    | some r => simp
  · rw [List.map_append]
    cases range <;> rfl

theorem primaryOrigin_mapRanges {f : ByteRange → ByteRange} (hf : ∀ range, (f range).origin = range.origin)
    (i : Issue) : (i.mapRanges f).primaryOrigin = i.primaryOrigin := by
  have hprimary : (fun a : Annotation => (a.mapRange f).isPrimary) = Annotation.isPrimary := rfl
  cases h : i.primary with
  | some span => simp [primaryOrigin, mapRanges, h, Span.origin_mapRange hf]
  | none =>
    simp only [primaryOrigin, mapRanges, h, Option.map_none, List.find?_map, List.head?_map, ← Option.map_or,
      Option.map_map, Function.comp_def, hprimary]
    simp [hf]

theorem origins_mapRanges {f : ByteRange → ByteRange} (hf : ∀ range, (f range).origin = range.origin) (i : Issue) :
    (i.mapRanges f).origins = i.origins := by
  rw [origins, origins, primaryOrigin_mapRanges hf]
  simp [mapRanges, hf, Function.comp_def]

theorem exists_place_mapRanges {f : ByteRange → ByteRange} {R : Placed → Placed → Prop} {registry registry' : Registry}
    {i : Issue} {placed : List Placed} (hplace : i.place registry = .ok placed)
    (h : ∀ p ∈ placed, ∃ p', p'.subject = p.subject.mapRange f ∧ p'.order = p.order ∧ p'.IsFrom registry' ∧ R p p') :
    ∃ placed', (i.mapRanges f).place registry' = .ok placed' ∧ List.Forall₂ R placed placed' := by
  obtain ⟨placed', hplaced'⟩ := exists_forall₂ h
  obtain ⟨-, -, as, has, horders⟩ := place_eq_ok hplace
  refine ⟨placed', place_of_isFrom ?_ (allAnnotations_mapRanges f has) ?_, hplaced'.imp fun p p' hp => hp.2.2.2⟩
  · intro p' hp'
    obtain ⟨p, -, -, -, hfrom, -⟩ := exists_of_mem_right hplaced' hp'
    exact hfrom
  · have hpairs : placed'.map (fun p => (p.subject, p.order)) =
        placed.map fun p => (p.subject.mapRange f, p.order) :=
      map_eq_of_forall₂ (hplaced'.imp fun p p' hp => by rw [hp.1, hp.2.1])
    rw [hpairs, List.zipIdx_map, ← horders, List.map_map]
    rfl

variable {placed placed' : List Placed}

theorem site_anchor (i : Issue) (origin : String) (placed : List Placed) :
    (i.anchor origin placed).map Placed.site =
      let here := (placed.map Placed.site).filter (·.1 = origin)
      if i.primary.map (·.origin) = some origin then here.getLast?
      else (here.find? (·.2.1 = .primary)).or here.head? := by
  have hhere : (placed.map Placed.site).filter (·.1 = origin) =
      (placed.filter (·.subject.span.origin = origin)).map Placed.site := List.filter_map
  have hprimary : i.primary.any (·.origin = origin) = true ↔ i.primary.map (·.origin) = some origin := by
    cases i.primary <;> simp
  simp only [anchor, hhere, hprimary, List.getLast?_map, List.find?_map, List.head?_map]
  split
  · rfl
  · rw [Option.map_or]
    rfl

theorem locationIn_mapRanges {f : ByteRange → ByteRange} (hf : ∀ range, (f range).origin = range.origin) {i : Issue}
    (hsites : placed'.map Placed.site = placed.map Placed.site) (origin : String) :
    (i.mapRanges f).locationIn origin placed' = i.locationIn origin placed := by
  have hprimary : (i.mapRanges f).primary.map (·.origin) = i.primary.map (·.origin) := by
    simp [mapRanges, Function.comp_def, Span.origin_mapRange hf]
  have hanchor : ((i.mapRanges f).anchor origin placed').map Placed.site =
      (i.anchor origin placed).map Placed.site := by
    rw [site_anchor, site_anchor, hprimary, hsites]
  have hstart := congrArg (Option.map fun site => site.2.2) hanchor
  rw [Option.map_map, Option.map_map] at hstart
  rw [locationIn, locationIn]
  exact congrArg (Option.getD · ⟨1, 1⟩) hstart

end Issue

namespace Block

theorem shapesOf_eq {tab : Nat} {placed placed' : List Placed}
    (h : List.Forall₂ (fun p p' =>
      p'.subject.span.origin = p.subject.span.origin ∧ p'.shapeOf tab = p.shapeOf tab) placed placed')
    (origin : String) : shapesOf tab placed' origin = shapesOf tab placed origin := by
  rw [shapesOf, shapesOf, here, here]
  induction h with
  | nil => rfl
  | cons hp _ ih =>
    rw [List.filter_cons, List.filter_cons, hp.1]
    split
    · rw [List.map_cons, List.map_cons, hp.2, ih]
    · exact ih

end Block

namespace Issue

variable {f : ByteRange → ByteRange} {registry registry' : Registry} {i : Issue} {placed placed' : List Placed}

theorem blocks_mapRanges (config : Config) (hf : ∀ range, (f range).origin = range.origin)
    (hplace : i.place registry = .ok placed) (hplace' : (i.mapRanges f).place registry' = .ok placed')
    (hsites : placed'.map Placed.site = placed.map Placed.site)
    (hshapes : ∀ origin ∈ i.origins,
      Block.shapesOf config.tabWidth placed' origin = Block.shapesOf config.tabWidth placed origin)
    (hsources : ∀ origin ∈ i.origins, ∃ s s', registry.lookup origin = .ok s ∧ registry'.lookup origin = .ok s' ∧
      Source.Similar (s.shownLines (Block.requestedBy (Block.shapesOf config.tabWidth placed origin))
        config.contextLines) s s') :
    (i.mapRanges f).blocks config registry' placed' = i.blocks config registry placed := by
  rw [blocks, blocks, origins_mapRanges hf]
  apply mapM_congr_mem
  intro origin ho
  obtain ⟨s, s', hs, hs', hsimilar⟩ := hsources origin ho
  obtain rfl := Registry.name_of_lookup hs
  have hname := Registry.name_of_lookup hs'
  rw [Block.ofOrigin_eq config i (place_eq_ok hplace).2.1 hs,
    Block.ofOrigin_eq config _ (place_eq_ok hplace').2.1 hs', Block.ofPlaced, Block.ofPlaced, hname, hshapes _ ho,
    locationIn_mapRanges hf hsites, hsimilar.excerptLines]

theorem lines_mapRanges (config : Config) (hf : ∀ range, (f range).origin = range.origin)
    (hplace : i.place registry = .ok placed) (hplace' : (i.mapRanges f).place registry' = .ok placed')
    (hsites : placed'.map Placed.site = placed.map Placed.site)
    (hblocks : config.style = .full →
      (i.mapRanges f).blocks config registry' placed' = i.blocks config registry placed) :
    (i.mapRanges f).lines config registry' = i.lines config registry := by
  have hheader : (i.mapRanges f).locatedHeader placed' = i.locatedHeader placed := by
    rw [locatedHeader, locatedHeader, primaryOrigin_mapRanges hf]
    simp only [locationIn_mapRanges hf hsites]
    rfl
  rw [lines, lines, hplace, hplace']
  simp only [bind, Except.bind]
  cases hstyle : config.style with
  | compact => simp only [hheader]
  | comfortable =>
    simp only [hheader]
    rfl
  | full =>
    simp only [hblocks hstyle]
    rfl

end Issue

end Diagnostics
