import Diagnostics.Block
import Diagnostics.Proofs.Issue.Origins
import Diagnostics.Proofs.Source.Span

namespace Diagnostics

namespace Registry

variable {registry : Registry} {origin : String} {s : Source}

theorem lookup_eq_ok : registry.lookup origin = .ok s ↔ registry.get? origin = some s := by
  rw [lookup]
  cases registry.get? origin <;> simp

theorem name_of_lookup (h : registry.lookup origin = .ok s) : s.name = origin := by
  have hfind := List.find?_some (lookup_eq_ok.1 h)
  exact of_decide_eq_true hfind

theorem exists_lookup (h : origin ∈ registry.names) : ∃ s, registry.lookup origin = .ok s := by
  obtain ⟨s, hs, heq⟩ := List.mem_map.1 h
  have hsome : (registry.get? origin).isSome := by
    rw [get?, List.find?_isSome]
    exact ⟨s, hs, decide_eq_true heq⟩
  obtain ⟨t, ht⟩ := Option.isSome_iff_exists.1 hsome
  exact ⟨t, lookup_eq_ok.2 ht⟩

theorem mem_names_of_lookup (h : registry.lookup origin = .ok s) : origin ∈ registry.names := by
  have hmem := List.mem_of_find?_eq_some (lookup_eq_ok.1 h)
  exact List.mem_map.2 ⟨s, hmem, name_of_lookup h⟩

theorem lookup_of_notMem (h : origin ∉ registry.names) :
    registry.lookup origin = .error (.sourceMissing origin) := by
  cases hl : registry.lookup origin with
  | ok s => exact absurd (mem_names_of_lookup hl) h
  | error e =>
    rw [lookup] at hl
    split at hl
    · cases hl
    · exact hl.symm ▸ rfl

theorem faultOf_lookups (registry : Registry) (origins : List String) :
    faultOf (origins.mapM registry.lookup) =
      (origins.find? fun o => o ∉ registry.names).map .sourceMissing := by
  rw [faultOf_mapM]
  induction origins with
  | nil => rfl
  | cons o origins ih =>
    by_cases ho : o ∈ registry.names
    · obtain ⟨s, hs⟩ := exists_lookup ho
      simp [hs, ho, ih]
    · simp [lookup_of_notMem ho, ho]

end Registry

structure Placed.IsFrom (registry : Registry) (p : Placed) : Prop where
  lookup : registry.lookup p.subject.span.origin = .ok p.source
  resolve : p.source.resolve p.subject.span.start p.subject.span.stop = .ok p.span

namespace Issue

def offsets (i : Issue) : List (String × Nat) :=
  i.spans.flatMap fun s => [(s.origin, s.start.toNat), (s.origin, s.stop.toNat)]

def fault? (registry : Registry) (i : Issue) : Option Failure :=
  ((i.origins.find? fun o => o ∉ registry.names).map .sourceMissing).or
    (((i.primary.bind Span.rejection?).map .rejected).or
      (i.offsets.findSome? fun (origin, offset) => (registry.get? origin).bind (·.offsetFault offset)))

theorem offsets_eq {i : Issue} {as : List Annotation} (h : i.allAnnotations = .ok as) :
    i.offsets = as.flatMap fun a => [(a.span.origin, a.span.start), (a.span.origin, a.span.stop)] := by
  rw [offsets, spans_eq h, List.flatMap_map]
  rfl

theorem faultOf_placing {registry : Registry} {a : Annotation} {s : Source} (order : Nat)
    (hs : registry.lookup a.span.origin = .ok s) :
    faultOf (do
        let source ← registry.lookup a.span.origin
        let span ← source.resolve a.span.start a.span.stop
        .ok (⟨a, source, span, order⟩ : Placed)) =
      (s.offsetFault a.span.start).or (s.offsetFault a.span.stop) := by
  rw [hs, ← Source.faultOf_resolve a.span.ordered]
  cases hspan : s.resolve a.span.start a.span.stop with
  | error e => simp [bind, Except.bind, hspan]
  | ok span => simp [bind, Except.bind, hspan]

theorem faultOf_placings {registry : Registry} {as : List Annotation}
    (h : ∀ a ∈ as, a.span.origin ∈ registry.names) :
    faultOf (as.zipIdx.mapM fun (a, order) => do
        let source ← registry.lookup a.span.origin
        let span ← source.resolve a.span.start a.span.stop
        .ok (⟨a, source, span, order⟩ : Placed)) =
      (as.flatMap fun a => [(a.span.origin, a.span.start), (a.span.origin, a.span.stop)]).findSome?
        fun (origin, offset) => (registry.get? origin).bind (·.offsetFault offset) := by
  rw [faultOf_mapM, findSome?_flatMap]
  nth_rewrite 2 [← List.zipIdx_map_fst 0 as]
  rw [List.findSome?_map]
  refine findSome?_congr_mem fun x hx => ?_
  obtain ⟨s, hs⟩ := Registry.exists_lookup (h x.1 (List.fst_mem_of_mem_zipIdx hx))
  rw [faultOf_placing x.2 hs]
  simp only [Registry.lookup_eq_ok.1 hs, Function.comp_apply, List.findSome?_cons, List.findSome?_nil, Option.bind_some]
  cases s.offsetFault x.1.span.start with
  | some e => rfl
  | none => cases s.offsetFault x.1.span.stop <;> rfl

theorem faultOf_place (registry : Registry) (i : Issue) : faultOf (i.place registry) = i.fault? registry := by
  have hmissing := registry.faultOf_lookups i.origins
  rw [place, faultOf_bind, hmissing, fault?]
  cases hfind : i.origins.find? fun o => o ∉ registry.names with
  | some origin => rfl
  | none =>
    rw [hfind] at hmissing
    obtain ⟨sources, hsources⟩ := faultOf_eq_none.1 hmissing
    have hrejected := i.faultOf_allAnnotations
    simp only [hsources, Option.map_none, Option.none_or, Except.toOption, Option.bind_some]
    rw [faultOf_bind, faultOf_mapError, hrejected]
    cases hall : i.allAnnotations with
    | error r =>
      rw [hall, faultOf_error] at hrejected
      rw [← hrejected]
      rfl
    | ok as =>
      rw [hall, faultOf_ok] at hrejected
      rw [← hrejected, offsets_eq hall]
      refine faultOf_placings fun a ha => ?_
      have hknown := List.find?_eq_none.1 hfind _ ((mem_origins_of_allAnnotations hall).2 ⟨a, ha, rfl⟩)
      simpa using hknown

theorem place_eq_ok {registry : Registry} {i : Issue} {placed : List Placed}
    (h : i.place registry = .ok placed) :
    (∀ origin ∈ i.origins, origin ∈ registry.names) ∧ (∀ p ∈ placed, p.IsFrom registry)
      ∧ ∃ as, i.allAnnotations = .ok as ∧ placed.map (fun p => (p.subject, p.order)) = as.zipIdx := by
  obtain ⟨sources, hsources, h⟩ := bind_ok.1 h
  obtain ⟨as, has, h⟩ := bind_ok.1 h
  have hplaced : List.Forall₂ (fun x p => x = (p.subject, p.order) ∧ p.IsFrom registry) as.zipIdx placed := by
    refine (mapM_eq_ok.1 h).imp fun x p hp => ?_
    obtain ⟨s, hs, hp⟩ := bind_ok.1 hp
    obtain ⟨span, hspan, hp⟩ := bind_ok.1 hp
    rw [← Except.ok.inj hp]
    exact ⟨rfl, hs, hspan⟩
  refine ⟨fun origin ho => ?_, fun p hp => ?_, as, mapError_ok.1 has, ?_⟩
  · have hnone := registry.faultOf_lookups i.origins
    rw [hsources, faultOf_ok, eq_comm, Option.map_eq_none_iff] at hnone
    simpa using List.find?_eq_none.1 hnone origin ho
  · obtain ⟨x, -, -, hfrom⟩ := exists_of_mem_right hplaced hp
    exact hfrom
  · have heq := hplaced.imp (S := fun x p => x = (p.subject, p.order)) fun x p hp => hp.1
    rw [← List.forall₂_map_right_iff (f := fun p : Placed => (p.subject, p.order)), List.forall₂_eq_eq_eq] at heq
    exact heq.symm

theorem place_of_isFrom {registry : Registry} {i : Issue} {as : List Annotation} {placed : List Placed}
    (hfrom : ∀ p ∈ placed, p.IsFrom registry) (hall : i.allAnnotations = .ok as)
    (horders : placed.map (fun p => (p.subject, p.order)) = as.zipIdx) :
    i.place registry = .ok placed := by
  have hsources : ∀ origin ∈ i.origins, ∃ s, registry.lookup origin = .ok s := by
    intro origin ho
    obtain ⟨a, ha, rfl⟩ := (mem_origins_of_allAnnotations hall).1 ho
    rw [← List.zipIdx_map_fst 0 as, ← horders, List.map_map, List.mem_map] at ha
    obtain ⟨p, hp, rfl⟩ := ha
    exact ⟨p.source, (hfrom p hp).lookup⟩
  obtain ⟨sources, hsources⟩ := exists_forall₂ hsources
  rw [place, bind_ok]
  refine ⟨sources, mapM_eq_ok.2 hsources, bind_ok.2 ⟨as, mapError_ok.2 hall, ?_⟩⟩
  rw [← horders, mapM_eq_ok, List.forall₂_map_left_iff, List.forall₂_same]
  intro p hp
  simp only [(hfrom p hp).lookup, (hfrom p hp).resolve, bind, Except.bind]

end Issue

end Diagnostics
