import Diagnostics.Issue
import Diagnostics.Proofs.Outcome

namespace Diagnostics

namespace Span

def rejection? (s : Span) : Option Rejection :=
  if s.start < 0 ∨ s.stop < 0 then some (.negativeOffsets s.start s.stop)
  else if s.stop < s.start then some (.reversedOffsets s.start s.stop)
  else none

theorem range?_eq_some {s : Span} {r : ByteRange} : s.range? = some r ↔ s = r.toSpan := by
  rw [range?]
  constructor
  · intro h
    split at h
    · rename_i hvalid
      obtain rfl := Option.some.inj h
      rw [ByteRange.toSpan, Int.toNat_of_nonneg hvalid.1, Int.toNat_of_nonneg (by omega)]
    · cases h
  · rintro rfl
    have hordered := r.ordered
    rw [dif_pos (by simp only [ByteRange.toSpan]; omega)]
    rfl

theorem rejection?_toSpan (r : ByteRange) : r.toSpan.rejection? = none := by
  have hordered := r.ordered
  rw [rejection?, if_neg (by simp only [ByteRange.toSpan]; omega), if_neg (by simp only [ByteRange.toSpan]; omega)]

theorem rejection?_eq_none {s : Span} : s.rejection? = none ↔ ∃ r : ByteRange, s = r.toSpan := by
  constructor
  · intro h
    have hvalid : 0 ≤ s.start ∧ s.start ≤ s.stop := by
      rw [rejection?] at h
      split at h
      · cases h
      · split at h
        · cases h
        · omega
    exact ⟨_, range?_eq_some.1 (dif_pos hvalid)⟩
  · rintro ⟨r, rfl⟩
    exact rejection?_toSpan r

end Span

theorem Annotation.faultOf_ofSpan (weight : Weight) (s : Span) : faultOf (ofSpan weight s) = s.rejection? := by
  rw [ofSpan]
  cases hrange : s.range? with
  | some r => rw [Span.range?_eq_some.1 hrange, Span.rejection?_toSpan, faultOf_ok]
  | none =>
    have hinvalid : ¬ (0 ≤ s.start ∧ s.start ≤ s.stop) := by
      intro hvalid
      rw [Span.range?, dif_pos hvalid] at hrange
      cases hrange
    rw [Span.rejection?]
    simp only
    split
    · rfl
    · rw [if_pos (by omega), faultOf_error]

theorem Annotation.ofSpan_eq_ok {weight : Weight} {s : Span} {a : Annotation} :
    ofSpan weight s = .ok a ↔ ∃ r : ByteRange, s = r.toSpan ∧ a = ⟨weight, r, none⟩ := by
  constructor
  · intro h
    obtain ⟨r, rfl⟩ : ∃ r : ByteRange, s = r.toSpan := by
      rw [← Span.rejection?_eq_none, ← faultOf_ofSpan weight, h, faultOf_ok]
    rw [ofSpan, Span.range?_eq_some.2 rfl] at h
    exact ⟨r, rfl, (Except.ok.inj h).symm⟩
  · rintro ⟨r, rfl, rfl⟩
    rw [ofSpan, Span.range?_eq_some.2 rfl]

namespace Issue

variable {i : Issue} {as : List Annotation}

def spans (i : Issue) : List Span := i.annotations.map (·.span.toSpan) ++ i.primary.toList

theorem withSource_eq_ok {i' : Issue} {origin : String} {start stop : Int} :
    i.withSource origin start stop = .ok i' ↔
      (⟨origin, start, stop⟩ : Span).rejection? = none ∧ i' = { i with primary := some ⟨origin, start, stop⟩ } := by
  simp only [withSource, Span.rejection?]
  split
  · rename_i hinvalid
    split
    · simp
    · rw [if_pos (by omega)]
      simp
  · rename_i hvalid
    rw [if_neg (by omega), if_neg (by omega), Except.ok.injEq, eq_comm, and_iff_right rfl]

theorem faultOf_allAnnotations (i : Issue) : faultOf i.allAnnotations = i.primary.bind Span.rejection? := by
  rw [allAnnotations, faultOf_map, annotationOfPrimary]
  cases i.primary with
  | none => rfl
  | some span => rw [faultOf_map, Annotation.faultOf_ofSpan, Option.bind_some]

theorem allAnnotations_eq_ok : i.allAnnotations = .ok as ↔ ∃ range : Option ByteRange,
    i.primary = range.map ByteRange.toSpan ∧ as = i.annotations ++ range.toList.map (⟨.primary, ·, none⟩) := by
  rw [allAnnotations, map_ok, annotationOfPrimary]
  cases i.primary with
  | none => simp [eq_comm]
  | some span =>
    simp only [map_ok, Annotation.ofSpan_eq_ok]
    constructor
    · rintro ⟨_, ⟨_, ⟨r, rfl, rfl⟩, rfl⟩, rfl⟩
      exact ⟨some r, rfl, rfl⟩
    · rintro ⟨range, hprimary, rfl⟩
      obtain ⟨r, rfl, rfl⟩ := Option.map_eq_some_iff.1 hprimary.symm
      exact ⟨_, ⟨_, ⟨r, rfl, rfl⟩, rfl⟩, rfl⟩

theorem spans_eq (h : i.allAnnotations = .ok as) : i.spans = as.map (·.span.toSpan) := by
  obtain ⟨range, hprimary, rfl⟩ := allAnnotations_eq_ok.1 h
  rw [spans, hprimary, List.map_append, List.map_map]
  cases range <;> rfl

end Issue

end Diagnostics
