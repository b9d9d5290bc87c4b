import Diagnostics.Proofs.Issue.Spans
import Mathlib.Data.List.Induction
import Mathlib.Data.List.Nodup

namespace Diagnostics

theorem mem_addName {names : List String} {name n : String} :
    n ∈ addName names name ↔ n ∈ names ∨ n = name := by
  rw [addName]
  split
  · rename_i h
    exact ⟨.inl, fun hn => hn.elim id fun heq => heq ▸ h⟩
  · rw [List.mem_append, List.mem_singleton]

theorem mem_foldl_addName {names listed : List String} {n : String} :
    n ∈ names.foldl addName listed ↔ n ∈ listed ∨ n ∈ names := by
  induction names generalizing listed with
  | nil => simp
  | cons name names ih => rw [List.foldl_cons, ih, mem_addName, List.mem_cons, or_assoc]

theorem nodup_addName {names : List String} {name : String} (h : names.Nodup) : (addName names name).Nodup := by
  rw [addName]
  split
  · exact h
  · rename_i hname
    exact h.append (List.nodup_singleton _) (List.disjoint_singleton.2 hname)

theorem nodup_foldl_addName {names listed : List String} (h : listed.Nodup) :
    (names.foldl addName listed).Nodup := by
  induction names generalizing listed with
  | nil => exact h
  | cons name names ih => exact ih (nodup_addName h)

theorem exists_foldl_addName (names listed : List String) :
    ∃ added, names.foldl addName listed = listed ++ added ∧ (∀ n ∈ added, n ∈ names) ∧
      added.Pairwise fun a b => names.idxOf a < names.idxOf b := by
  induction names using List.reverseRecOn with
  | nil => exact ⟨[], (List.append_nil _).symm, by simp, .nil⟩
  | append_singleton names name ih =>
    obtain ⟨added, hfold, hmem, horder⟩ := ih
    have hindex {n : String} (hn : n ∈ added) : (names ++ [name]).idxOf n = names.idxOf n :=
      List.idxOf_append_of_mem (hmem n hn)
    have hkept : added.Pairwise fun a b => (names ++ [name]).idxOf a < (names ++ [name]).idxOf b :=
      horder.imp_of_mem fun ha hb hab => by rwa [hindex ha, hindex hb]
    rw [List.foldl_concat, hfold, addName]
    split
    · exact ⟨added, rfl, fun n hn => List.mem_append_left _ (hmem n hn), hkept⟩
    · -- A name that is new here is new among all earlier ones, so its first place is the last.
      rename_i hnew
      have hname : name ∉ names := fun hn => hnew (hfold ▸ mem_foldl_addName.2 (.inr hn))
      refine ⟨added ++ [name], List.append_assoc .., ?_, ?_⟩
      · intro n hn
        rw [List.mem_append] at hn ⊢
        exact hn.imp_left (hmem n)
      · refine List.pairwise_append.2 ⟨hkept, List.pairwise_singleton _ _, fun n hn m hm => ?_⟩
        rw [List.mem_singleton.1 hm, hindex hn, List.idxOf_append_of_notMem hname]
        exact Nat.lt_add_right _ (List.idxOf_lt_length_of_mem (hmem n hn))

namespace Issue

theorem nodup_origins (i : Issue) : i.origins.Nodup := by
  refine nodup_foldl_addName ?_
  cases i.primaryOrigin with
  | none => exact List.nodup_nil
  | some origin => exact List.nodup_singleton _

theorem exists_of_primaryOrigin {i : Issue} {origin : String} (h : i.primaryOrigin = some origin) :
    ∃ span ∈ i.spans, span.origin = origin := by
  rw [primaryOrigin] at h
  cases hp : i.primary with
  | some span =>
    rw [hp] at h
    exact ⟨span, List.mem_append_right _ (by simp [hp]), Option.some.inj h⟩
  | none =>
    rw [hp] at h
    obtain ⟨a, ha, heq⟩ := Option.map_eq_some_iff.1 h
    refine ⟨a.span.toSpan, List.mem_append_left _ (List.mem_map.2 ⟨a, ?_, rfl⟩), heq⟩
    rcases Option.or_eq_some_iff.1 ha with hfirst | ⟨-, hhead⟩
    · exact List.mem_of_find?_eq_some hfirst
    · exact List.mem_of_head? hhead

theorem mem_origins {i : Issue} {origin : String} : origin ∈ i.origins ↔ ∃ span ∈ i.spans, span.origin = origin := by
  rw [origins, mem_foldl_addName, Option.mem_toList, List.mem_map]
  constructor
  · rintro (h | ⟨a, ha, heq⟩)
    · exact exists_of_primaryOrigin h
    · exact ⟨a.span.toSpan, List.mem_append_left _ (List.mem_map.2 ⟨a, ha, rfl⟩), heq⟩
  · rintro ⟨span, hspan, heq⟩
    rcases List.mem_append.1 hspan with hspan | hspan
    · obtain ⟨a, ha, rfl⟩ := List.mem_map.1 hspan
      exact .inr ⟨a, ha, heq⟩
    · rw [Option.mem_toList] at hspan
      exact .inl (by rw [primaryOrigin, hspan]; exact congrArg some heq)

theorem mem_origins_of_allAnnotations {i : Issue} {as : List Annotation} (h : i.allAnnotations = .ok as)
    {origin : String} : origin ∈ i.origins ↔ ∃ a ∈ as, a.span.origin = origin := by
  simp only [mem_origins, spans_eq h, List.mem_map, exists_exists_and_eq_and, ByteRange.toSpan]

theorem annotations_of_primaryOrigin {i : Issue} (h : i.primaryOrigin = none) : i.annotations = [] := by
  rw [primaryOrigin] at h
  cases hp : i.primary with
  | some span =>
    rw [hp] at h
    cases h
  | none =>
    rw [hp, Option.map_eq_none_iff, Option.or_eq_none_iff, List.head?_eq_none_iff] at h
    exact h.2

def named (i : Issue) : List String := i.annotations.map (·.span.origin)

theorem origins_eq_append (i : Issue) :
    ∃ added, i.origins = i.primaryOrigin.toList ++ added ∧ (∀ origin ∈ added, origin ∈ i.named) ∧
      added.Pairwise fun a b => i.named.idxOf a < i.named.idxOf b :=
  exists_foldl_addName i.named _

theorem primaryOrigin_annotate {i : Issue} (h : i.primary.isSome ∨ ∃ b ∈ i.annotations, b.isPrimary) (a : Annotation) :
    (i.annotate a).primaryOrigin = i.primaryOrigin := by
  rw [primaryOrigin, primaryOrigin, annotate]
  cases hp : i.primary with
  | some span => rfl
  | none =>
    obtain ⟨b, hb⟩ : ∃ b, i.annotations.find? (·.isPrimary) = some b := by
      rw [← Option.isSome_iff_exists, List.find?_isSome]
      exact h.resolve_left (by simp [hp])
    simp [List.find?_append, hb]

theorem origins_annotate {i : Issue} (h : i.primary.isSome ∨ ∃ b ∈ i.annotations, b.isPrimary) (a : Annotation) :
    (i.annotate a).origins = addName i.origins a.span.origin := by
  rw [origins, primaryOrigin_annotate h, annotate, List.map_append, List.map_singleton, List.foldl_concat]
  rfl

theorem origins_in_order (i : Issue) :
    i.origins.Nodup ∧
    (∀ origin, origin ∈ i.origins ↔ ∃ span ∈ i.spans, span.origin = origin) ∧
    (∀ as, i.allAnnotations = .ok as → ∀ origin, origin ∈ i.origins ↔ ∃ a ∈ as, a.span.origin = origin) ∧
    (∀ r, i.allAnnotations = .error r ↔ ∃ span, i.primary = some span ∧ span.rejection? = some r) ∧
    (i.origins = [] ↔ i.primaryOrigin = none) ∧
    (∀ origin, i.primaryOrigin = some origin → ∃ others, i.origins = origin :: others ∧
      (∀ other ∈ others, other ∈ i.named) ∧ others.Pairwise fun a b => i.named.idxOf a < i.named.idxOf b) ∧
    ((i.primary.isSome ∨ ∃ b ∈ i.annotations, b.isPrimary) → ∀ a : Annotation,
      (i.annotate a).origins = if a.span.origin ∈ i.origins then i.origins else i.origins ++ [a.span.origin]) := by
  obtain ⟨added, horigins, hmem, horder⟩ := i.origins_eq_append
  refine ⟨i.nodup_origins, fun origin => mem_origins, fun as h origin => mem_origins_of_allAnnotations h,
    fun r => ?rejected, ⟨fun hnil => ?empty, fun hnone => ?missing⟩, fun origin h => ?first,
    fun h => origins_annotate h⟩
  case rejected => rw [← faultOf_eq_some, faultOf_allAnnotations, Option.bind_eq_some_iff]
  case empty =>
    rw [horigins, List.append_eq_nil_iff, Option.toList_eq_nil_iff] at hnil
    exact hnil.1
  case missing =>
    rw [origins, hnone, annotations_of_primaryOrigin hnone]
    rfl
  case first =>
    rw [h] at horigins
    exact ⟨added, horigins, hmem, horder⟩

theorem origins_in_order_late :
    let at' (weight : Weight) (origin : String) : Annotation := ⟨weight, ⟨origin, 0, 1, by decide⟩, none⟩
    let as := [at' .secondary "lib", at' .primary "main", at' .secondary "other", at' .secondary "lib"]
    let i : Issue := ⟨.error, "bad", none, none, as, []⟩
    i.allAnnotations = .ok as ∧ "other" ∈ i.origins ∧
      i.primaryOrigin = some "main" ∧ (∃ b ∈ i.annotations, b.isPrimary) ∧
      (∃ others, i.origins = "main" :: others) ∧
      (i.annotate (at' .primary "late")).origins = ["main", "lib", "other", "late"] := by
  intro at' as i
  have hall : i.allAnnotations = .ok as := rfl
  have hfirst : i.primaryOrigin = some "main" := by decide
  have hprimary : ∃ b ∈ i.annotations, b.isPrimary := by decide
  obtain ⟨-, -, hnames, -, -, hothers, happend⟩ := origins_in_order i
  obtain ⟨others, horigins, -⟩ := hothers "main" hfirst
  exact ⟨hall, (hnames as hall "other").2 (by decide), hfirst, hprimary, ⟨others, horigins⟩,
    (happend (.inr hprimary) _).trans (by decide)⟩

theorem origins_in_order_reversed :
    let i : Issue := ⟨.error, "m", none, some ⟨"a", 2, 1⟩, [], []⟩
    i.origins = ["a"] ∧ i.allAnnotations = .error (.reversedOffsets 2 1) ∧
      ¬ ∃ as, i.allAnnotations = .ok as ∧ ∀ origin, origin ∈ i.origins ↔ ∃ a ∈ as, a.span.origin = origin := by
  refine ⟨rfl, rfl, ?_⟩
  rintro ⟨as, has, -⟩
  cases has

end Issue

end Diagnostics
