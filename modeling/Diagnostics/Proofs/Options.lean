import Diagnostics.Options

namespace Diagnostics.Choice

variable {α : Type} [Choice α]

def Spells (raw : String) (a : α) : Prop :=
  ∃ s ∈ value a :: (spelling a).name :: (spelling a).aliases, Text.token raw = Text.token s

theorem spells_iff {raw : String} {a : α} : Spells raw a ↔ Text.token raw ∈ (spelling a).tokens := by
  simp only [Spells, Spelling.tokens, List.mem_map, value, eq_comm]

theorem spells_value (a : α) : Spells (value a) a := ⟨value a, List.mem_cons_self .., rfl⟩

class Distinct (α : Type) [Choice α] : Prop where
  mem_members : ∀ a : α, a ∈ members
  eq_of_token : ∀ a b : α, ∀ t ∈ (spelling a).tokens, t ∈ (spelling b).tokens → a = b

instance : Distinct ColorChoice where
  mem_members a := by cases a <;> decide
  eq_of_token a b := by cases a <;> cases b <;> decide +kernel

instance : Distinct CharSet where
  mem_members a := by cases a <;> decide
  eq_of_token a b := by cases a <;> cases b <;> decide +kernel

instance : Distinct DisplayStyle where
  mem_members a := by cases a <;> decide
  eq_of_token a b := by cases a <;> cases b <;> decide +kernel

theorem parse?_eq_none {raw : String} [Distinct α] : (parse? raw : Option α) = none ↔ ∀ a : α, ¬ Spells raw a := by
  simp only [parse?, List.find?_eq_none, spells_iff, List.contains_iff_mem]
  exact ⟨fun h a => h a (Distinct.mem_members a), fun h a _ => h a⟩

theorem spells_of_parse? {raw : String} {a : α} (h : parse? raw = some a) : Spells raw a := by
  rw [parse?] at h
  have htoken := List.find?_some h
  exact spells_iff.2 (List.contains_iff_mem.1 htoken)

theorem parse?_eq_some {raw : String} {a : α} [Distinct α] : parse? raw = some a ↔ Spells raw a := by
  refine ⟨spells_of_parse?, fun ha => ?_⟩
  cases hb : (parse? raw : Option α) with
  | none => exact absurd ha (parse?_eq_none.1 hb a)
  | some b =>
    have hspells := spells_of_parse? hb
    exact congrArg some (Distinct.eq_of_token b a _ (spells_iff.1 hspells) (spells_iff.1 ha))

theorem spells_unique {raw : String} {a b : α} [Distinct α] (ha : Spells raw a) (hb : Spells raw b) : a = b :=
  Option.some.inj ((parse?_eq_some.2 ha).symm.trans (parse?_eq_some.2 hb))

end Diagnostics.Choice
