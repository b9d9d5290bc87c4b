import Diagnostics.Config.Table
import Diagnostics.Proofs.Entries
import Diagnostics.Proofs.Options
import Diagnostics.Proofs.Outcome

namespace Diagnostics

namespace Table

variable {t t' : Table} {key : String} {v : Value}

theorem get?_eq_some (hnodup : (t.map (·.1)).Nodup) : t.get? key = some v ↔ (key, v) ∈ t :=
  lookup_eq_some_iff_mem hnodup

theorem get?_perm (hnodup : (t.map (·.1)).Nodup) (h : t.Perm t') (key : String) : t.get? key = t'.get? key := by
  have hnodup' : (t'.map (·.1)).Nodup := (h.map _).nodup hnodup
  ext v
  rw [get?_eq_some hnodup, get?_eq_some hnodup', h.mem_iff]

theorem get?_set_self (t : Table) (key : String) (v : Value) : (t.set key v).get? key = some v := by
  induction t with
  | nil => simp [set, get?]
  | cons e t ih =>
    obtain ⟨k, w⟩ := e
    rw [set]
    split
    · rename_i hkey
      simp [get?, hkey]
    · rename_i hkey
      have hne : (key == k) = false := beq_eq_false_iff_ne.2 (Ne.symm hkey)
      rw [get?, List.lookup_cons, hne]
      exact ih

end Table

structure OptionRule where
  key : String
  Admits : Value → Prop
  fault : Value → OptionFault

namespace OptionRule

variable {r : OptionRule} {t : Table}

def choice (α : Type) [Choice α] (key : String) : OptionRule where
  key := key
  Admits v := ∃ raw, v = .text raw ∧ ∃ a : α, Choice.Spells raw a
  fault v := .choice key v (Choice.values α)

def count (key : String) (least : Nat) : OptionRule where
  key := key
  Admits v := ∃ n : Int, v = .int n ∧ (least : Int) ≤ n
  fault v := .count key v least

open Classical in
noncomputable def faultIn (r : OptionRule) (t : Table) : Option OptionFault :=
  (t.get? r.key).bind fun v => if r.Admits v then none else some (r.fault v)

theorem faultIn_of_get?_none (h : t.get? r.key = none) : r.faultIn t = none := by
  rw [faultIn, h, Option.bind_none]

theorem faultIn_of_admits {v : Value} (h : t.get? r.key = some v) (hv : r.Admits v) : r.faultIn t = none := by
  rw [faultIn, h, Option.bind_some, if_pos hv]

theorem faultIn_of_not_admits {v : Value} (h : t.get? r.key = some v) (hv : ¬ r.Admits v) :
    r.faultIn t = some (r.fault v) := by
  rw [faultIn, h, Option.bind_some, if_neg hv]

theorem faultIn_eq_none : r.faultIn t = none ↔ ∀ v, t.get? r.key = some v → r.Admits v := by
  constructor
  · intro h v hv
    by_contra hnot
    rw [faultIn_of_not_admits hv hnot] at h
    exact Option.some_ne_none _ h
  · intro h
    cases hv : t.get? r.key with
    | none => exact faultIn_of_get?_none hv
    | some v => exact faultIn_of_admits hv (h v hv)

end OptionRule

theorem faultOf_bind_of_const {α β ε : Type} {x : Except ε α} {f : α → Except ε β} {o : Option ε}
    (h : ∀ a, faultOf (f a) = o) : faultOf (x >>= f) = (faultOf x).or o := by
  cases x with
  | error e => rfl
  | ok a => exact h a

namespace Config

variable {α : Type} [Choice α] {t t' : Table} {key : String} {c : Config}

def rules : List OptionRule :=
  [.choice ColorChoice "colors", .choice CharSet "charset", .choice DisplayStyle "style",
   .count "context_lines" 0, .count "tab_width" 1]

example : rules.map (·.key) = keys := rfl

def Chooses (t : Table) (key : String) (missing a : α) : Prop :=
  (t.get? key = none → a = missing) ∧ ∀ v, t.get? key = some v → ∃ raw, v = .text raw ∧ Choice.Spells raw a

def Counts (t : Table) (key : String) (missing n : Nat) : Prop :=
  (t.get? key = none → n = missing) ∧ ∀ v, t.get? key = some v → v = .int n

def asInts (c : Config) : Config :=
  { c with context := .int c.context.toInt, tab := .int c.tab.toInt }

theorem eq_int_of_asInts (h : c.asInts = c) : c.context = .int c.contextLines ∧ c.tab = .int c.tabWidth := by
  have hcontext : Count.int c.context.toInt = c.context := congrArg Config.context h
  have htab : Count.int c.tab.toInt = c.tab := congrArg Config.tab h
  have hlines : (c.contextLines : Int) = c.context.toInt := Int.toNat_of_nonneg c.context_nonneg
  have hwidth : (c.tabWidth : Int) = c.tab.toInt := Int.toNat_of_nonneg (Int.le_trans Int.one_nonneg c.tab_pos)
  rw [hlines, hwidth]
  exact ⟨hcontext.symm, htab.symm⟩

structure ReadFrom (t : Table) (c : Config) : Prop where
  ints : c.asInts = c
  colors : Chooses t "colors" initial.colors c.colors
  charset : Chooses t "charset" initial.charset c.charset
  style : Chooses t "style" initial.style c.style
  contextLines : Counts t "context_lines" initial.contextLines c.contextLines
  tabWidth : Counts t "tab_width" initial.tabWidth c.tabWidth

theorem choiceIn_outcome [Choice.Distinct α] (t : Table) (key : String) (missing : α) :
    (t.get? key = none ∧ choiceIn t key missing = .ok missing) ∨
    (∃ raw a, t.get? key = some (.text raw) ∧ Choice.Spells raw a ∧ choiceIn t key missing = .ok a) ∨
    ∃ v, t.get? key = some v ∧ ¬ (OptionRule.choice α key).Admits v ∧
      choiceIn t key missing = .error (.choice key v (Choice.values α)) := by
  have hother {v : Value} (hv : ∀ raw, v ≠ .text raw) : ¬ (OptionRule.choice α key).Admits v :=
    fun ⟨raw, htext, _⟩ => hv raw htext
  cases hget : t.get? key with
  | none => exact .inl ⟨rfl, by simp only [choiceIn, hget]⟩
  | some v =>
    cases v with
    | text raw =>
      cases hparse : (Choice.parse? raw : Option α) with
      | some a =>
        exact .inr (.inl ⟨raw, a, rfl, Choice.parse?_eq_some.1 hparse, by simp only [choiceIn, hget, hparse]⟩)
      | none =>
        refine .inr (.inr ⟨_, rfl, ?_, by simp only [choiceIn, hget, hparse]⟩)
        rintro ⟨raw', htext, a, ha⟩
        rw [Value.text.inj htext] at hparse
        exact Choice.parse?_eq_none.1 hparse a ha
    | null | bool | int | float | moment | list | table =>
      exact .inr (.inr ⟨_, rfl, hother fun _ => nofun, by simp only [choiceIn, hget]⟩)

theorem countIn_outcome (t : Table) (key : String) (missing least : Nat) (h : least ≤ missing) :
    (t.get? key = none ∧ countIn t key missing least h = .ok ⟨missing, h⟩) ∨
    (∃ n : { n : Nat // least ≤ n }, t.get? key = some (.int n.1) ∧ countIn t key missing least h = .ok n) ∨
    ∃ v, t.get? key = some v ∧ ¬ (OptionRule.count key least).Admits v ∧
      countIn t key missing least h = .error (.count key v least) := by
  have hother {v : Value} (hv : ∀ n, v ≠ .int n) : ¬ (OptionRule.count key least).Admits v :=
    fun ⟨n, hint, _⟩ => hv n hint
  cases hget : t.get? key with
  | none => exact .inl ⟨rfl, by simp only [countIn, hget]⟩
  | some v =>
    cases v with
    | int n =>
      by_cases hn : (least : Int) ≤ n
      · have hnat : ((n.toNat : Nat) : Int) = n := by omega
        exact .inr (.inl ⟨⟨n.toNat, by omega⟩, by rw [hnat], by simp only [countIn, hget, hn, dif_pos]⟩)
      · refine .inr (.inr ⟨_, rfl, ?_, by simp only [countIn, hget, hn, dif_neg, not_false_eq_true]⟩)
        rintro ⟨m, hint, hm⟩
        exact hn (Value.int.inj hint ▸ hm)
    | null | bool | text | float | moment | list | table =>
      exact .inr (.inr ⟨_, rfl, hother fun _ => nofun, by simp only [countIn, hget]⟩)

theorem faultOf_choiceIn [Choice.Distinct α] (t : Table) (key : String) (missing : α) :
    faultOf (choiceIn t key missing) = (OptionRule.choice α key).faultIn t := by
  rcases choiceIn_outcome t key missing with ⟨hget, h⟩ | ⟨raw, a, hget, ha, h⟩ | ⟨v, hget, hv, h⟩
  · rw [h, OptionRule.faultIn_of_get?_none hget, faultOf_ok]
  · rw [h, OptionRule.faultIn_of_admits (r := .choice α key) hget ⟨raw, rfl, a, ha⟩, faultOf_ok]
  · rw [h, OptionRule.faultIn_of_not_admits hget hv, faultOf_error, OptionRule.choice]

theorem faultOf_countIn (t : Table) (key : String) (missing least : Nat) (h : least ≤ missing) :
    faultOf (countIn t key missing least h) = (OptionRule.count key least).faultIn t := by
  rcases countIn_outcome t key missing least h with ⟨hget, h⟩ | ⟨n, hget, h⟩ | ⟨v, hget, hv, h⟩
  · rw [h, OptionRule.faultIn_of_get?_none hget, faultOf_ok]
  · rw [h, OptionRule.faultIn_of_admits (r := .count key least) hget ⟨n.1, rfl, Int.ofNat_le.2 n.2⟩, faultOf_ok]
  · rw [h, OptionRule.faultIn_of_not_admits hget hv, faultOf_error, OptionRule.count]

theorem choiceIn_eq_ok [Choice.Distinct α] {missing a : α} :
    choiceIn t key missing = .ok a ↔ Chooses t key missing a := by
  rcases choiceIn_outcome t key missing with ⟨hget, h⟩ | ⟨raw, b, hget, hb, h⟩ | ⟨v, hget, hv, h⟩
  · simp only [h, Chooses, hget, Except.ok.injEq, forall_const, reduceCtorEq, false_implies, implies_true, and_true,
      eq_comm]
  · rw [h, Except.ok.injEq]
    refine ⟨?_, fun ha => ?_⟩
    · rintro rfl
      refine ⟨fun hnone => by simp [hget] at hnone, fun v hv => ⟨raw, ?_, hb⟩⟩
      rw [hget] at hv
      exact (Option.some.inj hv).symm
    · obtain ⟨raw', htext, ha⟩ := ha.2 _ hget
      rw [← Value.text.inj htext] at ha
      exact Choice.spells_unique hb ha
  · refine ⟨fun heq => by simp [h] at heq, fun ha => absurd ?_ hv⟩
    obtain ⟨raw, htext, ha⟩ := ha.2 v hget
    exact ⟨raw, htext, a, ha⟩

theorem countIn_eq_ok {missing least : Nat} {h : least ≤ missing} {n : { n : Nat // least ≤ n }} :
    countIn t key missing least h = .ok n ↔ Counts t key missing n.1 := by
  rcases countIn_outcome t key missing least h with ⟨hget, h⟩ | ⟨m, hget, h⟩ | ⟨v, hget, hv, h⟩
  · simp only [h, Counts, hget, Except.ok.injEq, forall_const, reduceCtorEq, false_implies, implies_true, and_true,
      Subtype.ext_iff, eq_comm]
  · simp only [h, Counts, hget, Except.ok.injEq, reduceCtorEq, false_implies, true_and, Option.some.injEq, forall_eq',
      Value.int.injEq, Int.ofNat_inj, Subtype.ext_iff]
  · refine ⟨fun heq => by simp [h] at heq, fun hn => absurd ?_ hv⟩
    exact ⟨n.1, hn.2 v hget, Int.ofNat_le.2 n.2⟩

theorem ofTable_eq_ok : ofTable t = .ok c ↔ ReadFrom t c := by
  simp only [ofTable, bind_ok, choiceIn_eq_ok, countIn_eq_ok]
  constructor
  · rintro ⟨colors, hcolors, charset, hcharset, style, hstyle, lines, hlines, width, hwidth, h⟩
    obtain rfl := Except.ok.inj h
    exact ⟨rfl, hcolors, hcharset, hstyle, hlines, hwidth⟩
  · intro h
    obtain ⟨hcontext, htab⟩ := eq_int_of_asInts h.ints
    refine ⟨_, h.colors, _, h.charset, _, h.style, ⟨c.contextLines, Nat.zero_le _⟩, h.contextLines,
      ⟨c.tabWidth, c.tabWidth_pos⟩, h.tabWidth, ?_⟩
    simp only [← hcontext, ← htab]

theorem faultOf_ofTable (t : Table) : faultOf (ofTable t) = rules.findSome? (·.faultIn t) := by
  have hcons (r : OptionRule) (rs : List OptionRule) :
      (r :: rs).findSome? (·.faultIn t) = (r.faultIn t).or (rs.findSome? (·.faultIn t)) := by
    rw [List.findSome?_cons]
    cases r.faultIn t <;> rfl
  simp only [rules, hcons, List.findSome?_nil, ← faultOf_choiceIn _ _ initial.colors,
    ← faultOf_choiceIn _ _ initial.charset, ← faultOf_choiceIn _ _ initial.style,
    ← faultOf_countIn _ _ initial.contextLines 0 (Nat.zero_le _),
    ← faultOf_countIn _ _ initial.tabWidth 1 initial.tabWidth_pos]
  iterate 5 refine faultOf_bind_of_const fun _ => ?_
  rfl

theorem exists_ofTable_iff :
    (∃ c, ofTable t = .ok c) ↔ ∀ r ∈ rules, ∀ v, t.get? r.key = some v → r.Admits v := by
  simp only [← faultOf_eq_none, faultOf_ofTable, List.findSome?_eq_none_iff, OptionRule.faultIn_eq_none]

theorem ofTable_of_first {before after : List OptionRule} {r : OptionRule} {v : Value}
    (hrules : rules = before ++ r :: after)
    (hbefore : ∀ earlier ∈ before, ∀ w, t.get? earlier.key = some w → earlier.Admits w)
    (hget : t.get? r.key = some v) (hv : ¬ r.Admits v) : ofTable t = .error (r.fault v) := by
  rw [← faultOf_eq_some, faultOf_ofTable, List.findSome?_eq_some_iff]
  exact ⟨before, r, after, hrules, OptionRule.faultIn_of_not_admits hget hv,
    fun earlier hearlier => OptionRule.faultIn_eq_none.2 (hbefore earlier hearlier)⟩

theorem ofTable_congr (h : ∀ key ∈ keys, t.get? key = t'.get? key) : ofTable t = ofTable t' := by
  simp only [keys, List.forall_mem_cons] at h
  obtain ⟨hcolors, hcharset, hstyle, hlines, hwidth, -⟩ := h
  simp only [ofTable, choiceIn, countIn, hcolors, hcharset, hstyle, hlines, hwidth]

end Config

end Diagnostics
