import Diagnostics.Log.Setup
import Diagnostics.Proofs.Entries
import Mathlib.Data.Nat.Digits.Defs
import Mathlib.Tactic.Ring

namespace Diagnostics

namespace Text

def valueOf (ds : List Nat) : Nat := Nat.ofDigits 10 ds.reverse

theorem valueOf_cons (d : Nat) (ds : List Nat) : valueOf (d :: ds) = valueOf ds + 10 ^ ds.length * d := by
  rw [valueOf, valueOf, List.reverse_cons, Nat.ofDigits_append, List.length_reverse, Nat.ofDigits_singleton]

theorem decimalFrom_eq_some {cs : List Char} {ds : List Nat} (h : cs.map decimalValue? = ds.map some) (n : Nat) :
    decimalFrom n cs = some (valueOf ds + 10 ^ ds.length * n) := by
  induction ds generalizing cs n with
  | nil =>
    obtain rfl := List.map_eq_nil_iff.1 h
    simp [decimalFrom, valueOf]
  | cons d ds ih =>
    obtain ⟨c, rest, rfl, hc, hrest⟩ := List.map_eq_cons_iff.1 h
    rw [decimalFrom, hc, Option.bind_some, ih hrest, valueOf_cons, List.length_cons]
    congr 1
    ring

theorem decimalFrom_eq_none {cs : List Char} {c : Char} (hc : c ∈ cs) (h : decimalValue? c = none) (n : Nat) :
    decimalFrom n cs = none := by
  induction cs generalizing n with
  | nil => cases hc
  | cons b rest ih =>
    rw [decimalFrom]
    rcases List.mem_cons.1 hc with rfl | hc
    · rw [h, Option.bind_none]
    · cases decimalValue? b with
      | none => rfl
      | some d => exact ih hc _

theorem exists_digits {cs : List Char} (h : ∀ c ∈ cs, (decimalValue? c).isSome) :
    ∃ ds : List Nat, cs.map decimalValue? = ds.map some := by
  induction cs with
  | nil => exact ⟨[], rfl⟩
  | cons c rest ih =>
    obtain ⟨hc, hrest⟩ := List.forall_mem_cons.1 h
    obtain ⟨d, hd⟩ := Option.isSome_iff_exists.1 hc
    obtain ⟨ds, hds⟩ := ih hrest
    exact ⟨d :: ds, by rw [List.map_cons, List.map_cons, hd, hds]⟩

theorem isSome_of_digits {cs : List Char} {ds : List Nat} (h : cs.map decimalValue? = ds.map some) :
    ∀ c ∈ cs, (decimalValue? c).isSome := by
  intro c hc
  have hmem : decimalValue? c ∈ ds.map some := h ▸ List.mem_map_of_mem hc
  obtain ⟨d, -, hd⟩ := List.mem_map.1 hmem
  rw [← hd, Option.isSome_some]

theorem isDigit_of_isSome {cs : List Char} (h : ∀ c ∈ cs, (decimalValue? c).isSome) : ∀ c ∈ cs, isDigit c :=
  fun c hc => by rw [isDigit, h c hc, Bool.true_or]

def leading (cs : List Char) : List Char := cs.takeWhile fun c => (decimalValue? c).isSome

end Text

open Text

namespace Level

def named : List (String × Int) := registered ++ [("WARN", warning), ("FATAL", critical)]

theorem nodup_named : (named.map (·.1)).Nodup := by decide

theorem exists_not_decimal {p : String × Int} (h : p ∈ named) : ∃ c ∈ p.1.toList, decimalValue? c = none := by
  have hall : named.all (fun p => p.1.toList.any fun c => (decimalValue? c).isNone) := rfl
  obtain ⟨c, hc, hnone⟩ := List.any_eq_true.1 (List.all_eq_true.1 hall p h)
  exact ⟨c, hc, Option.isNone_iff_eq_none.1 hnone⟩

theorem lookup_canonicalName (name : String) : registered.lookup (canonicalName name) = named.lookup name := by
  rw [canonicalName]
  split
  · rename_i hname
    rw [hname]
    rfl
  · split
    · rename_i hname
      rw [hname]
      rfl
    · rename_i hwarn hfatal
      have hother : [("WARN", warning), ("FATAL", critical)].lookup name = none := by
        rw [List.lookup_cons, beq_false_of_ne hwarn, List.lookup_cons, beq_false_of_ne hfatal, List.lookup_nil]
      rw [named, List.lookup_append, hother, Option.or_none]

theorem lookup_named {name : String} {level : Int} : named.lookup name = some level ↔ (name, level) ∈ named :=
  lookup_eq_some_iff_mem nodup_named

inductive Means (cs : List Char) : Option Int → Prop where
  | number {ds : List Nat} (hne : ds ≠ []) (h : cs.map decimalValue? = ds.map some) :
      Means cs (some (valueOf ds))
  | name {level : Int} (h : (String.ofList cs, level) ∈ named) : Means cs (some level)
  | nothing (hnumber : ∀ ds ≠ [], cs.map decimalValue? ≠ ds.map some)
      (hname : ∀ level, (String.ofList cs, level) ∉ named) : Means cs none

inductive Unread (cs : List Char) : LevelFault → Prop where
  | tooLong (hdigits : ∀ c ∈ cs, isDigit c) (hlong : decimalLimit < (leading cs).length) :
      Unread cs (.tooLong (leading cs).length)
  | notDecimal {c : Char} (hdigits : ∀ c ∈ cs, isDigit c) (hshort : (leading cs).length ≤ decimalLimit) (hc : c ∈ cs)
      (hnone : decimalValue? c = none) : Unread cs (.notDecimal (String.ofList cs))

theorem means_of_decimal {cs : List Char} {ds : List Nat} (hne : ds ≠ []) (h : cs.map decimalValue? = ds.map some)
    (level : Option Int) : Means cs level ↔ level = some (valueOf ds) := by
  constructor
  · rintro (@⟨ds', -, h'⟩ | hname | ⟨hnumber, -⟩)
    · obtain rfl := List.map_injective_iff.2 (Option.some_injective Nat) (h'.symm.trans h)
      rfl
    · obtain ⟨c, hc, hnone⟩ := exists_not_decimal hname
      rw [String.toList_ofList] at hc
      exact absurd hnone (Option.isSome_iff_ne_none.1 (isSome_of_digits h c hc))
    · exact absurd h (hnumber ds hne)
  · rintro rfl
    exact .number hne h

theorem means_of_not_decimal {cs : List Char} (h : ∀ ds ≠ [], cs.map decimalValue? ≠ ds.map some)
    (level : Option Int) : Means cs level ↔ level = named.lookup (String.ofList cs) := by
  constructor
  · rintro (@⟨ds, hne, hds⟩ | hname | ⟨-, hname⟩)
    · exact absurd hds (h ds hne)
    · exact (lookup_named.2 hname).symm
    · symm
      rw [Option.eq_none_iff_forall_ne_some]
      exact fun level hlevel => hname level (lookup_named.1 hlevel)
  · rintro rfl
    cases hlookup : named.lookup (String.ofList cs) with
    | none =>
      refine .nothing h fun level hname => ?_
      rw [lookup_named.2 hname] at hlookup
      cases hlookup
    | some level => exact .name (lookup_named.1 hlookup)

theorem isSome_of_not_unread {cs : List Char} (hdigits : ∀ c ∈ cs, isDigit c)
    (hshort : (leading cs).length ≤ decimalLimit) (h : ∀ fault, ¬ Unread cs fault) :
    ∀ c ∈ cs, (decimalValue? c).isSome := by
  intro c hc
  rw [Option.isSome_iff_ne_none]
  exact fun hnone => h _ (.notDecimal hdigits hshort hc hnone)

theorem exists_means (cs : List Char) : ∃ level, ∀ l, Means cs l ↔ l = level := by
  by_cases h : ∃ ds ≠ [], cs.map decimalValue? = ds.map some
  · obtain ⟨ds, hne, hds⟩ := h
    exact ⟨_, means_of_decimal hne hds⟩
  · exact ⟨_, means_of_not_decimal fun ds hne hds => h ⟨ds, hne, hds⟩⟩

def spelled (text : String) : List Char := capitals (trim text.toList)

variable {text : String}

theorem parse_eq (text : String) :
    parse text =
      if (spelled text).isEmpty then .ok none
      else if (spelled text).all isDigit then
        if decimalLimit < (leading (spelled text)).length then .error (.tooLong (leading (spelled text)).length)
        else
          match decimal? (spelled text) with
          | some n => .ok (some n)
          | none => .error (.notDecimal (String.ofList (spelled text)))
      else .ok (registered.lookup (canonicalName (String.ofList (spelled text)))) := rfl

theorem parse_of_not_digits (h : spelled text = [] ∨ ¬ ∀ c ∈ spelled text, isDigit c) :
    parse text = .ok (named.lookup (String.ofList (spelled text))) := by
  rw [parse_eq, lookup_canonicalName]
  rcases h with h | h
  · rw [h]
    rfl
  · have hne : spelled text ≠ [] := fun hnil => h (by simp [hnil])
    rw [if_neg (by simpa using hne), if_neg (by simpa using h)]

theorem parse_of_digits (hne : spelled text ≠ []) (h : ∀ c ∈ spelled text, isDigit c) :
    parse text =
      if decimalLimit < (leading (spelled text)).length then .error (.tooLong (leading (spelled text)).length)
      else (decimalFrom 0 (spelled text)).elim (.error (.notDecimal (String.ofList (spelled text))))
        fun n => .ok (some n) := by
  have hnonempty : ¬ (spelled text).isEmpty = true := by simpa using hne
  rw [parse_eq, if_neg hnonempty, if_pos (by simpa using h), decimal?, if_neg hnonempty]
  cases decimalFrom 0 (spelled text) <;> rfl

theorem parse_of_unread {fault : LevelFault} (h : Unread (spelled text) fault) : parse text = .error fault := by
  have hne : spelled text ≠ [] := by
    rintro hnil
    rw [hnil] at h
    rcases h with ⟨-, hlong⟩ | ⟨-, -, hc, -⟩
    · cases hlong
    · cases hc
  rcases h with ⟨hdigits, hlong⟩ | ⟨hdigits, hshort, hc, hnone⟩
  · rw [parse_of_digits hne hdigits, if_pos hlong]
  · rw [parse_of_digits hne hdigits, if_neg (Nat.not_lt_of_le hshort), decimalFrom_eq_none hc hnone]
    rfl

theorem parse_of_decimal {ds : List Nat} (hne : ds ≠ []) (h : (spelled text).map decimalValue? = ds.map some)
    (hshort : (leading (spelled text)).length ≤ decimalLimit) :
    parse text = .ok (some (valueOf ds)) := by
  have hnonempty : spelled text ≠ [] := by
    rintro hnil
    rw [hnil, eq_comm, List.map_nil, List.map_eq_nil_iff] at h
    exact hne h
  rw [parse_of_digits hnonempty (isDigit_of_isSome (isSome_of_digits h)), if_neg (Nat.not_lt_of_le hshort),
    decimalFrom_eq_some h, Nat.mul_zero, Nat.add_zero]
  rfl

theorem parse_outcome (text : String) :
    ∃ level, (∀ l, Means (spelled text) l ↔ l = level) ∧
      ((∃ fault, Unread (spelled text) fault ∧ parse text = .error fault) ∨
        (∀ fault, ¬ Unread (spelled text) fault) ∧ parse text = .ok level) := by
  by_cases hunread : ∃ fault, Unread (spelled text) fault
  · obtain ⟨fault, hfault⟩ := hunread
    obtain ⟨level, hlevel⟩ := exists_means (spelled text)
    exact ⟨level, hlevel, .inl ⟨fault, hfault, parse_of_unread hfault⟩⟩
  · have hread : ∀ fault, ¬ Unread (spelled text) fault := fun fault h => hunread ⟨fault, h⟩
    by_cases hdigits : spelled text ≠ [] ∧ ∀ c ∈ spelled text, isDigit c
    · obtain ⟨hne, hdigits⟩ := hdigits
      have hshort : (leading (spelled text)).length ≤ decimalLimit :=
        Nat.le_of_not_lt fun hlong => hread _ (.tooLong hdigits hlong)
      obtain ⟨ds, hds⟩ := exists_digits (isSome_of_not_unread hdigits hshort hread)
      have hdsne : ds ≠ [] := by
        rintro rfl
        exact hne (List.map_eq_nil_iff.1 hds)
      exact ⟨_, means_of_decimal hdsne hds, .inr ⟨hread, parse_of_decimal hdsne hds hshort⟩⟩
    · have hother : spelled text = [] ∨ ¬ ∀ c ∈ spelled text, isDigit c := by
        rwa [not_and_or, not_ne_iff] at hdigits
      have hnumber : ∀ ds ≠ [], (spelled text).map decimalValue? ≠ ds.map some := by
        intro ds hdsne hds
        rcases hother with hnil | hother
        · rw [hnil, eq_comm, List.map_nil, List.map_eq_nil_iff] at hds
          exact hdsne hds
        · exact hother (isDigit_of_isSome (isSome_of_digits hds))
      exact ⟨_, means_of_not_decimal hnumber, .inr ⟨hread, parse_of_not_digits hother⟩⟩

end Level

namespace Handler

open Level

theorem setup_of_environment (env : Environment) (tracing : Bool) :
    ∃ level, (∀ l, Means (spelled (env.logLevel.getD "")) l ↔ l = level) ∧
      ((∃ fault, Unread (spelled (env.logLevel.getD "")) fault ∧ ofEnvironment env = .error fault ∧
          setup none env tracing = .error fault) ∨
        (∀ fault, ¬ Unread (spelled (env.logLevel.getD "")) fault) ∧ ofEnvironment env = .ok level ∧
          setup none env tracing = .ok ⟨level.getD critical, tracing⟩) := by
  have hsetup : setup none env tracing = (ofEnvironment env).map fun l => ⟨l.getD critical, tracing⟩ := rfl
  obtain ⟨level, hmeans, ⟨fault, hunread, hparse⟩ | ⟨hread, hparse⟩⟩ := parse_outcome (env.logLevel.getD "")
  · refine ⟨level, hmeans, .inl ⟨fault, hunread, hparse, ?_⟩⟩
    rw [hsetup, ofEnvironment, hparse]
    rfl
  · refine ⟨level, hmeans, .inr ⟨hread, hparse, ?_⟩⟩
    rw [hsetup, ofEnvironment, hparse]
    rfl

theorem setup_superscript : ¬ ∀ (env : Environment) (tracing : Bool), ∃ level,
    Means (spelled (env.logLevel.getD "")) level ∧ ofEnvironment env = .ok level ∧
      setup none env tracing = .ok ⟨level.getD critical, tracing⟩ := by
  intro h
  obtain ⟨level, -, hlevel, -⟩ := h ⟨none, none, some "²"⟩ false
  have hfault : ofEnvironment ⟨none, none, some "²"⟩ = .error (.notDecimal "²") := by decide
  rw [hfault] at hlevel
  cases hlevel

end Handler

end Diagnostics
