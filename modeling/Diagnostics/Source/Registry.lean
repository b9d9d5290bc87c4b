import Diagnostics.Source

namespace Diagnostics

structure Registry where
  sources : List Source
  distinct : (sources.map (·.name)).Nodup

def repeatedName : List String → List String → Option String
  | _, [] => none
  | seen, name :: rest => if name ∈ seen then some name else repeatedName (name :: seen) rest

theorem nodup_of_repeatedName_eq_none {seen names : List String}
    (h : repeatedName seen names = none) : names.Nodup ∧ ∀ n ∈ names, n ∉ seen := by
  induction names generalizing seen with
  | nil => simp
  | cons name rest ih =>
      simp only [repeatedName] at h
      split at h
      · simp at h
      · rename_i hname
        obtain ⟨hnodup, hout⟩ := ih h
        refine ⟨List.nodup_cons.2 ⟨fun hmem => hout name hmem (List.mem_cons_self ..), hnodup⟩, ?_⟩
        intro n hn
        rcases List.mem_cons.1 hn with rfl | hn
        · exact hname
        · exact fun hs => hout n hn (List.mem_cons_of_mem _ hs)

namespace Registry

def empty : Registry := ⟨[], List.nodup_nil⟩

def ofList (sources : List Source) : Except Rejection Registry :=
  match h : repeatedName [] (sources.map (·.name)) with
  | some name => .error (.duplicateSource name)
  | none => .ok ⟨sources, (nodup_of_repeatedName_eq_none h).1⟩

def get? (r : Registry) (name : String) : Option Source := r.sources.find? (·.name = name)

def lookup (r : Registry) (name : String) : Except Failure Source :=
  match r.get? name with
  | some source => .ok source
  | none => .error (.sourceMissing name)

def names (r : Registry) : List String := r.sources.map (·.name)

def contains (r : Registry) (name : String) : Bool := r.names.contains name

end Registry

end Diagnostics
