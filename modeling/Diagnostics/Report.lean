import Diagnostics.Issue
import Diagnostics.Sorting

namespace Diagnostics

structure Footer where
  message : String
  notes : List String
  summary : Bool
  deriving DecidableEq, Repr

namespace Footer

def withNote (f : Footer) (note : String) : Footer := { f with notes := f.notes ++ [note] }

def withSummary (f : Footer) (enabled : Bool) : Footer := { f with summary := enabled }

end Footer

structure Report where
  issues : List Issue
  footer : Option Footer
  deriving DecidableEq, Repr

namespace Report

def empty : Report := ⟨[], none⟩

def ofIssue (i : Issue) : Report := ⟨[i], none⟩

def withIssue (r : Report) (i : Issue) : Report := { r with issues := r.issues ++ [i] }

def withIssues (r : Report) (is : List Issue) : Report := { r with issues := r.issues ++ is }

def withFooter (r : Report) (f : Footer) : Report := { r with footer := some f }

def severities (r : Report) : List Severity := r.issues.map (·.severity)

def severity (r : Report) : Option Severity := r.severities.max?

def bump : List (Severity × Nat) → Severity → List (Severity × Nat)
  | [], s => [(s, 1)]
  | (t, n) :: rest, s => if t = s then (t, n + 1) :: rest else (t, n) :: bump rest s

def severityCounts (r : Report) : List (Severity × Nat) :=
  sortBy (fun a b => decide (a.1 ≤ b.1)) (r.severities.foldl bump [])

def summaryText (r : Report) : String :=
  ", ".intercalate (r.severityCounts.map fun (s, n) => toString n ++ " " ++ s.tag ++ "(s)")

def text (r : Report) : String := String.join (r.issues.map fun i => i.text ++ "\n")

end Report

inductive Entry where
  | report (r : Report)
  | other (typeName : String)
  deriving Repr

inductive Reportable where
  | single (r : Report)
  | collection (entries : List Entry)
  | uncountable (typeName : String)
  deriving Repr

namespace Reportable

def reportsOf : List Entry → Except Rejection (List Report)
  | [] => .ok []
  | .report r :: rest => (reportsOf rest).map (r :: ·)
  | .other found :: _ => .error (.notAReport found)

def reports : Reportable → Except Rejection (List Report)
  | .single r => .ok [r]
  | .collection entries => reportsOf entries
  | .uncountable found => .error (.notACollection found)

end Reportable

end Diagnostics
