import Diagnostics.Toml.Document

namespace Diagnostics.Toml

inductive Fault where
  | invalid
  | conflict (c : Conflict)
  deriving DecidableEq, Repr

def orInvalid {α : Type} (r : Except Conflict α) : Except Fault α := r.mapError fun _ => .invalid

def orConflict {α : Type} (r : Except Conflict α) : Except Fault α := r.mapError Fault.conflict

structure OpenTable where
  path : List String
  below : List String
  earlier : Option (List Entries)
  entries : Entries

namespace OpenTable

def close (t : OpenTable) (around : Entries) : Except Conflict Entries :=
  let n : Node :=
    match t.earlier with
    | some tables => .array (tables ++ [t.entries])
    | none => .table .header t.entries
  match t.below with
  | [] => .ok around
  | key :: path => Entries.put key around (Node.under .implied path n)

def closeInto (t around : OpenTable) : Except Conflict OpenTable := do
  let es ← t.close around.entries
  Entries.distinct [] (Entries.contents (t.below.headD "") es)
  .ok { around with entries := es }

def holds (t : OpenTable) (path : List String) : Bool :=
  t.path.length < path.length && t.path.isPrefixOf path

def next? (t : OpenTable) (path : List String) (isArray : Bool) : Option OpenTable :=
  match t.earlier, t.below with
  | some tables, [_] =>
      if isArray && t.path = path then
        some { t with earlier := some (tables ++ [t.entries]), entries := [] }
      else none
  | _, _ => none

end OpenTable

structure Progress where
  root : Entries
  opened : List OpenTable

def closeTables (path : List String) (isArray : Bool) (root : Entries) : List OpenTable → Except Fault Progress
  | [] => .ok ⟨root, []⟩
  | t :: outer =>
      if t.holds path then .ok ⟨root, t :: outer⟩
      else do
        orConflict t.entries.check
        match t.next? path isArray, outer with
        | some next, _ => .ok ⟨root, next :: outer⟩
        | none, [] => (orInvalid (t.close root)).map (⟨·, []⟩)
        | none, around :: outer => do
            let around ← orConflict (t.closeInto around)
            closeTables path isArray root (around :: outer)
termination_by opened => opened.length

def Progress.close (p : Progress) (path : List String) (isArray : Bool) : Except Fault Progress :=
  closeTables path isArray p.root p.opened

def Progress.openTable (p : Progress) (path : List String) (isArray : Bool) : Progress :=
  let inside (around : List String) : OpenTable :=
    ⟨path, path.drop around.length, if isArray then some [] else none, []⟩
  match p.opened with
  | [] => ⟨p.root, [inside []]⟩
  | t :: outer => if t.path = path then p else ⟨p.root, inside t.path :: t :: outer⟩

def Progress.add (p : Progress) (key : String) (path : List String) (v : Value) : Except Fault Progress :=
  match p.opened with
  | [] => (orInvalid (p.root.add key path v)).map (⟨·, []⟩)
  | t :: outer => do
      let entries ← orConflict (t.entries.add key path v)
      .ok ⟨p.root, { t with entries := entries } :: outer⟩

end Diagnostics.Toml
