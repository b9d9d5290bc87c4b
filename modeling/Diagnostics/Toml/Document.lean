import Diagnostics.Config.Value

namespace Diagnostics.Toml

inductive Origin where
  | header
  | implied
  | dotted
  deriving DecidableEq, Repr

inductive Node where
  | leaf (v : Value)
  | table (origin : Origin) (entries : List (String × Node))
  | array (tables : List (List (String × Node)))

abbrev Entries := List (String × Node)

inductive Conflict where
  | present (key : String)
  | redefined
  deriving DecidableEq, Repr

def Conflict.message : Conflict → String
  | .present key => "Key \"" ++ key ++ "\" already exists."
  | .redefined => "Redefinition of an existing table"

namespace Node

def under (origin : Origin) : List String → Node → Node
  | [], n => n
  | key :: path, n => table origin [(key, under origin path n)]

def isTable : Node → Bool
  | table _ _ => true
  | _ => false

def isLoose : Node → Bool
  | table origin _ => origin != .header
  | _ => false

def entries : Node → Entries
  | table _ es => es
  | _ => []

mutual

def weight : Node → Nat
  | leaf _ => 1
  | table _ es => 1 + weightEntries es
  | array tables => 1 + weightTables tables

def weightEntries : List (String × Node) → Nat
  | [] => 0
  | (_, n) :: rest => weight n + weightEntries rest

def weightTables : List (List (String × Node)) → Nat
  | [] => 0
  | t :: rest => weightEntries t + weightTables rest

end

theorem weightEntries_entries_lt (n : Node) : weightEntries n.entries < n.weight := by
  cases n <;> simp only [entries, weight, weightEntries] <;> omega

theorem weightEntries_append (es fs : Entries) :
    weightEntries (es ++ fs) = weightEntries es + weightEntries fs := by
  induction es with
  | nil => simp [weightEntries]
  | cons e rest ih => simp only [List.cons_append, weightEntries, ih]; omega

theorem weightEntries_le_of_mem {t : Entries} {tables : List Entries} (h : t ∈ tables) :
    weightEntries t ≤ weightTables tables := by
  induction tables with
  | nil => simp at h
  | cons u rest ih =>
      simp only [weightTables]
      rcases List.mem_cons.mp h with rfl | h
      · omega
      · have := ih h
        omega

theorem weight_le_of_mem {key : String} {n : Node} {es : Entries} (h : (key, n) ∈ es) :
    n.weight ≤ weightEntries es := by
  induction es with
  | nil => simp at h
  | cons e rest ih =>
      rw [weightEntries]
      rcases List.mem_cons.mp h with rfl | h
      · exact Nat.le_add_right _ _
      · exact Nat.le_trans (ih h) (Nat.le_add_left _ _)

def follow (key : String) : Option Node → Node → Except Conflict Unit
  | none, _ => .ok ()
  | some (array _), array _ => .ok ()
  | some (table .header _), table .header _ => .error (.present key)
  | some (table .dotted _), table .header _ => .error .redefined
  | some (table _ _), table _ _ => .ok ()
  | some _, _ => .error (.present key)

end Node

namespace Entries

def keys (es : Entries) : List String := (es.map (·.1)).eraseDups

def parts (key : String) (es : Entries) : List Node :=
  (es.filter (·.1 == key)).map (·.2)

def last? (key : String) (es : Entries) : Option Node := es.reverse.lookup key

def setFirst (key : String) (n : Node) : Entries → Entries
  | [] => []
  | (k, m) :: rest => if k = key then (k, n) :: rest else (k, m) :: setFirst key n rest

def setLast (key : String) (n : Node) (es : Entries) : Entries := (setFirst key n es.reverse).reverse

def lastTable? (es : Entries) : Option String := (es.reverse.find? (·.2.isTable)).map (·.1)

def contents (key : String) : Entries → Entries
  | [] => []
  | (k, n) :: rest => (if k = key then n.entries else []) ++ contents key rest

theorem weight_contents_le (key : String) (es : Entries) :
    Node.weightEntries (contents key es) ≤ Node.weightEntries es := by
  induction es with
  | nil => simp [contents]
  | cons e rest ih =>
      simp only [contents, Node.weightEntries_append, Node.weightEntries]
      have := Node.weightEntries_entries_lt e.2
      split
      · omega
      · rw [Node.weightEntries]
        omega

theorem weight_contents_lt {key : String} {es : Entries} (h : key ∈ es.keys) :
    Node.weightEntries (contents key es) < Node.weightEntries es := by
  rw [keys, List.mem_eraseDups, List.mem_map] at h
  obtain ⟨e, he, rfl⟩ := h
  induction es with
  | nil => simp at he
  | cons f rest ih =>
      simp only [contents, Node.weightEntries_append, Node.weightEntries]
      have hf := Node.weightEntries_entries_lt f.2
      rcases List.mem_cons.mp he with rfl | he
      · have := weight_contents_le e.1 rest
        simp only [if_true]
        omega
      · have := ih he
        split
        · omega
        · rw [Node.weightEntries]
          omega

theorem mem_of_lookup {key : String} {n : Node} {es : Entries} (h : es.lookup key = some n) :
    (key, n) ∈ es := by
  induction es with
  | nil => simp at h
  | cons e rest ih =>
      obtain ⟨k, m⟩ := e
      rw [List.lookup_cons] at h
      split at h
      · next hk =>
          cases h
          rw [beq_iff_eq] at hk
          subst hk
          exact List.mem_cons_self
      · exact List.mem_cons_of_mem _ (ih h)

def followAll (before : Entries) : Entries → Except Conflict Unit
  | [] => .ok ()
  | (key, n) :: rest => do
      n.follow key (last? key before)
      followAll (before ++ [(key, n)]) rest

def check (es : Entries) : Except Conflict Unit :=
  es.keys.attach.forM fun k =>
    if (parts k.1 es).length < 2 then .ok ()
    else do
      followAll [] (contents k.1 es)
      check (contents k.1 es)
termination_by Node.weightEntries es
decreasing_by exact weight_contents_lt k.2

def distinct (before : Entries) : Entries → Except Conflict Unit
  | [] => .ok ()
  | (key, n) :: rest => do
      if (last? key before).all Node.isTable then distinct (before ++ [(key, n)]) rest
      else .error (.present key)

def checkKey (key : String) (es : Entries) : Except Conflict Unit := do
  followAll [] (contents key es)
  check (contents key es)

mutual

def put (key : String) (es : Entries) : Node → Except Conflict Entries
  | .leaf v => do
      Node.follow key (last? key es) (.leaf v)
      .ok (es ++ [(key, .leaf v)])
  | .array tables => do
      Node.follow key (last? key es) (.array tables)
      match last? key es with
      | some (.array before) => .ok (setLast key (.array (before ++ tables)) es)
      | _ => .ok (es ++ [(key, .array tables)])
  | .table origin inner => do
      Node.follow key (last? key es) (.table origin inner)
      match last? key es, origin with
      | some (.table .implied before), .implied =>
          if lastTable? es = some key then
            (putAll before inner).map fun t => setLast key (.table .implied t) es
          else .ok (es ++ [(key, .table origin inner)])
      | _, _ => .ok (es ++ [(key, .table origin inner)])

def putAll (es : Entries) : List (String × Node) → Except Conflict Entries
  | [] => .ok es
  | (key, n) :: rest =>
      match put key es n with
      | .error c => .error c
      | .ok more => do
          if es.length < more.length && n.isLoose && (last? key es).any Node.isLoose then
            checkKey key more
          distinct [] (contents key more)
          putAll more rest

end

def add (key : String) (path : List String) (v : Value) (es : Entries) : Except Conflict Entries := do
  let es ← put key es (Node.under .dotted path (.leaf v))
  checkKey key es
  .ok es

def toTable (es : Entries) : Except Conflict Table :=
  es.keys.attach.mapM fun k =>
    match _found : es.lookup k.1 with
    | some (.leaf v) => .ok (k.1, v)
    | some (.array tables) => do
        let ts ← tables.attach.mapM fun t => toTable t.1
        .ok (k.1, .list (ts.map Value.table))
    | _ => do
        distinct [] (contents k.1 es)
        let t ← toTable (contents k.1 es)
        .ok (k.1, .table t)
termination_by Node.weightEntries es
decreasing_by
  · have h1 := Node.weight_le_of_mem (mem_of_lookup _found)
    have h2 := Node.weightEntries_le_of_mem t.2
    simp only [Node.weight] at h1
    omega
  · exact weight_contents_lt k.2

end Entries

end Diagnostics.Toml
