import Diagnostics.Config.Moment
import Diagnostics.Decimal.Shortest
import Diagnostics.Options
import Diagnostics.Text.Quoted

namespace Diagnostics

inductive Value where
  | null
  | bool (b : Bool)
  | int (n : Int)
  | float (x : Float)
  | text (s : String)
  | moment (m : Moment)
  | list (items : List Value)
  | table (entries : List (String × Value))

abbrev Table := List (String × Value)

namespace Value

def ofCount : Count → Value
  | .int n => .int n
  | .bool b => .bool b

mutual

def shown : Value → String
  | null => "None"
  | bool b => if b then "True" else "False"
  | int n => toString n
  | float x => Decimal.ofFloat x
  | text s => Text.quoted s
  | moment m => m.text
  | list items => "[" ++ ", ".intercalate (shownItems items) ++ "]"
  | table entries => "\x7b" ++ ", ".intercalate (shownEntries entries) ++ "\x7d"

def shownItems : List Value → List String
  | [] => []
  | v :: rest => shown v :: shownItems rest

def shownEntries : List (String × Value) → List String
  | [] => []
  | (key, v) :: rest => (Text.quoted key ++ ": " ++ shown v) :: shownEntries rest

end

end Value

namespace Table

def set (key : String) (v : Value) : Table → Table
  | [] => [(key, v)]
  | (k, w) :: rest => if k = key then (k, v) :: rest else (k, w) :: set key v rest

def ofPairs (pairs : List (String × Value)) : Table :=
  pairs.foldl (fun t (key, v) => set key v t) []

def get? (t : Table) (key : String) : Option Value := t.lookup key

end Table

end Diagnostics
