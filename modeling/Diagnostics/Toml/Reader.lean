import Diagnostics.Toml.Progress
import Diagnostics.Toml.Scalar
import Diagnostics.Toml.Text

namespace Diagnostics.Toml

def needed {α : Type} : Option α → Except Fault α
  | some a => .ok a
  | none => .error .invalid

def keyEquals (cs : List Char) : Option (String × List String × List Char) :=
  match keyPath cs with
  | some (key, path, rest) =>
      match skipSpaces rest with
      | '=' :: more => some (key, path, skipSpaces more)
      | _ => none
  | none => none

mutual

def readValue (cs : List Char) : Except Fault (Value × List Char) :=
  match cs with
  | '[' :: rest => (readItems rest).map fun (items, last) => (.list items, last)
  | '\x7b' :: rest => do
      let (es, last) ← readPairs [] rest
      let t ← orConflict es.toTable
      .ok (.table t, last)
  | cs =>
      match quotedText cs with
      | some (text, rest) => .ok (.text (String.ofList text), rest)
      | none => needed (readScalar cs)
termination_by 2 * cs.length

def readItems (cs : List Char) : Except Fault (List Value × List Char) :=
  match skipFill false cs with
  | none => .error .invalid
  | some (']' :: last) => .ok ([], last)
  | some start =>
      if _h : start.length ≤ cs.length then
        match readValue start with
        | .error fault => .error fault
        | .ok (v, rest) =>
            match skipFill false rest with
            | some (']' :: last) => .ok ([v], last)
            | some (',' :: more) =>
                if _h : more.length < cs.length then
                  (readItems more).map fun (items, last) => (v :: items, last)
                else .error .invalid
            | _ => .error .invalid
      else .error .invalid
termination_by 2 * cs.length + 1

def readPairs (es : Entries) (cs : List Char) : Except Fault (Entries × List Char) :=
  match skipFill false cs with
  | none => .error .invalid
  | some ('\x7d' :: last) => .ok (es, last)
  | some start =>
      match keyEquals start with
      | none => .error .invalid
      | some (key, path, start) =>
          if _h : start.length < cs.length then
            match readValue start with
            | .error fault => .error fault
            | .ok (v, rest) =>
                match es.add key path v with
                | .error c => .error (.conflict c)
                | .ok es =>
                    match skipFill false rest with
                    | some ('\x7d' :: last) => .ok (es, last)
                    | some (',' :: more) =>
                        if _h : more.length < cs.length then readPairs es more else .error .invalid
                    | _ => .error .invalid
          else .error .invalid
termination_by 2 * cs.length + 1

end

def readHeader (p : Progress) (isArray : Bool) (cs : List Char) : Except Fault (Progress × List Char) := do
  let (key, path, rest) ← needed (keyPath (skipSpaces cs))
  let p ← p.close (key :: path) isArray
  let rest := skipSpaces rest
  let closing := if isArray then [']', ']'] else [']']
  if closing.isPrefixOf rest then
    let rest ← needed (endLine (rest.drop closing.length))
    .ok (p.openTable (key :: path) isArray, rest)
  else .error .invalid

def readStatement (p : Progress) : List Char → Except Fault (Progress × List Char)
  | '[' :: '[' :: rest => readHeader p true rest
  | '[' :: rest => readHeader p false rest
  | cs => do
      let (key, path, rest) ← needed (keyEquals cs)
      let (v, rest) ← readValue rest
      let rest ← needed (endLine rest)
      .ok (← p.add key path v, rest)

def readStatements (p : Progress) (cs : List Char) : Except Fault Progress :=
  match skipFill false cs with
  | none => .error .invalid
  | some [] => .ok p
  | some start =>
      match readStatement p start with
      | .error fault => .error fault
      | .ok (next, rest) =>
          if _h : rest.length < cs.length then readStatements next rest else .error .invalid
termination_by cs.length

def parse (text : List Char) : Except Fault Table := do
  let p ← readStatements ⟨[], []⟩ text
  let p ← p.close [] false
  orConflict p.root.check
  orConflict p.root.toTable

end Diagnostics.Toml
