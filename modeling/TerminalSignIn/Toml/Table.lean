import TerminalSignIn.Text.Basic

/-!
# TOML values and tables

Numbers with a fraction and dates are kept without their amounts, which nothing here asks for. A table remembers how it
came about, which decides how headers and keys may still extend it: no key is given twice, a table has one header at
most, a table in braces is never extended, and dotted keys and headers do not define the same table.
-/

namespace TerminalSignIn

inductive TableOrigin where
  /-- It has a header of its own. -/
  | header
  /-- The header of a table inside it was read. -/
  | implied
  /-- A dotted key leads through it. -/
  | dotted
  /-- It is written in braces, and complete. -/
  | inline
deriving DecidableEq

inductive Toml where
  | string (value : Text)
  | integer (value : Int)
  | float
  | boolean (value : Bool)
  | date
  | array (items : List Toml)
  /-- The tables of repeated headers, first to last. -/
  | tables (items : List Toml)
  | table (origin : TableOrigin) (entries : List (Text × Toml))

namespace Toml

def emptyTable (origin : TableOrigin) : Toml := .table origin []

end Toml

/-! ### Tables -/

namespace Toml

abbrev Entries := List (Text × Toml)

namespace Entries

def get? (entries : Entries) (key : Text) : Option Toml :=
  entries.lookup key

def put (entries : Entries) (key : Text) (value : Toml) : Entries :=
  match entries with
  | [] => [(key, value)]
  | (other, old) :: rest => if other = key then (key, value) :: rest else (other, old) :: put rest key value

def add? (entries : Entries) (key : Text) (value : Toml) : Option Entries :=
  if (entries.get? key).isSome then none else some (entries.put key value)

end Entries

/-- Change the table at the end of a path; tables that are missing on the way come into being. The path leads
through the last of repeated tables. A path of a dotted key does not lead through tables with headers. -/
def descend? (dotted : Bool) (change : TableOrigin → Entries → Option Entries) :
    List Text → TableOrigin → Entries → Option Entries
  | [], origin, entries => change origin entries
  | key :: path, _, entries =>
    match entries.get? key with
    | none => do
      let origin : TableOrigin := if dotted then .dotted else .implied
      let inner ← descend? dotted change path origin []
      return entries.put key (.table origin inner)
    | some (.table origin inner) =>
      if origin = .inline || (dotted && origin = .header) then none
      else do
        let inner ← descend? dotted change path origin inner
        return entries.put key (.table origin inner)
    | some (.tables items) =>
      match items.getLast? with
      | some (.table origin inner) => do
        let inner ← descend? dotted change path origin inner
        return entries.put key (.tables (items.dropLast ++ [.table origin inner]))
      | _ => none
    | some _ => none

def splitPath? : List Text → Option (List Text × Text)
  | [] => none
  | [key] => some ([], key)
  | key :: keys => (splitPath? keys).map fun (path, last) => (key :: path, last)

/-- Bind a key, dotted or not. A dotted key ends in a table that dotted keys made, a plain key does not. -/
def bind? (origin : TableOrigin) (entries : Entries) (keys : List Text) (value : Toml) : Option Entries := do
  let (path, key) ← splitPath? keys
  let insert (origin : TableOrigin) (entries : Entries) : Option Entries :=
    if decide (origin = .dotted) = path.isEmpty then none else entries.add? key value
  descend? true insert path origin entries

structure Header where
  path : List Text
  key : Text
  repeated : Bool

structure Document where
  root : Entries
  header : Option Header
  entries : Entries

namespace Document

def empty : Document := ⟨[], none, []⟩

def bind? (document : Document) (keys : List Text) (value : Toml) : Option Document := do
  let entries ← Toml.bind? .header document.entries keys value
  return { document with entries := entries }

def close? (document : Document) : Option Entries :=
  match document.header with
  | none => some document.entries
  | some header =>
    let table := Toml.table .header document.entries
    let place (_ : TableOrigin) (entries : Entries) : Option Entries :=
      if header.repeated then
        match entries.get? header.key with
        | none => some (entries.put header.key (.tables [table]))
        | some (.tables items) => some (entries.put header.key (.tables (items ++ [table])))
        | some _ => none
      else entries.add? header.key table
    descend? false place header.path .header document.root

/-- The table at the end of a path, if there is one, as headers see it. -/
def find? : List Text → Entries → Option Toml
  | [], _ => none
  | [key], entries => entries.get? key
  | key :: path, entries =>
    match entries.get? key with
    | some (.table _ inner) => find? path inner
    | some (.tables items) => match items.getLast? with
      | some (.table _ inner) => find? path inner
      | _ => none
    | _ => none

def remove? (path : List Text) (key : Text) (root : Entries) : Option Entries :=
  descend? false (fun _ entries => some (entries.filter fun entry => entry.1 ≠ key)) path .header root

/-- Open a header. The header of a table that stands already is allowed once, if nothing but headers inside it
brought it about; what those headers read stays in it. -/
def open? (document : Document) (keys : List Text) (repeated : Bool) : Option Document := do
  let root ← document.close?
  let (path, key) ← splitPath? keys
  let header : Header := ⟨path, key, repeated⟩
  match find? keys root, repeated with
  | none, _ =>
    let root ← descend? false (fun _ entries => some entries) path .header root
    return ⟨root, some header, []⟩
  | some (.tables _), true => return ⟨root, some header, []⟩
  | some (.table .implied inner), false => return ⟨← remove? path key root, some header, inner⟩
  | some _, _ => none

def toToml? (document : Document) : Option Toml :=
  document.close?.map (.table .header)

end Document

end Toml

end TerminalSignIn
