/-!
Contract: the values of TOML documents.

Owns: values, tables with the way in which each came about, and look-up and insertion of keys.
Does not own: TOML text.
-/

namespace SyntaxQuery

/-- How a table came about, which decides whether more keys may be added to it, and how. -/
inductive Toml.Origin where
  /-- It was passed on the way to a table named by a header. -/
  | passed
  /-- It was named by a header of its own. -/
  | header
  /-- It was passed by a dotted key. -/
  | dotted
  /-- It was written in braces. -/
  | inline
deriving DecidableEq, Repr

/-- A TOML value. Numbers and dates are told apart from other values but not kept, as no setting
uses them. -/
inductive Toml where
  | string (value : String)
  | boolean (value : Bool)
  | number
  | moment
  | array (items : List Toml)
  | table (origin : Toml.Origin) (entries : List (String × Toml))
  /-- The tables named by repeated headers in double brackets, the last first. -/
  | tables (elements : List (List (String × Toml)))

namespace Toml

abbrev Entries := List (String × Toml)

/-- The value under a key. -/
def lookup? (key : String) : Entries → Option Toml
  | [] => none
  | (name, value) :: rest => if name = key then some value else lookup? key rest

/-- The entries with `key` set to `value`: in its old place if the key is there, else at the end. -/
def put (key : String) (value : Toml) : Entries → Entries
  | [] => [(key, value)]
  | (name, old) :: rest =>
      if name = key then (name, value) :: rest else (name, old) :: put key value rest

/-- A reader of TOML text: the entries of the table that a text describes, if it describes one. -/
abbrev Reader := String → Option Entries

/-- A table under construction. -/
structure Table where
  origin : Origin
  entries : Entries

/-- Changes the table that keys lead to from another, making the tables on the way that are missing.
A dotted key may only pass tables that no header and no braces have defined; a header passes every
table but one in braces, and the last of repeated tables. -/
def Table.modify (dotted : Bool) (change : Table → Option Table) :
    List String → Table → Option Table
  | [], reached => change reached
  | key :: rest, reached =>
      let child? (child : Table) : Option Table := Table.modify dotted change rest child
      let store (value : Toml) : Table := { reached with entries := put key value reached.entries }
      match lookup? key reached.entries with
      | none => do
          let child ← child? ⟨if dotted then .dotted else .passed, []⟩
          some (store (.table child.origin child.entries))
      | some (.table origin entries) =>
          if origin = .inline ∨ (dotted ∧ origin = .header) then none
          else do
            let child ← child? ⟨origin, entries⟩
            some (store (.table child.origin child.entries))
      | some (.tables (last :: others)) => do
          let child ← child? ⟨.header, last⟩
          some (store (.tables (child.entries :: others)))
      | some _ => none

/-- Adds a new key to a table. The table that a dotted key ends in must have been made by dotted
keys, and one that a plain key stands in must not. -/
def Table.addKey (behindDots : Bool) (key : String) (value : Toml) (table : Table) : Option Table :=
  if behindDots ≠ decide (table.origin = .dotted) then none
  else
    match lookup? key table.entries with
    | some _ => none
    | none => some { table with entries := put key value table.entries }

/-- Adds the value of a dotted key below a table. -/
def Table.addPath (path : List String) (value : Toml) (table : Table) : Option Table :=
  match path.getLast? with
  | none => none
  | some key =>
      let behind := path.dropLast
      Table.modify true (Table.addKey (!behind.isEmpty) key value) behind table

/-- Opens the table that a header names. Only a table that was merely passed can be opened again. -/
def Table.openHeader (key : String) (table : Table) : Option Table :=
  match lookup? key table.entries with
  | none => some { table with entries := put key (.table .header []) table.entries }
  | some (.table .passed entries) =>
      some { table with entries := put key (.table .header entries) table.entries }
  | some _ => none

/-- Opens one more of the tables that headers in double brackets name. -/
def Table.openRepeated (key : String) (table : Table) : Option Table :=
  match lookup? key table.entries with
  | none => some { table with entries := put key (.tables [[]]) table.entries }
  | some (.tables elements) =>
      some { table with entries := put key (.tables ([] :: elements)) table.entries }
  | some _ => none

end Toml

end SyntaxQuery
