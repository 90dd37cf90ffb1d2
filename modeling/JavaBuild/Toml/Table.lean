import JavaBuild.Toml.Error

/-!
# Nested tables

A settings text builds one table. A key leads through nested tables, which are
made where they are missing, and through the last table of a list of tables.

What may be done where is told by two sets of keys (`Locks`): tables that may not
be declared (again), and values written in brackets or braces, in which nothing
may be changed.
-/

namespace JavaBuild.Toml

/-- The fields of a table, in the order in which they were made. -/
abbrev Fields := List (String × Value)

/-- The fields with a value put in the place of the one under a name that is there. -/
def replaceField (name : String) (value : Value) (fields : Fields) : Fields :=
  fields.map fun field => if field.1 = name then (name, value) else field

/-- Change the fields that a key leads to. `throughLists` tells whether a key leads
    through lists. It may not lead through other values. -/
def updateAt (throughLists : Bool) (change : Fields → Except TomlFault Fields) :
    Key → Fields → Except TomlFault Fields
  | [], fields => change fields
  | name :: names, fields =>
    match fields.lookup name with
    | none => do
      let inner ← updateAt throughLists change names []
      return fields ++ [(name, .table inner)]
    | some (.table inner) => do
      let inner ← updateAt throughLists change names inner
      return replaceField name (.table inner) fields
    | some (.list items) =>
      match throughLists, items.getLast? with
      | true, some (.table inner) => do
        let inner ← updateAt throughLists change names inner
        return replaceField name (.list (items.dropLast ++ [.table inner])) fields
      | _, _ => .error .overwritten
    | some _ => .error .overwritten

/-- Make the table that a key leads to. -/
def openTable (key : Key) (fields : Fields) : Except TomlFault Fields :=
  updateAt true .ok key fields

/-- Append an empty table to the list of tables that a key leads to. -/
def appendTable (key : Key) (fields : Fields) : Except TomlFault Fields :=
  updateAt true (fun inner =>
    let name := key.getLast?.getD ""
    match inner.lookup name with
    | none => .ok (inner ++ [(name, .list [.table []])])
    | some (.list items) => .ok (replaceField name (.list (items ++ [.table []])) inner)
    | some _ => .error .overwritten) key.dropLast fields

/-- Put a value under a name that must be new, in the table that a key leads to.
    `taken` is the fault if it is not new. -/
def putValue (throughLists : Bool) (table : Key) (name : String) (value : Value) (taken : TomlFault)
    (fields : Fields) : Except TomlFault Fields :=
  updateAt throughLists (fun inner =>
    if (inner.lookup name).isSome then .error taken
    else .ok (inner ++ [(name, value)])) table fields

/-- What may not be changed. -/
structure Locks where
  /-- Tables that may not be declared. -/
  declared : List Key := []
  /-- Values in which nothing may be changed. -/
  frozen : List Key := []

namespace Locks

variable (l : Locks)

/-- Whether a table may not be declared. -/
def isDeclared (key : Key) : Bool := l.declared.contains key

/-- Whether nothing may be changed at a key, because it leads into a frozen value. -/
def isFrozen (key : Key) : Bool := !key.isEmpty && l.frozen.any fun k => k.isPrefixOf key

/-- Note that tables have been declared. -/
def declare (keys : List Key) : Locks := { l with declared := keys ++ l.declared }

/-- Freeze a value. -/
def freeze (key : Key) : Locks := { l with frozen := key :: l.frozen }

/-- Forget all about a key and what is below it. -/
def forget (key : Key) : Locks where
  declared := l.declared.filter fun k => !key.isPrefixOf k
  frozen := l.frozen.filter fun k => !key.isPrefixOf k

end Locks

end JavaBuild.Toml
