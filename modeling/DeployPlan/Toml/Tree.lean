import DeployPlan.Keyed
import DeployPlan.Toml.Excerpt

/-!
What a TOML text says: values, lists and tables, each with the place it is written at. Tables
remember how they came about, because that decides who may still add to them.
-/

namespace DeployPlan.Toml

def integerLimit : Nat := 9223372036854775807

inductive Origin where
  | inline
  | header
  | ancestor
  | dotted
deriving DecidableEq, Repr

/-- A value and the place it is written at. For a table that is its header, or else the key that
named it first; for tables of the same name it is the header of the first one. Of a date or time
only its presence is kept. -/
inductive Tree where
  | text (s : String)
  | integer (n : Int)
  | float (f : Float)
  | bool (b : Bool)
  | moment
  | list (items : List (Mark × Tree))
  | table (origin : Origin) (entries : List (String × Mark × Tree))
  | tables (elements : List (Mark × Tree))
deriving Inhabited

abbrev Table := List (String × Mark × Tree)

structure Key where
  name : String
  mark : Mark
deriving DecidableEq, Repr, Inhabited

structure KeyPath where
  above : List Key
  last : Key
deriving DecidableEq, Repr, Inhabited

namespace Table

def erase (name : String) (t : Table) : Table :=
  t.filter fun entry => entry.1 ≠ name

/-- Puts a value under a dotted key. Tables on the way are made if they are missing; those that are
there must stem from keys, or on the way to another one from headers of their descendants. Nothing is
put where something is. -/
def put (key : Key) (v : Mark × Tree) : List Key → Table → Option Table
  | [], t =>
    match t.lookup key.name with
    | none => some (t ++ [(key.name, v)])
    | some _ => none
  | k :: path, t =>
    match t.lookup k.name with
    | none => (put key v path []).map fun inner => t ++ [(k.name, k.mark, .table .dotted inner)]
    | some (m, .table origin inner) =>
      if origin = .dotted ∨ (origin = .ancestor ∧ path ≠ []) then
        (put key v path inner).map fun inner => putEntry k.name (m, .table origin inner) t
      else none
    | some (m, .tables elements) =>
      match elements.reverse, path with
      | (m', .table origin inner) :: before, _ :: _ =>
        (put key v path inner).map fun inner =>
          putEntry k.name (m, .tables ((m', .table origin inner) :: before).reverse) t
      | _, _ => none
    | some _ => none

/-- Changes the table that names from headers lead to. Tables on the way are made if they are
missing; of several tables of one name the last one is meant. -/
def change (f : Table → Option Table) : List Key → Table → Option Table
  | [], t => f t
  | k :: path, t =>
    match t.lookup k.name with
    | none => (change f path []).map fun inner => t ++ [(k.name, k.mark, .table .ancestor inner)]
    | some (m, .table origin inner) =>
      if origin = .inline then none
      else (change f path inner).map fun inner => putEntry k.name (m, .table origin inner) t
    | some (m, .tables elements) =>
      match elements.reverse with
      | (m', .table origin inner) :: before =>
        (change f path inner).map fun inner =>
          putEntry k.name (m, .tables ((m', .table origin inner) :: before).reverse) t
      | _ => none
    | some _ => none

/-- Adds a table with a header at `mark`. It may so far have been named only on the way to others,
and then moves behind all that was there. -/
def declare (mark : Mark) (key : Key) (t : Table) : Option Table :=
  match t.lookup key.name with
  | none => some (t ++ [(key.name, mark, .table .header [])])
  | some (_, .table .ancestor inner) =>
    some (erase key.name t ++ [(key.name, mark, .table .header inner)])
  | some _ => none

def declareElement (mark : Mark) (key : Key) (t : Table) : Option Table :=
  match t.lookup key.name with
  | none => some (t ++ [(key.name, mark, .tables [(mark, .table .header [])])])
  | some (m, .tables elements) =>
    some (putEntry key.name (m, .tables (elements ++ [(mark, .table .header [])])) t)
  | some _ => none

end Table

end DeployPlan.Toml
