/-!
# TOML values

The values of a TOML text, and the tables that its headers and keys make.  A
table remembers how it came about, because that settles what may be added to it
later.
-/

namespace EditorBlocks.Toml

/-- What made a table. -/
inductive Origin where
  /-- A header of its own, or the text itself. -/
  | header
  /-- The header of a table inside it. -/
  | implied
  /-- A dotted key. -/
  | dotted
  /-- Braces around all its entries. -/
  | braces
deriving DecidableEq, Repr

inductive Value where
  | string (s : String)
  | integer (n : Int)
  | float (x : Float)
  | boolean (b : Bool)
  /-- A date, a time of day, or both, as it is written. -/
  | moment (text : String)
  | array (items : List Value)
  | table (origin : Origin) (entries : List (String × Value))
  /-- The tables of repeated headers in double brackets. -/
  | tables (items : List (Origin × List (String × Value)))
deriving Repr, Inhabited

abbrev Entries := List (String × Value)

structure Table where
  origin : Origin
  entries : Entries
deriving Repr

namespace Entries

/-- Gives a key a value; a new key comes last. -/
def insert (key : String) (value : Value) : Entries → Entries
  | [] => [(key, value)]
  | (k, v) :: rest => if k = key then (k, value) :: rest else (k, v) :: insert key value rest

end Entries

namespace Table

def empty (origin : Origin) : Table := ⟨origin, []⟩

def get? (t : Table) (key : String) : Option Value := t.entries.lookup key

def insert (t : Table) (key : String) (value : Value) : Table :=
  { t with entries := t.entries.insert key value }

def toValue (t : Table) : Value := .table t.origin t.entries

/-- Changes the table that a path of keys leads to.  Tables on the way that are
not there yet are made; one that is there lets the path through if it `passes`.
Of repeated tables the last one is meant. -/
def change (made : Origin) (passes : Origin → Bool) (f : Table → Option Table) :
    List String → Table → Option Table
  | [], t => f t
  | key :: path, t =>
    match t.get? key with
    | none => do
      let inner ← change made passes f path (.empty made)
      return t.insert key inner.toValue
    | some (.table origin entries) =>
      if passes origin then do
        let inner ← change made passes f path ⟨origin, entries⟩
        return t.insert key inner.toValue
      else none
    | some (.tables items) =>
      match items.getLast? with
      | none => none
      | some (origin, entries) => do
        let inner ← change made passes f path ⟨origin, entries⟩
        return t.insert key (.tables (items.dropLast ++ [(inner.origin, inner.entries)]))
    | some _ => none

/-- Gives a new key its value. -/
def addNew (key : String) (value : Value) (t : Table) : Option Table :=
  match t.get? key with
  | none => some (t.insert key value)
  | some _ => none

/-- Gives a dotted key its value.  Dotted keys add only to tables that dotted
keys made. -/
def define (path : List String) (key : String) (value : Value) (t : Table) : Option Table :=
  if path.isEmpty then t.addNew key value
  else
    t.change .dotted (fun o => o = .implied || o = .dotted)
      (fun inner => if inner.origin = .dotted then inner.addNew key value else none) path

/-- Changes a table that is there. -/
def update (path : List String) (f : Table → Option Table) (t : Table) : Option Table :=
  t.change .implied (fun o => o ≠ .braces) f path

/-- Opens the table of a header.  Only a table that nothing but the headers of
others implied may be there already. -/
def openTable (path : List String) (key : String) (t : Table) : Option Table :=
  t.update path fun parent =>
    match parent.get? key with
    | none => some (parent.insert key (.table .header []))
    | some (.table .implied entries) => some (parent.insert key (.table .header entries))
    | some _ => none

/-- Opens the next of the tables of a repeated header. -/
def openNext (path : List String) (key : String) (t : Table) : Option Table :=
  t.update path fun parent =>
    match parent.get? key with
    | none => some (parent.insert key (.tables [(.header, [])]))
    | some (.tables items) => some (parent.insert key (.tables (items ++ [(.header, [])])))
    | some _ => none

end Table

end EditorBlocks.Toml
