/-! Values of TOML documents.

A table remembers how it came about, since that decides what may be added to it later:
a table under a header is closed to dotted keys, one that dotted keys made is closed to
headers, one that was only implied by a longer header is open to its own, and an inline
table is closed to everything. -/
namespace ScriptCache.Toml

/-- How a table came about. -/
inductive Origin where
  | inline
  | dotted
  | implied
  | header
  deriving DecidableEq, Repr

inductive Value where
  | text (s : String)
  | integer (n : Int)
  /-- A number that is no integer; no setting takes one, so its digits are not kept. -/
  | float
  | boolean (b : Bool)
  /-- A date, a time or both, which no setting takes either. -/
  | moment
  | array (items : List Value)
  | table (origin : Origin) (entries : List (String × Value))
  /-- The tables under headers in double brackets. -/
  | tables (rows : List (List (String × Value)))

abbrev Entries := List (String × Value)

/-- Replaces the value of a key, or adds it. -/
def Entries.set (entries : Entries) (key : String) (value : Value) : Entries :=
  match entries with
  | [] => [(key, value)]
  | (k, v) :: rest => if k == key then (key, value) :: rest else (k, v) :: Entries.set rest key value

/-- A table under construction: how it came about, and its entries. -/
structure Table where
  origin : Origin
  entries : Entries

namespace Table

/-- Adds an entry under a key that has none. -/
def addNew (t : Table) (key : String) (value : Value) : Option Table :=
  match t.entries.lookup key with
  | some _ => none
  | none => some { t with entries := t.entries ++ [(key, value)] }

/-- Changes the table at the end of a path. Only tables that came about in certain ways
are entered, a missing one is made in the way given, and of tables in double brackets the
last one is meant. -/
def under (made : Origin) (enters : Origin → Bool) (change : Table → Option Table) :
    List String → Table → Option Table
  | [], t => change t
  | key :: rest, t => do
    let value ← match t.entries.lookup key with
      | none => do
        let inner ← under made enters change rest ⟨made, []⟩
        some (.table inner.origin inner.entries)
      | some (.table origin entries) =>
        if enters origin then do
          let inner ← under made enters change rest ⟨origin, entries⟩
          some (.table inner.origin inner.entries)
        else none
      | some (.tables rows) => do
        let inner ← under made enters change rest ⟨.header, ← rows.getLast?⟩
        some (.tables (rows.dropLast ++ [inner.entries]))
      | some _ => none
    some { t with entries := Entries.set t.entries key value }

/-- Changes the table under a path of headers. -/
def underHeaders : (Table → Option Table) → List String → Table → Option Table :=
  under .implied (· != .inline)

/-- Changes the table under a path of dotted keys. -/
def underKeys : (Table → Option Table) → List String → Table → Option Table :=
  under .dotted fun origin => origin == .dotted || origin == .implied

/-- Adds an entry under dotted keys. The table it goes into has to be one that dotted
keys made, unless the key has no dots. -/
def addKeyed (t : Table) (path : List String) (key : String) (value : Value) : Option Table :=
  underKeys (fun inner =>
    if (inner.origin == .dotted) == path.isEmpty then none else inner.addNew key value) path t

/-- Opens the table of a header: a new one, or one that was only implied so far. -/
def openTable (t : Table) (above : List String) (key : String) : Option Table :=
  underHeaders (fun parent =>
    match parent.entries.lookup key with
    | none => parent.addNew key (.table .header [])
    | some (.table .implied entries) =>
      some { parent with entries := Entries.set parent.entries key (.table .header entries) }
    | some _ => none) above t

/-- Opens one more table of a header in double brackets. -/
def openRow (t : Table) (above : List String) (key : String) : Option Table :=
  underHeaders (fun parent =>
    match parent.entries.lookup key with
    | none => parent.addNew key (.tables [[]])
    | some (.tables rows) =>
      some { parent with entries := Entries.set parent.entries key (.tables (rows ++ [[]])) }
    | some _ => none) above t

end Table

end ScriptCache.Toml
