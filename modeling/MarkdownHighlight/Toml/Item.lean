import MarkdownHighlight.Text.Basic

/-!
The values of a TOML document and the rules of its tables: a key is set once, a
table is defined once, and dotted keys extend only tables that dotted keys or
longer headers brought about.
-/

namespace MarkdownHighlight.Toml

/-- How a table came to be. -/
inductive Origin where
  /-- By its own header, or as the document itself. -/
  | header
  /-- On the way to the table of a longer header. -/
  | implied
  /-- By a dotted key. -/
  | dotted
  deriving DecidableEq, Repr

inductive Item where
  | string (text : Text)
  | integer (value : Int)
  | float
  | boolean (value : Bool)
  | moment
  | array (items : List Item)
  | inlineTable (entries : List (Text × Item))
  | table (origin : Origin) (entries : List (Text × Item))
  /-- The tables of an array of tables, the latest first. -/
  | tables (latestFirst : List (List (Text × Item)))
  deriving Repr

abbrev Entries := List (Text × Item)

namespace Entries

def find? (entries : Entries) (key : Text) : Option Item := entries.lookup key

/-- Sets a key, in its place if it is there already. -/
def set (key : Text) (item : Item) : Entries → Entries
  | [] => [(key, item)]
  | (known, old) :: later =>
      if known = key then (key, item) :: later else (known, old) :: set key item later

/-- Sets a key that is not there yet. -/
def add? (entries : Entries) (key : Text) (item : Item) : Option Entries :=
  if (entries.find? key).isSome then none else some (entries.set key item)

/-- Changes the table at the end of a path, making the tables on the way that
are missing. Along a dotted key no table may be entered that has a header of
its own; an array of tables stands for its latest table. -/
def changeAt (byKey : Bool) (change : Origin → Entries → Option Entries) :
    List Text → Origin → Entries → Option Entries
  | [], origin, entries => change origin entries
  | key :: path, _, entries =>
      match entries.find? key with
      | none => do
          let origin := if byKey then .dotted else .implied
          let inner ← changeAt byKey change path origin []
          return entries.set key (.table origin inner)
      | some (.table origin inner) =>
          if byKey && origin = .header then none
          else do return entries.set key (.table origin (← changeAt byKey change path origin inner))
      | some (.tables (latest :: earlier)) => do
          return entries.set key (.tables ((← changeAt byKey change path .header latest) :: earlier))
      | some _ => none

/-- Sets a dotted key. The table that receives it must have come about by a
dotted key exactly if the key has dots. -/
def assign? (path : List Text) (key : Text) (item : Item) (entries : Entries) : Option Entries :=
  entries |> changeAt true (fun origin inner =>
    if (origin == .dotted) == path.isEmpty then none else inner.add? key item) path .header

/-- Opens the table of a header: a new one, or one that a longer header
implied. -/
def openTable? (path : List Text) (key : Text) (entries : Entries) : Option Entries :=
  entries |> changeAt false (fun _ inner =>
    match inner.find? key with
    | none => some (inner.set key (.table .header []))
    | some (.table .implied known) => some (inner.set key (.table .header known))
    | some _ => none) path .header

/-- Adds a table to an array of tables. -/
def appendTable? (path : List Text) (key : Text) (entries : Entries) : Option Entries :=
  entries |> changeAt false (fun _ inner =>
    match inner.find? key with
    | none => some (inner.set key (.tables [[]]))
    | some (.tables known) => some (inner.set key (.tables ([] :: known)))
    | some _ => none) path .header

end Entries

end MarkdownHighlight.Toml
