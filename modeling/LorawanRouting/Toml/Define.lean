import LorawanRouting.Toml.Value

/-!
Who may define what. Every key is given once. A dotted key passes through tables that dotted keys
began or that a header implied, and ends in one of the former; a header passes through any table
and, in an array of tables, through the latest; it names a table nobody has defined before.
-/

namespace LorawanRouting.Toml

/-- A dotted key with its value: the tables on the way, the last part and what it is set to. -/
structure Pair where
  path : List String
  key : String
  value : Value

/-- Sets the value at the end of a dotted key. `fresh` tells whether this table takes new keys. -/
def Entries.define (fresh : Bool) (entries : Entries) (key : String) (v : Value) :
    List String → Option Entries
  | [] => if fresh && (entries.lookup key).isNone then some (entries ++ [(key, v)]) else none
  | step :: path =>
    match entries.lookup step with
    | none => do
      let below ← Entries.define true [] key v path
      return entries ++ [(step, .table .dotted below)]
    | some (.table .dotted below) => do
      let below ← Entries.define true below key v path
      return entries.replace step (.table .dotted below)
    | some (.table .implied below) => do
      let below ← Entries.define false below key v path
      return entries.replace step (.table .implied below)
    | some (.tables members) => do
      let members ← changeLast (fun below => Entries.define false below key v path) members
      return entries.replace step (.tables members)
    | some _ => none

def Entries.defineAll (entries : Entries) (pairs : List Pair) : Option Entries :=
  pairs.foldlM (fun es p => es.define true p.key p.value p.path) entries

def Entries.below (entries : Entries) (f : Entries → Option Entries) :
    List String → Option Entries
  | [] => f entries
  | step :: path =>
    match entries.lookup step with
    | none => do
      let inner ← Entries.below [] f path
      return entries ++ [(step, .table .implied inner)]
    | some (.table .inline _) => none
    | some (.table origin inner) => do
      let inner ← Entries.below inner f path
      return entries.replace step (.table origin inner)
    | some (.tables members) => do
      let members ← changeLast (fun inner => Entries.below inner f path) members
      return entries.replace step (.tables members)
    | some _ => none

inductive Section
  | root (pairs : List Pair)
  | table (path : List String) (key : String) (pairs : List Pair)
  | member (path : List String) (key : String) (pairs : List Pair)

def Section.add (s : Section) (pair : Pair) : Section :=
  match s with
  | .root pairs => .root (pairs ++ [pair])
  | .table path key pairs => .table path key (pairs ++ [pair])
  | .member path key pairs => .member path key (pairs ++ [pair])

def Entries.enter (root : Entries) : Section → Option Entries
  | .root pairs => root.defineAll pairs
  | .table path key pairs =>
    root.below (fun es =>
      match es.lookup key with
      | none => do
        let own ← Entries.defineAll [] pairs
        return es ++ [(key, .table .header own)]
      | some (.table .implied own) => do
        let own ← Entries.defineAll own pairs
        return es.replace key (.table .header own)
      | some _ => none) path
  | .member path key pairs =>
    root.below (fun es =>
      match es.lookup key with
      | none => do
        let own ← Entries.defineAll [] pairs
        return es ++ [(key, .tables [own])]
      | some (.tables members) => do
        let own ← Entries.defineAll [] pairs
        return es.replace key (.tables (members ++ [own]))
      | some _ => none) path

def Entries.ofSections (sections : List Section) : Option Entries :=
  sections.foldlM Entries.enter []

def Value.ofPairs? (pairs : List Pair) : Option Value :=
  (Entries.defineAll [] pairs).map (.table .inline)

end LorawanRouting.Toml
