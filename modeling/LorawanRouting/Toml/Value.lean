/-!
Values of a configuration text. A table remembers how it came to be, because that decides who may
still add to it: a header names it once, a header below it implies it, and dotted keys only grow
tables that dotted keys began. The contents of floats and of dates are never asked for, so they
carry none.
-/

namespace LorawanRouting.Toml

inductive Origin
  | header
  | implied
  | dotted
  | inline
  deriving DecidableEq, Repr

inductive Value
  | text (s : String)
  | integer (n : Int)
  | float
  | boolean (b : Bool)
  | moment
  | array (items : List Value)
  | table (origin : Origin) (entries : List (String × Value))
  | tables (members : List (List (String × Value)))

abbrev Entries := List (String × Value)

def Entries.replace (entries : Entries) (key : String) (v : Value) : Entries :=
  entries.map fun e => if e.1 = key then (key, v) else e

def changeLast {α : Type} (f : α → Option α) : List α → Option (List α)
  | [] => none
  | [a] => (f a).map ([·])
  | a :: as => (changeLast f as).map (a :: ·)

end LorawanRouting.Toml
