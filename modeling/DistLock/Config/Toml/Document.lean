import DistLock.Config.Toml.Value

/-!
# Tables in TOML

A document is a table of tables. A header opens the table that the lines
after it belong to, or a new element of a list of tables, of which only the
last can still grow. What a line says must not have been said before: a
value is given once, a table is opened once, and a key with several parts
only adds to tables that such keys made.

How a table came about decides what may be added to it:

* `passed` — it was only named on the way to another table, so a header
  may still open it;
* `dotted` — a key with several parts made it, so only such keys add to it;
* `opened` — a header opened it, so only the lines after that header add to it.
-/

namespace DistLock.Toml

inductive TableOrigin where
  | passed
  | dotted
  | opened
  deriving DecidableEq, Repr

/-- What a key of a table stands for. -/
inductive Node where
  | value (v : SettingValue)
  | table (origin : TableOrigin) (members : List (String × Node))
  /-- A list of tables; only the last one is kept. -/
  | tables (last : List (String × Node))

abbrev Members := List (String × Node)

namespace Members

/-- The members with another node for a key that they have. -/
def replace (ms : Members) (key : String) (n : Node) : Members :=
  ms.map fun (k, old) => (k, if k = key then n else old)

/-- Changes the table that a path leads to from a table with the given
origin. Tables that are missing on the way are made with the origin `made`;
a key with several parts does not enter a table that a header opened. -/
def alter? (made : TableOrigin) (change : TableOrigin → Members → Option Members) :
    (path : List String) → TableOrigin → Members → Option Members
  | [], origin, ms => change origin ms
  | key :: path, _, ms =>
    match ms.lookup key with
    | none => (alter? made change path made []).map fun inner => ms ++ [(key, .table made inner)]
    | some (.table origin inner) =>
      if made = .dotted ∧ origin = .opened then none
      else (alter? made change path origin inner).map fun inner =>
        replace ms key (.table origin inner)
    | some (.tables last) =>
      (alter? made change path .opened last).map fun last => replace ms key (.tables last)
    | some (.value _) => none

/-- Opens the table of a key. -/
def open? (key : String) (ms : Members) : Option Members :=
  match ms.lookup key with
  | none => some (ms ++ [(key, .table .opened [])])
  | some (.table .passed inner) => some (replace ms key (.table .opened inner))
  | some _ => none

/-- Opens a new element of the list of tables of a key. -/
def extend? (key : String) (ms : Members) : Option Members :=
  match ms.lookup key with
  | none => some (ms ++ [(key, .tables [])])
  | some (.tables _) => some (replace ms key (.tables []))
  | some _ => none

/-- Gives a value to a key that has none. -/
def assign? (key : String) (v : SettingValue) (ms : Members) : Option Members :=
  match ms.lookup key with
  | none => some (ms ++ [(key, .value v)])
  | some _ => none

end Members

/-- What was read of a document. -/
structure Document where
  root : Members := []
  /-- The table that the lines belong to. -/
  table : List String := []

namespace Document

/-- A header of a table, or of an element of a list of tables. -/
def openHeader? (d : Document) (path : List String) (isElement : Bool) : Option Document :=
  match path.getLast? with
  | none => none
  | some key =>
    let change := fun _ ms => if isElement then Members.extend? key ms else Members.open? key ms
    (Members.alter? .passed change path.dropLast .opened d.root).map fun root =>
      { root, table := path }

/-- A line with a key and its value. A key with several parts leads to a
table of its own kind. -/
def assign? (d : Document) (path : List String) (v : SettingValue) : Option Document :=
  match path.getLast? with
  | none => none
  | some key =>
    let isPlain := path.dropLast.isEmpty
    let put := fun origin ms =>
      if !isPlain && origin != .dotted then none else Members.assign? key v ms
    let within := fun origin ms => Members.alter? .dotted put path.dropLast origin ms
    (Members.alter? .passed within d.table .opened d.root).map fun root => { d with root }

/-- The header at the front, of which the first bracket is gone. -/
def readHeader? (d : Document) (cs : List Char) : Option (Document × List Char) :=
  match cs with
  | '[' :: cs =>
    match readKey? cs with
    | some (path, ']' :: ']' :: rest) => (d.openHeader? path true).map (·, rest)
    | _ => none
  | cs =>
    match readKey? cs with
    | some (path, ']' :: rest) => (d.openHeader? path false).map (·, rest)
    | _ => none

/-- One line that is neither blank nor a comment. -/
def readLine? (d : Document) (cs : List Char) : Option (Document × List Char) :=
  match cs with
  | '[' :: cs => (d.readHeader? cs).bind fun (d, rest) => (skipLineEnd? rest).map (d, ·)
  | cs =>
    match readKey? cs with
    | some (path, '=' :: rest) =>
      match readValue? maxLevels (skipBlank rest) with
      | some (v, rest) => (d.assign? path v).bind fun d => (skipLineEnd? rest).map (d, ·)
      | none => none
    | _ => none

/-- All lines. Every line takes a character or more. -/
def readLines? : (rounds : Nat) → Document → List Char → Option Document
  | 0, d, cs => if cs.isEmpty then some d else none
  | rounds + 1, d, cs =>
    match skipBlank cs with
    | [] => some d
    | '#' :: rest => (skipLineEnd? ('#' :: rest)).bind (readLines? rounds d)
    | cs =>
      match readLineEnd? cs with
      | some (_, rest) => readLines? rounds d rest
      | none => (d.readLine? cs).bind fun (d, rest) => readLines? rounds d rest

/-- The settings at the root. -/
def entries (d : Document) : List (String × SettingValue) :=
  d.root.map fun (key, n) =>
    match n with
    | .value v => (key, v)
    | .table _ _ => (key, .map)
    | .tables _ => (key, .sequence)

end Document

end DistLock.Toml
