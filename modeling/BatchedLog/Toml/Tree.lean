import BatchedLog.Toml.Value

/-!
# The tree of a TOML text

Keys and headers fill a tree of tables. A table is made in one of three ways: by a header of its
own, on the way to a header further down, or by a dotted key. Which of these it was decides whether
it may be opened or extended again:

* a header may name a table that was only made on the way, once, and takes its place last;
* a dotted key extends what dotted keys or headers further down have made, never a table with a
  header of its own or a finished value, and it must end in a table made by dotted keys;
* no key is given twice.
-/

namespace BatchedLog.Toml

inductive Origin
  | header
  | passing
  | dotted
  deriving DecidableEq, Repr

inductive Node
  | value (v : Toml)
  | table (origin : Origin) (entries : List (String × Node))
  | tables (elements : List (List (String × Node)))

abbrev Entries := List (String × Node)

namespace Entries

def get? (es : Entries) (key : String) : Option Node :=
  (es.find? fun (k, _) => k = key).map (·.2)

def erase (es : Entries) (key : String) : Entries := es.filter fun (k, _) => k ≠ key

/-- Put a node in the place of the one under `key`, or last. -/
def set (es : Entries) (key : String) (node : Node) : Entries :=
  match es with
  | [] => [(key, node)]
  | (k, n) :: rest => if k = key then (k, node) :: rest else (k, n) :: set rest key node

end Entries

/-- Change the table that `path` leads to. Missing tables are made; in an array of tables the path
goes through the last one. -/
def within (dotted : Bool) (change : Origin → Entries → Option Entries) :
    List String → Origin → Entries → Option Entries
  | [], origin, es => change origin es
  | key :: path, _, es =>
    match es.get? key with
    | none =>
      let origin := if dotted then Origin.dotted else .passing
      (within dotted change path origin []).map fun sub => es ++ [(key, .table origin sub)]
    | some (.table origin sub) =>
      if dotted ∧ origin = .header then none
      else (within dotted change path origin sub).map fun sub => es.set key (.table origin sub)
    | some (.tables elements) =>
      match elements.getLast? with
      | none => none
      | some sub =>
        (within dotted change path .header sub).map fun sub =>
          es.set key (.tables (elements.dropLast ++ [sub]))
    | some (.value _) => none

/-- A header: the table gets its place after all that is there. -/
def openTable (path : List String) (key : String) (root : Entries) : Option Entries :=
  let change (_ : Origin) (es : Entries) : Option Entries :=
    match es.get? key with
    | none => some (es ++ [(key, .table .header [])])
    | some (.table .passing sub) => some (es.erase key ++ [(key, .table .header sub)])
    | some _ => none
  within false change path .header root

/-- A doubled header: one more element of an array of tables. -/
def openElement (path : List String) (key : String) (root : Entries) : Option Entries :=
  let change (_ : Origin) (es : Entries) : Option Entries :=
    match es.get? key with
    | none => some (es ++ [(key, .tables [[]])])
    | some (.tables elements) => some (es.set key (.tables (elements ++ [[]])))
    | some _ => none
  within false change path .header root

/-- A key with a value, in the table that `header` opened. -/
def assign (header path : List String) (key : String) (v : Toml) (root : Entries) :
    Option Entries :=
  let put (origin : Origin) (es : Entries) : Option Entries :=
    if (origin = .dotted) = (path = []) then none
    else
      match es.get? key with
      | none => some (es ++ [(key, .value v)])
      | some _ => none
  within false (fun origin es => within true put path origin es) header .header root

mutual
def Node.toToml : Node → Toml
  | .value v => v
  | .table _ entries => .table (entriesToToml entries)
  | .tables elements => .array (elementsToToml elements)

def entriesToToml : List (String × Node) → List (String × Toml)
  | [] => []
  | (k, n) :: rest => (k, n.toToml) :: entriesToToml rest

def elementsToToml : List (List (String × Node)) → List Toml
  | [] => []
  | es :: rest => .table (entriesToToml es) :: elementsToToml rest
end

end BatchedLog.Toml
