import BatchedLog.Double.Shortest

/-!
# JSON values

Objects keep their fields in order. `Json.sorted` is the form in which a value is kept as a
parameter: keys in increasing order, each once, the last of equal keys winning, and `null` for what
is not a finite number, at every depth.
-/

namespace BatchedLog

inductive Json
  | null
  | bool (b : Bool)
  | integer (i : Int)
  | float (x : Double)
  | string (s : String)
  | array (items : List Json)
  | object (fields : List (String × Json))
  deriving Repr, Inhabited

abbrev Fields := List (String × Json)

/-- Put `value` under `key` into fields sorted by key, in the place of an equal key. -/
def Fields.put (key : String) (value : Json) : Fields → Fields
  | [] => [(key, value)]
  | (k, v) :: rest =>
    if key < k then (key, value) :: (k, v) :: rest
    else if key = k then (key, value) :: rest
    else (k, v) :: Fields.put key value rest

def Fields.sort (fields : Fields) : Fields :=
  fields.foldl (fun acc (k, v) => acc.put k v) []

def Fields.get? (fields : Fields) (key : String) : Option Json :=
  (fields.find? fun (k, _) => k = key).map (·.2)

namespace Json

/-- The value under the last field of that name. -/
def field? (j : Json) (key : String) : Option Json :=
  match j with
  | .object fields => Fields.get? fields.reverse key
  | _ => none

mutual
def sorted : Json → Json
  | .array items => .array (sortedItems items)
  | .object fields => .object (Fields.sort (sortedFields fields))
  | .float x => if x.isFinite then .float x else .null
  | j => j

def sortedItems : List Json → List Json
  | [] => []
  | j :: rest => j.sorted :: sortedItems rest

def sortedFields : List (String × Json) → List (String × Json)
  | [] => []
  | (k, j) :: rest => (k, j.sorted) :: sortedFields rest
end

mutual
def beq : Json → Json → Bool
  | .null, .null => true
  | .bool a, .bool b => a == b
  | .integer a, .integer b => a == b
  | .float a, .float b => a == b
  | .string a, .string b => a == b
  | .array a, .array b => beqItems a b
  | .object a, .object b => beqFields a b
  | _, _ => false

def beqItems : List Json → List Json → Bool
  | [], [] => true
  | a :: as, b :: bs => beq a b && beqItems as bs
  | _, _ => false

def beqFields : List (String × Json) → List (String × Json) → Bool
  | [], [] => true
  | (k, a) :: as, (l, b) :: bs => k == l && beq a b && beqFields as bs
  | _, _ => false
end

instance : BEq Json := ⟨beq⟩

end Json

end BatchedLog
