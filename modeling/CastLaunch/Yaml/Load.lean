import CastLaunch.Yaml.Node
import CastLaunch.Yaml.Scalar

/-!
The value of a settings file.  Unquoted scalars stand for what `resolve` reads in
them, and quoted ones for their text.  Of equal keys in one mapping the last value
counts, and a merge key takes in the entries of the mappings it names.  A fault of
an outer node is reported before those of the nodes inside it.

This is a part of YAML 1.1.  Anchors and aliases, tags, directives and block scalars
are refused as malformed, although a complete loader has values for them.  A launch
therefore takes its loader from its host, which has this one unless it has another.
-/

namespace CastLaunch.Yaml

def Node.isMerge : Node → Bool
  | .scalar text isPlain => isPlain && text == "<<"
  | _ => false

/-- An equals sign as a key is a text. -/
def asKey : Node → Node
  | .scalar "=" true => .scalar "=" false
  | n => n

/-- The entries of the mappings that a merge key names, those of the first one last. -/
def mergedEntries : Node → Option (List (Node × Node))
  | .mapping entries => some entries
  | .sequence items =>
    items.foldlM (fun acc n => match n with | .mapping entries => some (entries ++ acc) | _ => none) []
  | _ => none

/-- The entries of a mapping with its merge keys taken in, in front of its own entries. -/
def spliced (entries : List (Node × Node)) : Option (List (Node × Node)) := do
  let own := (entries.filter fun e => !e.1.isMerge).map fun e => (asKey e.1, e.2)
  let merged ← (entries.filter fun e => e.1.isMerge).mapM fun e => mergedEntries e.2
  return merged.flatten ++ own

mutual
def Node.merge : Node → Node
  | .scalar text isPlain => .scalar text isPlain
  | .sequence items => .sequence (mergeItems items)
  | .mapping entries => ((spliced (mergeEntries entries)).map .mapping).getD .unmergeable
  | .unmergeable => .unmergeable

def mergeItems : List Node → List Node
  | [] => []
  | n :: r => n.merge :: mergeItems r

def mergeEntries : List (Node × Node) → List (Node × Node)
  | [] => []
  | (k, v) :: r => (k.merge, v.merge) :: mergeEntries r
end

def scalarFault? (text : String) (isPlain : Bool) : Option LoadError :=
  if isPlain then
    match resolve text with
    | .ok _ => none
    | .error e => some e
  else none

/-- The fault of a node that stands in a collection, apart from those inside it. -/
def Node.ownFault? : Node → Option LoadError
  | .scalar text isPlain => scalarFault? text isPlain
  | _ => none

def Node.keyFault? : Node → Option LoadError
  | .scalar text isPlain => scalarFault? text isPlain
  | _ => some .malformed

def Node.partFault? : Node → Option LoadError
  | .scalar .. => none
  | .sequence items => items.findSome? Node.ownFault?
  | .mapping entries => entries.findSome? fun e => e.1.keyFault?.or e.2.ownFault?
  | .unmergeable => some .malformed

def Node.inner : Node → List Node
  | .scalar .. | .unmergeable => []
  | .sequence items => items
  | .mapping entries => entries.map (·.2)

/-- The first fault of the nodes of one depth, or else of the depths below. -/
def faultBelow? : Nat → List Node → Option LoadError
  | 0, _ => none
  | depth + 1, level =>
    if level = [] then none
    else (level.findSome? Node.partFault?).or (faultBelow? depth (level.flatMap Node.inner))

mutual
def Node.depth : Node → Nat
  | .scalar .. | .unmergeable => 1
  | .sequence items => depthOfItems items + 1
  | .mapping entries => depthOfEntries entries + 1

def depthOfItems : List Node → Nat
  | [] => 0
  | n :: r => max n.depth (depthOfItems r)

def depthOfEntries : List (Node × Node) → Nat
  | [] => 0
  | (_, v) :: r => max v.depth (depthOfEntries r)
end

def Node.fault? (n : Node) : Option LoadError := n.ownFault?.or (faultBelow? n.depth [n])

def scalarValue (text : String) (isPlain : Bool) : Value :=
  if isPlain then (resolve text).toOption.getD .null else .text text

mutual
def Node.value : Node → Value
  | .scalar text isPlain => scalarValue text isPlain
  | .sequence items => .list (valuesOf items)
  | .mapping entries => .table (entriesOf [] entries)
  | .unmergeable => .null

def valuesOf : List Node → List Value
  | [] => []
  | n :: r => n.value :: valuesOf r

def entriesOf (table : List (Value × Value)) : List (Node × Node) → List (Value × Value)
  | [] => table
  | (k, v) :: r => entriesOf (Value.put k.value v.value table) r
end

/-- What reads a settings file: a value for its text, or why there is none. -/
abbrev Loader := List Char → Except LoadError Value

/-- The value of a text; an empty one is null. -/
def load (text : List Char) : Except LoadError Value := do
  match ← document (tokens text) with
  | none => return .null
  | some n =>
    let n := n.merge
    match n.fault? with
    | some e => throw e
    | none => return n.value

end CastLaunch.Yaml
