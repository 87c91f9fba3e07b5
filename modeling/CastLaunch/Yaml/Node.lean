import CastLaunch.Yaml.Token

/-!
The tree of a settings file.  A document is one node, and the tokens of a file
hold at most one document.  Where a value is left out stands an empty scalar.
-/

namespace CastLaunch.Yaml

inductive Node where
  | scalar (text : String) (isPlain : Bool)
  | sequence (items : List Node)
  | mapping (entries : List (Node × Node))
  | unmergeable
  deriving Inhabited

def Node.missing : Node := .scalar "" true

/-- Whether a value is left out here: one of the tokens in `stops` or nothing at all follows. -/
def isOver (stops : List Token) : List Token → Bool
  | [] => true
  | t :: _ => stops.contains t

/-- The fault when the next token does not belong here: its own, if it is one. -/
def refusal : List Token → LoadError
  | .fault e :: _ => e
  | _ => .malformed

mutual
/-- Reads one node.  Block collections need `block`; a sequence at its parent's indentation needs `indentless`. -/
def node : Nat → Bool → Bool → List Token → Except LoadError (Node × List Token)
  | 0, _, _, _ => .error .malformed
  | fuel + 1, block, indentless, ts =>
    match ts with
    | .scalar text isPlain :: r => .ok (.scalar text isPlain, r)
    | .flowSequenceStart :: r => (flowItems fuel true r).map fun x => (.sequence x.1, x.2)
    | .flowMappingStart :: r => (flowEntries fuel true r).map fun x => (.mapping x.1, x.2)
    | .blockEntry :: r =>
      if indentless then (indentlessItems fuel (.blockEntry :: r)).map fun x => (.sequence x.1, x.2)
      else .error (refusal ts)
    | .blockSequenceStart :: r =>
      if block then (blockItems fuel r).map fun x => (.sequence x.1, x.2) else .error (refusal ts)
    | .blockMappingStart :: r =>
      if block then (blockEntries fuel r).map fun x => (.mapping x.1, x.2) else .error (refusal ts)
    | _ => .error (refusal ts)

/-- A node, or the missing one when one of the tokens in `stops` comes first. -/
def nodeUnless : Nat → List Token → Bool → Bool → List Token → Except LoadError (Node × List Token)
  | 0, _, _, _, _ => .error .malformed
  | fuel + 1, stops, block, indentless, ts =>
    if isOver stops ts then .ok (.missing, ts) else node fuel block indentless ts

def blockItems : Nat → List Token → Except LoadError (List Node × List Token)
  | 0, _ => .error .malformed
  | fuel + 1, ts =>
    match ts with
    | .blockEntry :: r => do
      let (n, r) ← nodeUnless fuel [.blockEntry, .blockEnd] true false r
      let (more, r) ← blockItems fuel r
      return (n :: more, r)
    | .blockEnd :: r => .ok ([], r)
    | _ => .error (refusal ts)

/-- The items of a sequence at its parent's indentation, up to the first token that is none of its entries. -/
def indentlessItems : Nat → List Token → Except LoadError (List Node × List Token)
  | 0, _ => .error .malformed
  | fuel + 1, ts =>
    match ts with
    | .blockEntry :: r => do
      let (n, r) ← nodeUnless fuel [.blockEntry, .key, .value, .blockEnd] true false r
      let (more, r) ← indentlessItems fuel r
      return (n :: more, r)
    | ts => .ok ([], ts)

def blockEntries : Nat → List Token → Except LoadError (List (Node × Node) × List Token)
  | 0, _ => .error .malformed
  | fuel + 1, ts =>
    match ts with
    | .key :: r => do
      let (k, r) ← nodeUnless fuel [.key, .value, .blockEnd] true true r
      let (v, r) ← blockValue fuel r
      let (more, r) ← blockEntries fuel r
      return ((k, v) :: more, r)
    | .blockEnd :: r => .ok ([], r)
    | _ => .error (refusal ts)

def blockValue : Nat → List Token → Except LoadError (Node × List Token)
  | 0, _ => .error .malformed
  | fuel + 1, ts =>
    match ts with
    | .value :: r => nodeUnless fuel [.key, .value, .blockEnd] true true r
    | ts => .ok (.missing, ts)

/-- The items of a bracketed sequence up to its end; all but the first follow a comma. -/
def flowItems : Nat → Bool → List Token → Except LoadError (List Node × List Token)
  | 0, _, _ => .error .malformed
  | fuel + 1, first, ts =>
    match ts with
    | .flowSequenceEnd :: r => .ok ([], r)
    | ts => do
      let ts ← afterComma first ts
      match ts with
      | .key :: r => do
        let (k, r) ← nodeUnless fuel [.value, .flowEntry, .flowSequenceEnd] false false r
        let (v, r) ← flowValue fuel .flowSequenceEnd r
        let (more, r) ← flowItems fuel false r
        return (.mapping [(k, v)] :: more, r)
      | .flowSequenceEnd :: r => .ok ([], r)
      | ts => do
        let (n, r) ← node fuel false false ts
        let (more, r) ← flowItems fuel false r
        return (n :: more, r)

def flowEntries : Nat → Bool → List Token → Except LoadError (List (Node × Node) × List Token)
  | 0, _, _ => .error .malformed
  | fuel + 1, first, ts =>
    match ts with
    | .flowMappingEnd :: r => .ok ([], r)
    | ts => do
      let ts ← afterComma first ts
      match ts with
      | .key :: r => do
        let (k, r) ← nodeUnless fuel [.value, .flowEntry, .flowMappingEnd] false false r
        let (v, r) ← flowValue fuel .flowMappingEnd r
        let (more, r) ← flowEntries fuel false r
        return ((k, v) :: more, r)
      | .flowMappingEnd :: r => .ok ([], r)
      | ts => do
        let (k, r) ← node fuel false false ts
        let (more, r) ← flowEntries fuel false r
        return ((k, .missing) :: more, r)

def flowValue : Nat → Token → List Token → Except LoadError (Node × List Token)
  | 0, _, _ => .error .malformed
  | fuel + 1, close, ts =>
    match ts with
    | .value :: r => nodeUnless fuel [.flowEntry, close] false false r
    | ts => .ok (.missing, ts)

/-- The tokens behind the comma that separates entries; none is needed before the first. -/
def afterComma (first : Bool) (ts : List Token) : Except LoadError (List Token) :=
  if first then .ok ts
  else
    match ts with
    | .flowEntry :: r => .ok r
    | _ => .error (refusal ts)
end

/-- The document of a file, or none when the file holds nothing.  A second document is a fault. -/
def document (ts : List Token) : Except LoadError (Option Node) := do
  let fuel := 4 * ts.length + 4
  match ts with
  | [] => return none
  | .documentStart :: r =>
    let (n, r) ← nodeUnless fuel [.documentStart, .documentEnd] true false r
    ended n r
  | ts =>
    let (n, r) ← node fuel true false ts
    ended n r
where
  ended (n : Node) (r : List Token) : Except LoadError (Option Node) :=
    match r.dropWhile (· == .documentEnd) with
    | [] => .ok (some n)
    | r => .error (refusal r)

end CastLaunch.Yaml
