import RustOutline.Yaml.Token

/-! The tree of a YAML document, read off its tokens. -/
namespace RustOutline.Yaml

/-- Scalars keep whether they are plain, since only plain ones stand for other values than text. -/
inductive Node where
  | scalar (plain : Bool) (text : String)
  | list (items : List Node)
  | mapping (entries : List (Node × Node))
deriving Inhabited

namespace Node

def empty : Node := .scalar true ""

def follows (kinds : List Token) (ts : List Token) : Bool := ts.head?.any kinds.contains

def reject {α : Type} : List Token → Except Fault α
  | .fault f :: _ => .error f
  | _ => .error .misplaced

def afterComma : List Token → Except Fault (List Token)
  | .comma :: ts => .ok ts
  | ts => reject ts

mutual
/-- A node at the front of the tokens. Within brackets there are no block collections, and only the
value of a field may be a list without indentation of its own. -/
def parse (block bare : Bool) : Nat → List Token → Except Fault (Node × List Token)
  | 0, ts => reject ts
  | fuel + 1, ts =>
    match ts with
    | .scalar plain text :: rest => .ok (.scalar plain text, rest)
    | .alias :: _ => .error .undefinedAlias
    | .flowListStart :: rest => (flowItems true fuel rest).map fun (ns, r) => (.list ns, r)
    | .flowMappingStart :: rest => (flowEntries true fuel rest).map fun (es, r) => (.mapping es, r)
    | .listStart :: rest =>
      if block then (blockItems fuel rest).map fun (ns, r) => (.list ns, r) else reject ts
    | .mappingStart :: rest =>
      if block then (blockEntries fuel rest).map fun (es, r) => (.mapping es, r) else reject ts
    | .entry :: _ =>
      if bare then (bareItems fuel ts).map fun (ns, r) => (.list ns, r) else reject ts
    | ts => reject ts

def parseUnless (stops : List Token) (block bare : Bool) :
    Nat → List Token → Except Fault (Node × List Token)
  | 0, ts => reject ts
  | fuel + 1, ts => if follows stops ts then .ok (empty, ts) else parse block bare fuel ts

def fieldValue (stops : List Token) (block : Bool) :
    Nat → List Token → Except Fault (Node × List Token)
  | 0, ts => reject ts
  | fuel + 1, ts => match ts with
    | .value :: rest => parseUnless stops block block fuel rest
    | ts => .ok (empty, ts)

def blockItems : Nat → List Token → Except Fault (List Node × List Token)
  | 0, ts => reject ts
  | fuel + 1, ts => match ts with
    | .blockEnd :: rest => .ok ([], rest)
    | .entry :: rest => do
      let (n, rest) ← parseUnless [.entry, .blockEnd] true false fuel rest
      let (ns, rest) ← blockItems fuel rest
      return (n :: ns, rest)
    | ts => reject ts

/-- The items of a list at the indentation of the mapping around it. -/
def bareItems : Nat → List Token → Except Fault (List Node × List Token)
  | 0, ts => reject ts
  | fuel + 1, ts => match ts with
    | .entry :: rest => do
      let (n, rest) ← parseUnless [.entry, .key, .value, .blockEnd] true false fuel rest
      let (ns, rest) ← bareItems fuel rest
      return (n :: ns, rest)
    | ts => .ok ([], ts)

def blockEntries : Nat → List Token → Except Fault (List (Node × Node) × List Token)
  | 0, ts => reject ts
  | fuel + 1, ts => match ts with
    | .blockEnd :: rest => .ok ([], rest)
    | .key :: rest => do
      let stops := [.key, .value, .blockEnd]
      let (k, rest) ← parseUnless stops true true fuel rest
      let (v, rest) ← fieldValue stops true fuel rest
      let (es, rest) ← blockEntries fuel rest
      return ((k, v) :: es, rest)
    | ts => reject ts

/-- The items of a list in brackets. A pair stands for a mapping of its own. -/
def flowItems (first : Bool) : Nat → List Token → Except Fault (List Node × List Token)
  | 0, ts => reject ts
  | fuel + 1, ts => match ts with
    | .flowListEnd :: rest => .ok ([], rest)
    | ts => do
      match ← if first then .ok ts else afterComma ts with
      | .flowListEnd :: rest => return ([], rest)
      | .key :: rest =>
        let (k, rest) ← parseUnless [.value, .comma, .flowListEnd] false false fuel rest
        let (v, rest) ← fieldValue [.comma, .flowListEnd] false fuel rest
        let (ns, rest) ← flowItems false fuel rest
        return (.mapping [(k, v)] :: ns, rest)
      | ts =>
        let (n, rest) ← parse false false fuel ts
        let (ns, rest) ← flowItems false fuel rest
        return (n :: ns, rest)

def flowEntries (first : Bool) :
    Nat → List Token → Except Fault (List (Node × Node) × List Token)
  | 0, ts => reject ts
  | fuel + 1, ts => match ts with
    | .flowMappingEnd :: rest => .ok ([], rest)
    | ts => do
      match ← if first then .ok ts else afterComma ts with
      | .flowMappingEnd :: rest => return ([], rest)
      | .key :: rest =>
        let (k, rest) ← parseUnless [.value, .comma, .flowMappingEnd] false false fuel rest
        let (v, rest) ← fieldValue [.comma, .flowMappingEnd] false fuel rest
        let (es, rest) ← flowEntries false fuel rest
        return ((k, v) :: es, rest)
      | ts =>
        let (k, rest) ← parse false false fuel ts
        let (es, rest) ← flowEntries false fuel rest
        return ((k, empty) :: es, rest)
end

def document (ts : List Token) : Except Fault Node := do
  let (n, rest) ← match ts with
    | .documentStart :: [] => pure (empty, [])
    | .documentStart :: rest =>
      parseUnless [.documentStart, .documentEnd] true false (4 * ts.length + 4) rest
    | [] => pure (empty, [])
    | ts => parse true false (4 * ts.length + 4) ts
  match rest.dropWhile (· == .documentEnd) with
  | [] => return n
  | .fault f :: _ => throw f
  | _ => throw .documents

end Node
end RustOutline.Yaml
