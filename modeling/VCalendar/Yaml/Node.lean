import VCalendar.Yaml.Token

/-!
# Nodes

The tokens of a document are read as one tree of nodes: scalars, sequences, and
mappings, whose entries are kept as they are written.  Where nothing stands in
the place of a value, an empty plain scalar does.
-/

namespace VCalendar.Yaml

inductive Node where
  | plain (text : List Char)
  | quoted (text : List Char)
  | sequence (items : List Node)
  | mapping (entries : List (Node × Node))
deriving Inhabited, Repr

/-- The node where nothing stands. -/
def Node.empty : Node :=
  .plain []

/-- Whether a node is a sequence or a mapping. -/
def Node.isCollection : Node → Bool
  | .sequence _ | .mapping _ => true
  | .plain _ | .quoted _ => false

/-- Whether no value stands before a token of a block collection. -/
def endsBlockSlot : List Token → Bool
  | .key :: _ | .value :: _ | .blockEnd :: _ => true
  | _ => false

/-- Whether no value stands before a token of a flow collection. -/
def endsFlowSlot (close : Token) : List Token → Bool
  | .flowEntry :: _ => true
  | t :: _ => t = close
  | [] => false

mutual

/-- A node; entries of a sequence without indentation are taken where they may stand. -/
def node (fuel : Nat) (unindented : Bool) (ts : List Token) : Except Error (Node × List Token) :=
  match fuel, ts with
  | _ + 1, .plain s :: rest => .ok (.plain s, rest)
  | _ + 1, .quoted s :: rest => .ok (.quoted s, rest)
  | fuel + 1, .flowSequenceStart :: rest =>
    (flowItems fuel true rest).map fun (items, rest) => (.sequence items, rest)
  | fuel + 1, .flowMappingStart :: rest =>
    (flowEntries fuel true rest).map fun (entries, rest) => (.mapping entries, rest)
  | fuel + 1, .blockSequenceStart :: rest =>
    (blockItems fuel rest).map fun (items, rest) => (.sequence items, rest)
  | fuel + 1, .blockMappingStart :: rest =>
    (blockEntries fuel rest).map fun (entries, rest) => (.mapping entries, rest)
  | fuel + 1, .blockEntry :: rest =>
    if unindented then
      (unindentedItems fuel (.blockEntry :: rest)).map fun (items, rest) => (.sequence items, rest)
    else .error .badStructure
  | _, _ => .error .badStructure

/-- The node in a slot that may be empty. -/
def slot (fuel : Nat) (empty unindented : Bool) (ts : List Token) :
    Except Error (Node × List Token) :=
  match fuel with
  | 0 => .error .badStructure
  | fuel + 1 => if empty then .ok (.empty, ts) else node fuel unindented ts

def blockItems (fuel : Nat) (ts : List Token) : Except Error (List Node × List Token) :=
  match fuel, ts with
  | fuel + 1, .blockEntry :: rest => do
    let empty := rest.head? = some .blockEntry || rest.head? = some .blockEnd
    let (item, rest) ← slot fuel empty false rest
    let (items, rest) ← blockItems fuel rest
    pure (item :: items, rest)
  | _ + 1, .blockEnd :: rest => .ok ([], rest)
  | _, _ => .error .badStructure

/-- The items of a sequence that ends where its entries do. -/
def unindentedItems (fuel : Nat) (ts : List Token) : Except Error (List Node × List Token) :=
  match fuel, ts with
  | fuel + 1, .blockEntry :: rest => do
    let empty := endsBlockSlot rest || rest.head? = some .blockEntry
    let (item, rest) ← slot fuel empty false rest
    let (items, rest) ← unindentedItems fuel rest
    pure (item :: items, rest)
  | _ + 1, ts => .ok ([], ts)
  | 0, _ => .error .badStructure

def blockEntries (fuel : Nat) (ts : List Token) :
    Except Error (List (Node × Node) × List Token) :=
  match fuel, ts with
  | fuel + 1, .key :: rest => do
    let (k, rest) ← slot fuel (endsBlockSlot rest) true rest
    let (v, rest) ←
      match rest with
      | .value :: rest => slot fuel (endsBlockSlot rest) true rest
      | rest => pure (.empty, rest)
    let (entries, rest) ← blockEntries fuel rest
    pure ((k, v) :: entries, rest)
  | _ + 1, .blockEnd :: rest => .ok ([], rest)
  | _, _ => .error .badStructure

def flowItems (fuel : Nat) (first : Bool) (ts : List Token) :
    Except Error (List Node × List Token) :=
  match fuel, ts with
  | _ + 1, .flowSequenceEnd :: rest => .ok ([], rest)
  | fuel + 1, ts => do
    let ts ←
      match first, ts with
      | true, ts => pure ts
      | false, .flowEntry :: rest => pure rest
      | false, _ => throw .badStructure
    match ts with
    | .flowSequenceEnd :: rest => pure ([], rest)
    | .key :: rest =>
      let (entry, rest) ← flowEntry fuel .flowSequenceEnd rest
      let (items, rest) ← flowItems fuel false rest
      pure (.mapping [entry] :: items, rest)
    | ts =>
      let (item, rest) ← node fuel false ts
      let (items, rest) ← flowItems fuel false rest
      pure (item :: items, rest)
  | 0, _ => .error .badStructure

/-- The key and value behind a key token of a flow collection. -/
def flowEntry (fuel : Nat) (close : Token) (ts : List Token) :
    Except Error ((Node × Node) × List Token) :=
  match fuel with
  | 0 => .error .badStructure
  | fuel + 1 => do
    let (k, rest) ← slot fuel (endsFlowSlot close ts || ts.head? = some .value) false ts
    let (v, rest) ←
      match rest with
      | .value :: rest => slot fuel (endsFlowSlot close rest) false rest
      | rest => pure (.empty, rest)
    pure ((k, v), rest)

def flowEntries (fuel : Nat) (first : Bool) (ts : List Token) :
    Except Error (List (Node × Node) × List Token) :=
  match fuel, ts with
  | _ + 1, .flowMappingEnd :: rest => .ok ([], rest)
  | fuel + 1, ts => do
    let ts ←
      match first, ts with
      | true, ts => pure ts
      | false, .flowEntry :: rest => pure rest
      | false, _ => throw .badStructure
    match ts with
    | .flowMappingEnd :: rest => pure ([], rest)
    | .key :: rest =>
      let (entry, rest) ← flowEntry fuel .flowMappingEnd rest
      let (entries, rest) ← flowEntries fuel false rest
      pure (entry :: entries, rest)
    | ts =>
      let (k, rest) ← node fuel false ts
      let (entries, rest) ← flowEntries fuel false rest
      pure ((k, .empty) :: entries, rest)
  | 0, _ => .error .badStructure

end

/-- Whether nothing but document ends follows. -/
def isEnd (ts : List Token) : Bool :=
  (ts.dropWhile (· = .documentEnd)).isEmpty

/-- The node of a document; a document without content is an empty one. -/
def document (ts : List Token) : Except Error Node := do
  let fuel := 3 * ts.length + 3
  let (n, rest) ←
    match ts with
    | [] => pure (.empty, [])
    | .documentStart :: rest =>
      let empty := rest.isEmpty || rest.head? = some .documentStart ||
        rest.head? = some .documentEnd
      slot fuel empty false rest
    | ts => node fuel false ts
  if isEnd rest then pure n else throw .badStructure

end VCalendar.Yaml
