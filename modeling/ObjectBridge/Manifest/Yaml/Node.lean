import ObjectBridge.Manifest.Yaml.Phrase
import ObjectBridge.Manifest.Yaml.Value

/-!
# `ObjectBridge.Manifest.Yaml.Node`: the nodes of a document

Nodes are read from phrases. Which phrases belong to a collection outside
brackets is up to their columns: the entries of a list and the keys of a
mapping start in the same column, and what belongs to them starts further
right. A list may start in the column of the key it belongs to.

A mapping must not have a key twice.
-/

set_option autoImplicit false

namespace ObjectBridge.Manifest.Yaml

/-- A node. -/
inductive Node
  | scalar (v : Value)
  /-- The key that takes over the entries of other mappings. -/
  | merge
  /-- A tag and its node. With `loose` only the text of the node counts. -/
  | tagged (tag : String) (loose : Bool) (value : Node)
  | anchor (name : String) (value : Node)
  | reference (name : String)
  | list (items : List Node)
  | map (entries : List (Node × Node))
  | directive
  deriving Inhabited

namespace Node

/-- The node of nothing. -/
def null : Node := .scalar .null

/-- Is this no collection? -/
def isScalar : Node → Bool
  | .list _ | .map _ => false
  | _ => true

/-- The scalar of a token. -/
def ofToken? (t : Token) : Option Node :=
  match t.kind with
  | .plain => some (.scalar (.ofPlain t.value))
  | .text | .quoted => some (.scalar (.text t.value))
  | .merge => some .merge
  | _ => none

/-- What stands for a missing scalar after a tag. -/
def missing? (tag : KnownTag) : Option Node :=
  match tag with
  | .integer => some (.scalar (.integer 0))
  | .float => some (.scalar (.float 0.0))
  | .string | .binary => some (.scalar (.text ""))
  | .boolean => some (.scalar (.bool false))
  | .null => some null
  | _ => none

end Node

/-! ### Keys -/

/-- The text by which keys of a mapping are told apart. -/
def Phrase.keyText : Phrase → String
  | .word t => t.value
  | .anchor _ _ value => value.keyText
  | .tagged _ value => value.keyText
  | .question _ k => k.keyText
  | .key k _ => k.keyText
  | .pair k _ => k.keyText
  | _ => ""

/-- The number of ends of lines among characters. -/
def breaks : List Char → Nat
  | '\r' :: '\n' :: cs => breaks cs + 1
  | c :: cs => if isBreak c then breaks cs + 1 else breaks cs
  | [] => 0

/-- May a key start with this token, when what follows it is on a certain
line? In brackets it must end on that line. Elsewhere a text must not run
over lines. -/
def isProperStart (inBrackets : Bool) (t : Token) (line : Nat) : Bool :=
  let outer (c : Char) : Bool := c = ' ' || isBreak c
  let cs := t.origin.dropWhile outer
  let isText := t.kind = .text || (t.kind = .plain && match Value.ofPlain t.value with
    | .text _ => true
    | _ => false)
  if inBrackets then
    let cs := if isText then (cs.reverse.dropWhile outer).reverse else cs
    t.line + breaks cs = line
  else !(isText || t.kind = .quoted) || !cs.any isBreak

/-- May this be a key? -/
def isProperKey (inBrackets : Bool) : Phrase → Bool
  | .key k colon => isProperStart inBrackets k.first colon.line
  | .question mark k => isProperStart inBrackets mark k.line
  | _ => false

/-! ### Reading -/

/-- Reading goes on with the phrases that are left. -/
abbrev Reading (α : Type) := Option (α × List Phrase)

/-- How nodes are read. -/
structure Manner where
  /-- Does the document define what tags mean? -/
  loose : Bool := false
  inBrackets : Bool := false

/-- Does an anchor stand here whose node is missing, because what follows
belongs to something else? -/
def isBareAnchor (line : Nat) (other : Phrase → Bool) (ps : List Phrase) : Bool :=
  match ps with
  | p :: rest => p.isAnchorName && p.line = line && (rest.head?.map other).getD true
  | [] => false

/-- Is a tag after an anchor on a line of its own, and not indented? -/
def isStrayTag (column : Int) (ps : List Phrase) : Bool :=
  match ps with
  | .anchorName mark _ :: .word t :: _ => t.kind = .tag && mark.line ≠ t.line && t.column ≤ column
  | .anchorName mark _ :: .tagged t _ :: _ => mark.line ≠ t.line && t.column ≤ column
  | _ => false

/-- The name of an anchor without a node. -/
def bareAnchor (ps : List Phrase) : Reading Node :=
  match ps with
  | .anchorName _ name :: rest => some (.anchor name .null, rest)
  | _ => none

/-- Does a part of a mapping in braces end before this? -/
def endsPart (p : Phrase) : Bool := p.kind = .mapEnd || p.kind = .comma

mutual

/-- The node that the next phrases hold. -/
def node (fuel : Nat) (m : Manner) (ps : List Phrase) : Reading Node :=
  match fuel with
  | 0 => none
  | fuel + 1 =>
    match ps with
    | [] => none
    | p :: rest =>
      match p with
      | .question .. | .key .. | .pair .. =>
        (mapping fuel m [] [] ps).map fun (entries, rest) => (.map entries, rest)
      | .directive .. => some (.directive, rest)
      | .word t =>
        match t.kind with
        | .tag => tagged fuel m t rest
        | .mapStart => (braces fuel { m with inBrackets := true } [] [] true rest).map
          fun (es, rest) => (.map es, rest)
        | .listStart => (brackets fuel { m with inBrackets := true } [] rest).map fun (l, rest) =>
          (.list l, rest)
        | .entry => (entries fuel m p [] ps).map fun (l, rest) => (.list l, rest)
        | _ => (Node.ofToken? t).map fun n => (n, rest)
      | .anchorName _ name =>
        match rest with
        | .anchor .. :: _ | .anchorName .. :: _ => none
        | _ => (node fuel m rest).map fun (n, rest) => (.anchor name n, rest)
      | _ => scalar fuel m ps

/-- The scalar that the next phrases hold. -/
def scalar (fuel : Nat) (m : Manner) (ps : List Phrase) : Reading Node :=
  match fuel with
  | 0 => none
  | fuel + 1 =>
    match ps with
    | [] => none
    | p :: rest =>
      match p with
      | .anchor _ name value => (node fuel m [value]).map fun (n, _) => (.anchor name n, rest)
      | .anchorName _ name =>
        match rest with
        | .anchor .. :: _ | .anchorName .. :: _ => none
        | _ => (node fuel m rest).map fun (n, rest) => (.anchor name n, rest.tail)
      | .reference _ name => some (.reference name, rest)
      | .block _ content => some (.scalar (.text content), rest)
      | .tagged tag value =>
        match tagged fuel m tag [value] with
        | some (n, _) => some (n, rest)
        | none => none
      | .word t =>
        if t.kind = .tag then
          match tagged fuel m t rest with
          | some (.tagged name loose value, rest) =>
            if value.isScalar then some (.tagged name loose value, rest.tail) else none
          | _ => none
        else (Node.ofToken? t).map fun n => (n, rest)
      | _ => none

/-- The node after a tag. -/
def tagged (fuel : Nat) (m : Manner) (tag : Token) (ps : List Phrase) : Reading Node :=
  match fuel with
  | 0 => none
  | fuel + 1 =>
    let wrap (result : Reading Node) : Reading Node :=
      result.map fun (n, rest) => (.tagged tag.value m.loose n, rest)
    match ps with
    | [] => wrap (some (.null, []))
    | p :: rest =>
      if m.loose then wrap (some (.scalar (.text p.first.value), ps))
      else
        match KnownTag.ofName? tag.value with
        | some .mapping | some .set =>
          if p.isKey || p.isMark .mapStart then wrap (node fuel m ps) else none
        | some .sequence | some .orderedMap =>
          if p.isMark .listStart then wrap (node fuel m ps)
          else wrap ((entries fuel m p [] ps).map fun (l, rest) => (.list l, rest))
        | some known =>
          if known.isScalar then
            match p with
            | .block _ content => wrap (some (.scalar (.text content), ps))
            | p =>
              if p.kind = .comma || p.isMark .colon then
                wrap ((Node.missing? known).map fun n => (n, ps))
              else wrap (scalar fuel m (p :: rest))
          else wrap (node fuel m ps)
        | none => wrap (node fuel m ps)

/-- The key that a phrase holds. -/
def key (fuel : Nat) (m : Manner) (p : Phrase) : Option Node :=
  match fuel with
  | 0 => none
  | fuel + 1 =>
    match p with
    | .question _ k | .key (.question _ k) _ => (scalar fuel m [k]).map Prod.fst
    | .key k colon => (scalar fuel m [k, .word colon]).map Prod.fst
    | _ => none

/-- The entries of a mapping, those before it and the keys seen given. -/
def mapping (fuel : Nat) (m : Manner) (seen : List String) (before : List (Node × Node))
    (ps : List Phrase) :
    Reading (List (Node × Node)) :=
  match fuel with
  | 0 => none
  | fuel + 1 =>
    match ps with
    | [] => none
    | p :: rest =>
      let k := match p with
        | .pair k _ => k
        | p => p
      let text := p.keyText
      if !isProperKey m.inBrackets k || text ∈ seen then none
      else
        match key fuel m k, entry fuel m p rest with
        | some k, some (v, rest) =>
          let es := before ++ [(k, v)]
          match rest with
          | [] => some (es, [])
          | q :: after =>
            if q.column ≠ p.column || (m.inBrackets && q.isMark .listEnd) then some (es, rest)
            else if q.isMark .mapEnd then some (es, after)
            else if q.isKey then mapping fuel m (text :: seen) es rest
            else none
        | _, _ => none

/-- The value of an entry of a mapping. -/
def entry (fuel : Nat) (m : Manner) (p : Phrase) (ps : List Phrase) : Reading Node :=
  match fuel with
  | 0 => none
  | fuel + 1 =>
    match p with
    | .pair _ v =>
      let allowed (q : Phrase) : Bool :=
        q.column ≤ p.column || (m.inBrackets && (q.kind = .comma || q.kind = .listEnd))
      if (ps.head?.map allowed).getD true then (node fuel m [v]).map fun (n, _) => (n, ps) else none
    | _ =>
      match ps with
      | [] => some (.null, [])
      | q :: _ =>
        if p.line = q.line && (q.kind = .entry || (q.isKey && q.column ≠ p.column)) then none
        else if q.column = p.column && q.isMapping then some (.null, ps)
        else if isBareAnchor p.line (fun o => o.column < p.column ||
          (o.column = p.column && o.isMapping)) ps then
          bareAnchor ps
        else if q.column ≤ p.column && (q.isAnchorName || q.kind = .tag) then none
        else if q.column < p.column then some (.null, ps)
        else if isStrayTag p.column ps then none
        else node fuel m ps

/-- The entries of a list, those before it given. -/
def entries (fuel : Nat) (m : Manner) (start : Phrase) (before : List Node) (ps : List Phrase) :
    Reading (List Node) :=
  match fuel with
  | 0 => none
  | fuel + 1 =>
    match ps with
    | p :: rest =>
      if p.isMark .entry && p.column = start.column then
        match item fuel m start rest with
        | some (n, rest) => entries fuel m start (before ++ [n]) rest
        | none => none
      else some (before, ps)
    | [] => some (before, [])

/-- The node of an entry of a list. -/
def item (fuel : Nat) (m : Manner) (start : Phrase) (ps : List Phrase) : Reading Node :=
  match fuel with
  | 0 => none
  | fuel + 1 =>
    match ps with
    | [] => some (.null, [])
    | q :: _ =>
      let isNext (o : Phrase) : Bool := o.column = start.column && o.isMark .entry
      if isNext q then some (.null, ps)
      else if isBareAnchor start.line (fun o => o.column < start.column || isNext o) ps then
        bareAnchor ps
      else if q.column ≤ start.column && (q.isAnchorName || q.kind = .tag) then none
      else if q.column < start.column then some (.null, ps)
      else if isStrayTag start.column ps then none
      else node fuel m ps

/-- The items of a list in brackets, those before them given. -/
def brackets (fuel : Nat) (m : Manner) (before : List Node) (ps : List Phrase) :
    Reading (List Node) :=
  match fuel with
  | 0 => none
  | fuel + 1 =>
    let part (ps : List Phrase) : Reading (List Node) :=
      match ps with
      | [] => none
      | p :: rest =>
        if p.isMark .listEnd then some (before, rest)
        else
          match node fuel m ps with
          | some (n, rest) => brackets fuel m (before ++ [n]) rest
          | none => none
    match ps with
    | [] => none
    | p :: rest =>
      if p.isMark .listEnd then some (before, rest)
      else if before.isEmpty then if p.isMark .comma then none else part ps
      else if p.isMark .comma then part rest
      else none

/-- The entries of a mapping in braces, those before them and the keys
seen given. A key alone stands for null. -/
def braces (fuel : Nat) (m : Manner) (seen : List String) (before : List (Node × Node))
    (isFirst : Bool) (ps : List Phrase) : Reading (List (Node × Node)) :=
  match fuel with
  | 0 => none
  | fuel + 1 =>
    let go (p : Phrase) (k v : Node) (rest : List Phrase) : Reading (List (Node × Node)) :=
      braces fuel m (if p.isKey then p.keyText :: seen else seen) (before ++ [(k, v)]) false rest
    let part (ps : List Phrase) : Reading (List (Node × Node)) :=
      match ps with
      | [] => none
      | p :: rest =>
        let fresh (k : Phrase) : Bool := isProperKey true k && p.keyText ∉ seen
        if p.isMark .mapEnd then some (before, rest)
        else
          match p with
          | .pair k v =>
            match fresh k, key fuel m k, node fuel m [v] with
            | true, some k, some (v, _) => go p k v rest
            | _, _, _ => none
          | .key .. | .question .. =>
            match fresh p, key fuel m p with
            | true, some k =>
              if (rest.head?.map endsPart).getD false then go p k .null rest
              else
                match node fuel m rest with
                | some (v, rest) => go p k v rest
                | none => none
            | _, _ => none
          | _ =>
            if (rest.head?.map endsPart).getD false then
              match scalar fuel m ps with
              | some (k, rest) => go p k .null rest
              | none => none
            else none
    match ps with
    | [] => none
    | p :: rest =>
      if p.isMark .mapEnd then some (before, rest)
      else if p.isMark .comma then part rest
      else if isFirst then part ps
      else none

end

/-! ### Documents -/

/-- What directives have said so far. -/
structure Declared where
  version : Bool := false
  /-- Is there a meaning for tags with two exclamation marks? -/
  tags : Bool := false

/-- Takes note of a directive. -/
def Declared.add? (d : Declared) (name : Token) (values : List Token) : Option Declared :=
  match name.value, values with
  | _, [] => some d
  | "YAML", [v] =>
    if d.version || v.value ∉ ["1.0", "1.1", "1.2", "1.3"] then none
    else some { d with version := true }
  | "YAML", _ => none
  | "TAG", [handle, _] => some (if handle.value = "!!" then { d with tags := true } else d)
  | "TAG", _ => none
  | _, _ => some d

/-- The node of a document, if it has one. -/
def document? (d : Declared) (ps : List Phrase) : Option (Option Node × Declared) :=
  match ps with
  | [] => some (none, d)
  | [.directive _ name values] => (d.add? name values).map fun d => (some .directive, d)
  | ps =>
    match node (8 * ps.length + 16) { loose := d.tags } ps with
    | some (n, []) => some (some n, d)
    | _ => none

/-- The nodes of documents. The version that was declared holds up to the
mark at the end of a document. -/
def nodes? : Declared → List Outline → Option (List (Option Node))
  | _, [] => some []
  | d, o :: rest => do
    let (n, d) ← document? d o.contents
    return n :: (← nodes? (if o.isClosed then { d with version := false } else d) rest)

end ObjectBridge.Manifest.Yaml
