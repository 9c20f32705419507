import FilterQuery.Yaml.Token

/-!
# YAML nodes

A document is a tree of scalars, sequences and mappings. `document?` builds the tree of the one
document that a text may hold. Aliases stand for the node with their anchor, so the tree has none.

The functions that read a node call each other on what is left of the tokens, which must become
shorter every time.
-/

namespace FilterQuery.Yaml

/-- A node of a document. -/
inductive Node where
  /-- A scalar, whether it is plain, and its tag if it has one. -/
  | scalar (text : String) (plain : Bool) (tag : Option String)
  | sequence (items : List Node)
  | mapping (entries : List (Node × Node))

namespace Node

/-- The scalar that stands where nothing is written. -/
def empty : Node := scalar "" true none

end Node

/-- What is known from earlier parts of a document. -/
structure Context where
  /-- The handles that tags may have. -/
  handles : List String
  /-- The nodes with an anchor, the last first. -/
  anchors : List (String × Node)

/-- A node, what is known after it, and the tokens that are left. -/
abbrev Found (α : Type) := α × Context × List Token

/-- The anchor and the tag in front of a node. -/
structure Properties where
  anchor : Option String
  tag : Option String

/-- The name of a tag, if its handle is known. -/
def Context.tagName? (c : Context) (handle suffix : String) : Option String :=
  if handle = "" then some suffix
  else if handle = "!!" then some ("tag:yaml.org,2002:" ++ suffix)
  else if handle = "!" ∨ handle ∈ c.handles then some (handle ++ suffix)
  else none

/-- Reads the properties of a node, in either order. -/
def properties? (c : Context) : List Token → Option (Properties × List Token)
  | .anchor name :: .tag handle suffix :: rest => do
    return (⟨some name, some (← c.tagName? handle suffix)⟩, rest)
  | .tag handle suffix :: .anchor name :: rest => do
    return (⟨some name, some (← c.tagName? handle suffix)⟩, rest)
  | .anchor name :: rest => some (⟨some name, none⟩, rest)
  | .tag handle suffix :: rest => do return (⟨none, some (← c.tagName? handle suffix)⟩, rest)
  | rest => some (⟨none, none⟩, rest)

/-- Remembers a node under its anchor. -/
def Context.remember (c : Context) (p : Properties) (n : Node) : Context :=
  match p.anchor with
  | some name => { c with anchors := (name, n) :: c.anchors }
  | none => c

/-- Whether one of some tokens comes next. -/
def isNext (choices : List Token) (ts : List Token) : Bool :=
  (ts.head?).any (· ∈ choices)

/-- Tokens after which nothing was written, in a block. -/
def blockStops : List Token := [.key, .value, .blockEnd]

mutual

/-- Reads a node. In a block it may be a block, and as the value of a key its items may stand at
the column of the key. -/
def node? (block indentless : Bool) (c : Context) (ts : List Token) : Option (Found Node) :=
  match ts with
  | .alias name :: rest => (c.anchors.lookup name).map fun n => (n, c, rest)
  | ts =>
    match properties? c ts with
    | none => none
    | some (p, rest) =>
      if rest.length ≤ ts.length then
        match content? block indentless p c rest with
        | some (n, c, rest) => some (n, c.remember p n, rest)
        | none => none
      else none
termination_by (ts.length, 2)
decreasing_by
  rw [Prod.lex_def]
  simp only
  omega

/-- Reads a node after its properties. -/
def content? (block indentless : Bool) (p : Properties) (c : Context) (ts : List Token) :
    Option (Found Node) :=
  match ts with
  | .scalar text plain :: rest => some (.scalar text plain p.tag, c, rest)
  | .flowSequenceStart :: rest => flowItems? true [] c rest
  | .flowMappingStart :: rest => flowEntries? true [] c rest
  | .blockSequenceStart :: rest => if block then blockItems? false [] c rest else none
  | .blockMappingStart :: rest => if block then blockEntries? [] c rest else none
  | ts =>
    if indentless ∧ isNext [.blockEntry] ts then blockItems? true [] c ts
    else if p.anchor.isSome ∨ p.tag.isSome then some (.scalar "" true p.tag, c, ts)
    else none
termination_by (ts.length, 1)

/-- Reads the items of a block, kept with the last first. Without an indentation of their own, the
items end at the first token that begins none. -/
def blockItems? (indentless : Bool) (items : List Node) (c : Context) (ts : List Token) :
    Option (Found Node) :=
  match ts with
  | .blockEntry :: rest =>
    let stops := if indentless then .blockEntry :: blockStops else [.blockEntry, .blockEnd]
    if isNext stops rest then blockItems? indentless (.empty :: items) c rest
    else
      match node? true false c rest with
      | none => none
      | some (n, c, after) =>
        if after.length ≤ rest.length then blockItems? indentless (n :: items) c after
        else none
  | ts =>
    if indentless then some (.sequence items.reverse, c, ts)
    else match ts with
      | .blockEnd :: rest => some (.sequence items.reverse, c, rest)
      | _ => none
termination_by (ts.length, 0)

/-- Reads the entries of a block, kept with the last first. -/
def blockEntries? (entries : List (Node × Node)) (c : Context) (ts : List Token) :
    Option (Found Node) :=
  match ts with
  | .blockEnd :: rest => some (.mapping entries.reverse, c, rest)
  | .key :: rest =>
    match optional? true blockStops c rest with
    | none => none
    | some (key, c, after) =>
      if after.length ≤ rest.length then
        match value? true blockStops c after with
        | none => none
        | some (value, c, left) =>
          if left.length ≤ rest.length then blockEntries? ((key, value) :: entries) c left
          else none
      else none
  | _ => none
termination_by (ts.length, 0)

/-- Reads a node, or nothing before one of some tokens. -/
def optional? (block : Bool) (stops : List Token) (c : Context) (ts : List Token) :
    Option (Found Node) :=
  if isNext stops ts then some (.empty, c, ts) else node? block block c ts
termination_by (ts.length, 3)

/-- Reads the value of a key, or nothing without its mark. -/
def value? (block : Bool) (stops : List Token) (c : Context) (ts : List Token) :
    Option (Found Node) :=
  match ts with
  | .value :: rest => optional? block stops c rest
  | ts => some (.empty, c, ts)
termination_by (ts.length, 4)

/-- Reads items between brackets, kept with the last first. -/
def flowItems? (first : Bool) (items : List Node) (c : Context) (ts : List Token) :
    Option (Found Node) :=
  match ts with
  | .flowSequenceEnd :: rest => some (.sequence items.reverse, c, rest)
  | ts =>
    if first then flowItem? items c ts
    else match ts with
      | .flowEntry :: .flowSequenceEnd :: rest => some (.sequence items.reverse, c, rest)
      | .flowEntry :: rest => flowItem? items c rest
      | _ => none
termination_by (ts.length, 6)

/-- Reads one item between brackets and those after it. A key makes a mapping of one entry. -/
def flowItem? (items : List Node) (c : Context) (ts : List Token) : Option (Found Node) :=
  let stops := [.value, .flowEntry, .flowSequenceEnd]
  match ts with
  | .key :: rest =>
    match optional? false stops c rest with
    | none => none
    | some (key, c, after) =>
      if after.length ≤ rest.length then
        match value? false stops c after with
        | none => none
        | some (value, c, left) =>
          if left.length ≤ rest.length then
            flowItems? false (.mapping [(key, value)] :: items) c left
          else none
      else none
  | ts =>
    match node? false false c ts with
    | none => none
    | some (n, c, left) =>
      if left.length < ts.length then flowItems? false (n :: items) c left else none
termination_by (ts.length, 5)

/-- Reads entries between braces, kept with the last first. -/
def flowEntries? (first : Bool) (entries : List (Node × Node)) (c : Context)
    (ts : List Token) : Option (Found Node) :=
  match ts with
  | .flowMappingEnd :: rest => some (.mapping entries.reverse, c, rest)
  | ts =>
    if first then flowEntry? entries c ts
    else match ts with
      | .flowEntry :: .flowMappingEnd :: rest => some (.mapping entries.reverse, c, rest)
      | .flowEntry :: rest => flowEntry? entries c rest
      | _ => none
termination_by (ts.length, 6)

/-- Reads one entry between braces and those after it. A node without a mark is a key without a
value. -/
def flowEntry? (entries : List (Node × Node)) (c : Context) (ts : List Token) :
    Option (Found Node) :=
  let stops := [.value, .flowEntry, .flowMappingEnd]
  match ts with
  | .key :: rest =>
    match optional? false stops c rest with
    | none => none
    | some (key, c, after) =>
      if after.length ≤ rest.length then
        match value? false stops c after with
        | none => none
        | some (value, c, left) =>
          if left.length ≤ rest.length then
            flowEntries? false ((key, value) :: entries) c left
          else none
      else none
  | ts =>
    match node? false false c ts with
    | none => none
    | some (n, c, left) =>
      if left.length < ts.length then flowEntries? false ((n, .empty) :: entries) c left
      else none
termination_by (ts.length, 5)

end

/-! ### Documents -/

/-- Reads the directives of a document: at most one version, which has to be known, and handles of
tags. -/
def directives? (versioned : Bool) (handles : List String) :
    List Token → Option (List String × List Token)
  | .version major minor :: rest =>
    if versioned ∨ major ≠ 1 ∨ (minor ≠ 1 ∧ minor ≠ 2) then none
    else directives? true handles rest
  | .tagHandle handle :: rest =>
    if handle ∈ handles then none else directives? versioned (handle :: handles) rest
  | rest => some (handles, rest)

/-- Whether the text is over, or its next document begins. -/
def atDocumentEdge : List Token → Bool
  | [] => true
  | .version _ _ :: _ => true
  | .tagHandle _ :: _ => true
  | .documentStart :: _ => true
  | .documentEnd :: _ => true
  | _ => false

/-- Reads a document. Only one without directives may lack its mark. -/
def oneDocument? (ts : List Token) : Option (Node × List Token) := do
  let (handles, rest) ← directives? false [] ts
  match rest with
  | .documentStart :: rest =>
    if atDocumentEdge rest then return (.empty, rest)
    else
      let (n, _, rest) ← node? true false ⟨handles, []⟩ rest
      return (n, rest)
  | .documentEnd :: _ => none
  | rest =>
    if rest.length = ts.length then
      let (n, _, rest) ← node? true false ⟨[], []⟩ rest
      return (n, rest)
    else none

/-- What the tokens of a text hold. -/
inductive Contents where
  | nothing
  | document (root : Node)
  /-- More than one document. -/
  | many
  | malformed

/-- Reads all documents of a text. -/
def contents (ts : List Token) : Contents :=
  if ts.isEmpty then .nothing
  else match oneDocument? ts with
    | none => .malformed
    | some (root, rest) =>
      match rest.dropWhile (· = .documentEnd) with
      | [] => .document root
      | .documentStart :: _ => .many
      | _ => .malformed

end FilterQuery.Yaml
