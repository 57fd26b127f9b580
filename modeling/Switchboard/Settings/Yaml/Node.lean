/-
# YAML nodes

The values that tokens make.  A node may have a name, by which it is found again, and a tag, which
says what a plain scalar is read as.  Tables keep the order of their entries; the last entry of a
key counts.
-/
import Switchboard.Settings.Yaml.Token
import Switchboard.Number.Reading

namespace Switchboard.Settings.Yaml

open Number (float? integer64? isDigit)

/-- A node; a real number keeps its text, and `bad` stands for a scalar that is not what its tag
says, or for a name without a node. -/
inductive Node where
  | bad
  | null
  | bool (b : Bool)
  | whole (n : Int)
  | real (text : String)
  | text (s : String)
  | list (items : List Node)
  | table (entries : List (Node × Node))

instance : Inhabited Node := ⟨.null⟩

/-! ## Scalars -/

/-- Whether a text spells a real number. -/
def isReal (s : List Char) : Bool :=
  [".inf", ".Inf", ".INF", "+.inf", "+.Inf", "+.INF", "-.inf", "-.Inf", "-.INF",
    ".nan", ".NaN", ".NAN"].any (fun name => name.toList = s) ||
  (s.any isDigit && (float? s).isSome)

/-- The number of 64 bits that digits of a base spell behind an optional sign. -/
def based? (base : Nat) (s : List Char) : Option Int :=
  let (negative, digits) := match s with
    | '-' :: rest => (true, rest)
    | '+' :: rest => (false, rest)
    | _ => (false, s)
  let spelled := digits.foldlM (fun n c => do
    let d ← Json.hexValue? c
    if d < base then some (base * n + d) else none) 0
  match spelled with
  | some n =>
    if digits.isEmpty then none
    else if negative then if n ≤ Nat.pow 2 63 then some (-(n : Int)) else none
    else if n < Nat.pow 2 63 then some n else none
  | none => none

/-- The whole number that a text spells, in one of three bases. -/
def wholeOf? (s : List Char) : Option Int :=
  match s with
  | '0' :: 'x' :: digits => (based? 16 digits).or (integer64? s)
  | '0' :: 'o' :: digits => (based? 8 digits).or (integer64? s)
  | _ => integer64? s

namespace Node

/-- What a plain scalar without a tag is read as. -/
def ofPlain (text : String) : Node :=
  if ["", "~", "null"].contains text then null
  else if ["true", "True", "TRUE"].contains text then bool true
  else if ["false", "False", "FALSE"].contains text then bool false
  else
    match wholeOf? text.toList with
    | some n => whole n
    | none => if isReal text.toList then real text else .text text

/-- A tag: where its name is known, and the name. -/
abbrev Tag := String × String

/-- Where the names of the common kinds of scalars are known. -/
def commonStem : String := "tag:yaml.org,2002:"

/-- What a plain scalar with a tag of a common kind is read as. -/
def ofKind (kind text : String) : Node :=
  if kind = "bool" then
    if text = "true" then bool true else if text = "false" then bool false else bad
  else if kind = "int" then
    match integer64? text.toList with
    | some n => whole n
    | none => bad
  else if kind = "float" then if isReal text.toList then real text else bad
  else if kind = "null" then if text = "~" || text = "null" then null else bad
  else .text text

/-- What a scalar is read as; only plain ones can be other than texts. -/
def ofScalar (tag : Option Tag) (isPlain : Bool) (text : String) : Node :=
  if !isPlain then .text text
  else
    match tag with
    | none => ofPlain text
    | some (stem, kind) => if stem = commonStem then ofKind kind text else .text text

/-- Whether a node is bad. -/
def isBad : Node → Bool
  | bad => true
  | _ => false

/-- Whether two keys are the same scalar. -/
def sameKey : Node → Node → Bool
  | null, null => true
  | bool a, bool b => a = b
  | whole a, whole b => a = b
  | real a, real b => a = b
  | .text a, .text b => a = b
  | _, _ => false

/-- The entries with one more at the end; an entry of the same key gives way. -/
def addEntry (entries : List (Node × Node)) (key v : Node) : List (Node × Node) :=
  entries.filter (fun e => !e.1.sameKey key) ++ [(key, v)]

/-- The entries that nodes make, keys and values by turns.  A bad node is no key, so the next one is
taken for the key. -/
def pairUp (entries : List (Node × Node)) (key : Option Node) :
    List Node → List (Node × Node)
  | [] => entries
  | n :: rest =>
    match key with
    | some key => pairUp (addEntry entries key n) none rest
    | none => pairUp entries (if n.isBad then none else some n) rest

/-- A table of keys and values that come by turns. -/
def ofChildren (children : List Node) : Node := table (pairUp [] none children)

end Node

/-! ## Reading nodes -/

/-- Tokens that are being read, with the names and tags that have come up. -/
structure Reading where
  tokens : List Token
  numbers : List (String × Nat) := []
  nodes : List (Nat × Node) := []
  count : Nat := 0
  stems : List (String × String) := []

/-- A step of reading, which may fail. -/
abbrev Read := StateT Reading Option

namespace Read

/-- The next token. -/
def peek : Read (Option Token) := do return (← get).tokens.head?

/-- Goes past a token. -/
def skip : Read Unit := modify fun r => { r with tokens := r.tokens.drop 1 }

/-- Whether the next token is one of these. -/
def isNext (tokens : List Token) : Read Bool := do
  return (← peek).any tokens.contains

/-- The address behind a tag's handle; a handle with a name must have been declared. -/
def resolved (handle suffix : String) : Read Node.Tag := do
  let stem := (← get).stems.find? fun s => s.1 = handle
  match stem with
  | some (_, stem) => return (stem, suffix)
  | none =>
    if handle = "!!" then return (Node.commonStem, suffix)
    else if Scan.isClosedHandle handle.toList then failure
    else return (handle, suffix)

/-- Gives a name to the node that follows: the number under which it will be found. -/
def named (name : String) : Read Nat := do
  let r ← get
  let number := r.count + 1
  set { r with numbers := (name, number) :: r.numbers, count := number }
  return number

/-- The node of a name that has come up; a node that is not finished is bad. -/
def found (name : String) : Read Node := do
  let r ← get
  match r.numbers.find? fun n => n.1 = name with
  | some (_, number) => return ((r.nodes.find? fun n => n.1 = number).map Prod.snd).getD .bad
  | none => failure

/-- Keeps a node that has a name. -/
def keep (number : Option Nat) (n : Node) : Read Node := do
  match number with
  | some number => modify fun r => { r with nodes := (number, n) :: r.nodes }
  | none => pure ()
  return n

/-- The name and the tag in front of a node, in either order. -/
def properties : Read (Option Nat × Option Node.Tag) := do
  match ← peek with
  | some (.anchor name) =>
    skip
    let number ← named name
    match ← peek with
    | some (.tag handle suffix) => skip; return (some number, some (← resolved handle suffix))
    | _ => return (some number, none)
  | some (.tag handle suffix) =>
    skip
    let tag ← resolved handle suffix
    match ← peek with
    | some (.anchor name) => skip; return (some (← named name), some tag)
    | _ => return (none, some tag)
  | _ => return (none, none)

mutual

/-- A node.  Collections that indentation opens stand only in blocks, and a list that is not
indented only as the value of a key. -/
def node : Nat → Bool → Bool → Read Node
  | 0, _, _ => failure
  | fuel + 1, inBlock, loose => do
    match ← peek with
    | some (.reference name) => skip; found name
    | _ =>
      let (number, tag) ← properties
      let n ← content fuel inBlock loose (number.isSome || tag.isSome) tag
      keep number n

/-- What stands behind the name and the tag of a node; with one of them it may be nothing. -/
def content : Nat → Bool → Bool → Bool → Option Node.Tag → Read Node
  | 0, _, _, _, _ => failure
  | fuel + 1, inBlock, loose, marked, tag => do
    match ← peek, inBlock, loose with
    | some .item, _, true => return .list (← looseItems fuel)
    | some (.scalar isPlain text), _, _ => skip; return .ofScalar tag isPlain text
    | some .flowListStart, _, _ => skip; return .list (← flowItems fuel true)
    | some .flowTableStart, _, _ => skip; return .ofChildren (← flowEntries fuel true)
    | some .listStart, true, _ => skip; return .list (← blockItems fuel)
    | some .tableStart, true, _ => skip; return .ofChildren (← blockEntries fuel)
    | _, _, _ => if marked then return .ofScalar tag true "" else failure

/-- A node, or nothing in front of one of these tokens. -/
def nodeUnless : Nat → List Token → Bool → Bool → Read Node
  | 0, _, _, _ => failure
  | fuel + 1, stops, inBlock, loose => do
    if ← isNext stops then return .null else node fuel inBlock loose

/-- The items of a list that indentation has opened. -/
def blockItems : Nat → Read (List Node)
  | 0 => failure
  | fuel + 1 => do
    match ← peek with
    | some .blockEnd => skip; return []
    | some .item =>
      skip
      let n ← nodeUnless fuel [.item, .blockEnd] true false
      return n :: (← blockItems fuel)
    | _ => failure

/-- The items of a list that is not indented. -/
def looseItems : Nat → Read (List Node)
  | 0 => failure
  | fuel + 1 => do
    match ← peek with
    | some .item =>
      skip
      let n ← nodeUnless fuel [.item, .key, .value, .blockEnd] true false
      return n :: (← looseItems fuel)
    | _ => return []

/-- The value behind a key; without the mark of a value it is nothing. -/
def valueNode : Nat → List Token → Bool → Read Node
  | 0, _, _ => failure
  | fuel + 1, stops, inBlock => do
    match ← peek with
    | some .value => skip; nodeUnless fuel stops inBlock inBlock
    | _ => return .null

/-- The keys and values, by turns, of a table that indentation has opened. -/
def blockEntries : Nat → Read (List Node)
  | 0 => failure
  | fuel + 1 => do
    let stops : List Token := [.key, .value, .blockEnd]
    match ← peek with
    | some .blockEnd => skip; return []
    | some .key =>
      skip
      let key ← nodeUnless fuel stops true true
      let v ← valueNode fuel stops true
      return key :: v :: (← blockEntries fuel)
    | some .value =>
      let v ← valueNode fuel stops true
      return .null :: v :: (← blockEntries fuel)
    | _ => failure

/-- The keys and values, by turns, of a table in braces. -/
def flowEntries : Nat → Bool → Read (List Node)
  | 0, _ => failure
  | fuel + 1, isFirst => do
    let stops : List Token := [.comma, .flowTableEnd]
    if ← isNext [.flowTableEnd] then skip; return []
    else
      if !isFirst then
        if ← isNext [.comma] then skip else failure
      match ← peek with
      | some .flowTableEnd => skip; return []
      | some .key =>
        skip
        let key ← nodeUnless fuel (.value :: stops) false false
        let v ← valueNode fuel stops false
        return key :: v :: (← flowEntries fuel false)
      | some .value =>
        let v ← valueNode fuel stops false
        return .null :: v :: (← flowEntries fuel false)
      | _ =>
        let key ← node fuel false false
        return key :: .null :: (← flowEntries fuel false)

/-- The items of a list in brackets; a pair in it is a table of its own. -/
def flowItems : Nat → Bool → Read (List Node)
  | 0, _ => failure
  | fuel + 1, isFirst => do
    let stops : List Token := [.comma, .flowListEnd]
    if ← isNext [.flowListEnd] then skip; return []
    else
      if !isFirst then
        if ← isNext [.comma] then skip else failure
      match ← peek with
      | some .flowListEnd => skip; return []
      | some .key =>
        skip
        let key ←
          if ← isNext (.value :: stops) then do skip; pure Node.null
          else node fuel false false
        let v ← valueNode fuel stops false
        return .ofChildren [key, v] :: (← flowItems fuel false)
      | _ =>
        let n ← node fuel false false
        return n :: (← flowItems fuel false)

end

/-! ## Documents -/

/-- Directives in front of a document.  Only the last one counts for tags, and a version is given at
most once. -/
def directives : Nat → Bool → Read Unit
  | 0, _ => failure
  | fuel + 1, versioned => do
    match ← peek with
    | some .version =>
      if versioned then failure
      else
        skip
        modify fun r => { r with stems := [] }
        directives fuel true
    | some (.handle handle stem) =>
      skip
      modify fun r => { r with stems := [(handle, stem)] }
      directives fuel versioned
    | _ => return ()

/-- Whether a directive comes next. -/
def isDirective : Read Bool := do
  match ← peek with
  | some .version => return true
  | some (.handle _ _) => return true
  | _ => return false

/-- A document that is started by its mark; it may be empty. -/
def markedDocument (fuel : Nat) : Read Node := do
  directives fuel false
  if ← isNext [.documentStart] then
    skip
    let isOver := (← isDirective) || (← isNext [.documentStart, .documentEnd]) || (← peek).isNone
    if isOver then return .null else node fuel true false
  else failure

/-- Goes past the mark of a document's end; tells whether there was one.  A directive needs one
before it. -/
def documentEnd : Read Bool := do
  modify fun r => { r with stems := [], numbers := [] }
  if ← isNext [.documentEnd] then
    skip
    return true
  else if ← isDirective then failure
  else return false

/-- Goes past the marks of documents' ends. -/
def dropEnds : Read Unit :=
  modify fun r => { r with tokens := r.tokens.dropWhile (· = .documentEnd) }

/-- The documents of a text; `bare` tells whether the next one may do without its mark. -/
def documents : Nat → Bool → Read (List Node)
  | 0, _ => failure
  | fuel + 1, bare => do
    dropEnds
    if (← peek).isNone then return []
    else
      let isMarked := (← isDirective) || (← isNext [.documentStart])
      let n ← if isMarked || !bare then markedDocument fuel else node fuel true false
      let ended ← documentEnd
      return n :: (← documents fuel ended)

end Read

/-- The documents of a text. -/
def documents? (text : List Char) : Option (List Node) :=
  match tokens? text with
  | some tokens => ((Read.documents (4 * tokens.length + 4) true).run { tokens }).map Prod.fst
  | none => none

end Switchboard.Settings.Yaml
