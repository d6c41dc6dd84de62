import Styller.Library.Fields
import Styller.Library.Rose

/-! OTB files: the loader that reads the tree of nodes in one pass, and the properties of a node without their escapes. -/

namespace Styller.OTB

open Library List

/-- Why a load stops: the format is refused, or a byte behind the end of the file is read. -/
inductive Failure where
  | invalidFormat
  | pastEnd

/-- A `Node` but for its children; the properties are between two places of the file, the second of which is not set at first. -/
structure Node where
  type : UInt8
  propsBegin : Nat
  propsEnd : Option Nat := none

namespace Node

def ESCAPE : UInt8 := 0xFD
def START : UInt8 := 0xFE
def END : UInt8 := 0xFF

end Node

open Node

/-- A node on the stack of the parser, with the children that are complete; one that is not is above it on the stack and is put
to the children when it is popped. -/
structure Frame where
  node : Node
  children : List (Rose Node) := []

/-- The properties end at the first child, or at the end of a node without children. -/
def Frame.close (frame : Frame) (it : Nat) : Frame :=
  if frame.children.isEmpty then { frame with node := { frame.node with propsEnd := some it } } else frame

structure State where
  parseStack : List Frame
  root : Option (Rose Node) := none

/-- A node is popped. -/
def State.pop (current : Frame) : List Frame → State
  | [] => ⟨[], some (.node current.node current.children)⟩
  | parent :: outer => ⟨{ parent with children := parent.children ++ [.node current.node current.children] } :: outer, none⟩

/-- The loop of `parseTree`, with the bytes from `it` on. -/
def parseLoop (it : Nat) (state : State) : List UInt8 → Except Failure State
  | [] => .ok state
  | byte :: rest =>
    if byte = START then
      match state.parseStack with
      | [] => .error .invalidFormat
      | current :: outer =>
        match rest with
        | [] => .error .invalidFormat
        | type :: rest =>
          parseLoop (it + 2) ⟨{ node := ⟨type, it + 2, none⟩ } :: current.close it :: outer, none⟩ rest
    else if byte = END then
      match state.parseStack with
      | [] => .error .invalidFormat
      | current :: outer => parseLoop (it + 1) (State.pop (current.close it) outer) rest
    else if byte = ESCAPE then
      match rest with
      | [] => .error .invalidFormat
      | _ :: rest => parseLoop (it + 2) state rest
    else parseLoop (it + 1) state rest

/-- `sizeof(Identifier)`. -/
def identifierSize : Nat := 4

def parseTree (fileContents : Bytes) : Except Failure (Rose Node) :=
  match fileContents.drop identifierSize with
  | start :: rest =>
    if start ≠ START then .error .invalidFormat
    else
      match rest with
      | type :: rest => do
        let begin := identifierSize + 2
        let state ← parseLoop begin ⟨[{ node := ⟨type, begin, none⟩ }], none⟩ rest
        match state.parseStack, state.root with
        | [], some root => .ok root
        | _, _ => .error .invalidFormat
      | [] => .error .pastEnd
  | [] => .error .pastEnd

def wildcard : Bytes := [0, 0, 0, 0]

/-- `sizeof(Identifier) + sizeof(Node::START) + sizeof(Node::type) + sizeof(Node::END)`. -/
def minimalSize : Nat := 7

/-- The constructor of `Loader`. -/
def openFile (fileContents acceptedIdentifier : Bytes) : Except Failure Unit :=
  let fileIdentifier := fileContents.take identifierSize
  if fileContents.length ≤ minimalSize then .error .invalidFormat
  else if fileIdentifier ≠ acceptedIdentifier ∧ fileIdentifier ≠ wildcard then .error .invalidFormat
  else .ok ()

/-- A file is opened and its tree is parsed. -/
def load (fileContents acceptedIdentifier : Bytes) : Except Failure (Rose Node) := do
  openFile fileContents acceptedIdentifier
  parseTree fileContents

def copyUnescaped (lastEscaped : Bool) : Bytes → Bytes
  | [] => []
  | byte :: rest =>
    let lastEscaped := byte = ESCAPE && !lastEscaped
    if lastEscaped then copyUnescaped lastEscaped rest else byte :: copyUnescaped lastEscaped rest

/-- `Loader::getProps`: the bytes for the stream, and none if it answers false. -/
def getProps (fileContents : Bytes) (node : Node) : Option Bytes :=
  match node.propsEnd with
  | some propsEnd =>
    let props := (fileContents.drop node.propsBegin).take (propsEnd - node.propsBegin)
    if propsEnd - node.propsBegin = 0 then none else some (copyUnescaped false props)
  | none => none

/-- The properties of a node are between two places inside the file. -/
def Inside (size : Nat) (node : Node) : Prop := ∃ propsEnd, node.propsEnd = some propsEnd ∧ node.propsBegin ≤ propsEnd ∧ propsEnd ≤ size

/-- A load ends with a refusal, or with a tree whose properties are all inside the file. -/
def Safe (size : Nat) : Except Failure (Rose Node) → Prop
  | .ok root => root.All fun node _ => Inside size node
  | .error failure => failure = .invalidFormat

def escape (props : Bytes) : Bytes :=
  props.flatMap fun byte => if byte = START ∨ byte = END ∨ byte = ESCAPE then [ESCAPE, byte] else [byte]

def encode : Rose (UInt8 × Bytes) → Bytes :=
  Rose.fold fun value children => START :: value.1 :: (escape value.2 ++ (children.flatten ++ [END]))

def readNode (fileContents : Bytes) (node : Node) : UInt8 × Option Bytes := (node.type, getProps fileContents node)

/-- What there is to read of a node: a node without properties answers none. -/
def written (value : UInt8 × Bytes) : UInt8 × Option Bytes := (value.1, if value.2 = [] then none else some value.2)

section
variable {props rest : Bytes}

theorem escape_cons (byte : UInt8) (props : Bytes) : escape (byte :: props) =
    (if byte = START ∨ byte = END ∨ byte = ESCAPE then [ESCAPE, byte] else [byte]) ++ escape props := flatMap_cons

theorem escape_eq_nil : escape props = [] ↔ props = [] := by
  cases props with
  | nil => exact iff_of_true rfl rfl
  | cons byte props =>
    refine iff_of_false ?_ (cons_ne_nil byte props)
    rw [escape_cons]
    split
    · exact cons_ne_nil _ _
    · exact cons_ne_nil _ _

theorem copyUnescaped_escape (props : Bytes) : copyUnescaped false (escape props) = props := by
  induction props with
  | nil => rfl
  | cons byte props ih =>
    rw [escape_cons]
    split
    · simp [copyUnescaped, ih]
    · rename_i plain
      have other : byte ≠ ESCAPE := fun same => plain (.inr (.inr same))
      simp [copyUnescaped, ih, other]

theorem parseLoop_start (it : Nat) (current : Frame) (outer : List Frame) (root : Option (Rose Node)) (type : UInt8) (rest : Bytes) :
    parseLoop it ⟨current :: outer, root⟩ (START :: type :: rest) =
      parseLoop (it + 2) ⟨{ node := ⟨type, it + 2, none⟩ } :: current.close it :: outer, none⟩ rest := by
  simp only [parseLoop, if_true]

theorem parseLoop_end (it : Nat) (current : Frame) (outer : List Frame) (root : Option (Rose Node)) (rest : Bytes) :
    parseLoop it ⟨current :: outer, root⟩ (END :: rest) = parseLoop (it + 1) (State.pop (current.close it) outer) rest := by
  have other : END ≠ START := by decide
  cases rest with
  | nil => simp only [parseLoop, if_neg other, if_true]
  | cons next rest => simp only [parseLoop, if_neg other, if_true]

theorem parseLoop_skip (it : Nat) (state : State) (byte : UInt8) (rest : Bytes) :
    parseLoop it state (ESCAPE :: byte :: rest) = parseLoop (it + 2) state rest := by
  have notStart : ESCAPE ≠ START := by decide
  have notEnd : ESCAPE ≠ END := by decide
  simp only [parseLoop, if_neg notStart, if_neg notEnd, if_true]

theorem parseLoop_plain {byte : UInt8} (plain : ¬ (byte = START ∨ byte = END ∨ byte = ESCAPE)) (it : Nat) (state : State) (rest : Bytes) :
    parseLoop it state (byte :: rest) = parseLoop (it + 1) state rest := by
  rw [not_or, not_or] at plain
  obtain ⟨notStart, notEnd, notEscape⟩ := plain
  cases rest with
  | nil => simp only [parseLoop, if_neg notStart, if_neg notEnd, if_neg notEscape]
  | cons next rest => simp only [parseLoop, if_neg notStart, if_neg notEnd, if_neg notEscape]

/-- The parser goes through escaped properties without a change. -/
theorem parseLoop_escape (it : Nat) (state : State) (props rest : Bytes) :
    parseLoop it state (escape props ++ rest) = parseLoop (it + (escape props).length) state rest := by
  induction props generalizing it with
  | nil => rfl
  | cons byte props ih =>
    rw [escape_cons, append_assoc]
    split
    · rw [cons_append, cons_append, nil_append, parseLoop_skip, ih, length_append, length_cons,
        length_cons, length_nil, Nat.add_assoc]
    · rename_i plain
      rw [singleton_append, parseLoop_plain plain, ih, length_append, length_singleton, Nat.add_assoc]

theorem encode_node (value : UInt8 × Bytes) (children : List (Rose (UInt8 × Bytes))) :
    encode (.node value children) = START :: value.1 :: (escape value.2 ++ ((children.map encode).flatten ++ [END])) :=
  Rose.fold_node _ _ _

end

/-- A node that is parsed from a place has the type and the properties that are written there, and so have those below it, in
every file that has these bytes at this place. -/
def Reads (it : Nat) (tree : Rose (UInt8 × Bytes)) (node : Rose Node) : Prop :=
  ∀ before rest, before.length = it →
    node.map (readNode (before ++ encode tree ++ rest)) = tree.map written

/-- The frame when children have been read behind a place. -/
def Frame.adopt (frame : Frame) (it : Nat) (nodes : List (Rose Node)) : Frame :=
  match nodes with
  | [] => frame
  | _ => { frame.close it with children := frame.children ++ nodes }

theorem adopt_adopt (frame : Frame) (it next : Nat) (node : Rose Node) (nodes : List (Rose Node)) :
    (frame.adopt it [node]).adopt next nodes = frame.adopt it (node :: nodes) := by
  cases nodes with
  | nil => rfl
  | cons second nodes =>
    have stays : ∀ (closed : Frame), ({ closed with children := frame.children ++ [node] } : Frame).close next =
        { closed with children := frame.children ++ [node] } := by
      intro closed
      exact if_neg (by simp)
    simp only [Frame.adopt]
    rw [stays]
    simp only [append_assoc, singleton_append]

theorem close_children (frame : Frame) (it : Nat) : (frame.close it).children = frame.children := by
  unfold Frame.close
  split
  · rfl
  · rfl

section
variable {children : List (Rose (UInt8 × Bytes))}

/-- Behind a place, a tree is read as one more node of the frame on top. -/
def Parses (it : Nat) (tree : Rose (UInt8 × Bytes)) (node : Rose Node) : Prop :=
  ∀ frame outer rest, parseLoop it ⟨frame :: outer, none⟩ (encode tree ++ rest) =
    parseLoop (it + (encode tree).length) ⟨frame.adopt it [node] :: outer, none⟩ rest

/-- Children one after the other are read as what each of them is. -/
theorem parseLoop_children (each : ∀ child ∈ children, ∀ it, ∃ node, Reads it child node ∧ Parses it child node) (it : Nat) :
    ∃ nodes, (∀ before rest, before.length = it → nodes.map (Rose.map (readNode (before ++ (children.map encode).flatten ++ rest))) =
        children.map (Rose.map written)) ∧ ∀ frame outer rest,
      parseLoop it ⟨frame :: outer, none⟩ ((children.map encode).flatten ++ rest) =
        parseLoop (it + (children.map encode).flatten.length) ⟨frame.adopt it nodes :: outer, none⟩ rest := by
  induction children generalizing it with
  | nil => exact ⟨[], fun _ _ _ => rfl, fun _ _ _ => rfl⟩
  | cons child later ih =>
    obtain ⟨node, reads, parsed⟩ := each child mem_cons_self it
    obtain ⟨nodes, readsLater, parsedLater⟩ := ih (fun other listed => each other (mem_cons_of_mem _ listed))
      (it + (encode child).length)
    refine ⟨node :: nodes, ?_, ?_⟩
    · intro before rest place
      have first := reads before ((later.map encode).flatten ++ rest) place
      have others := readsLater (before ++ encode child) rest (by rw [length_append, place])
      rw [append_assoc] at others
      have whole : before ++ ((child :: later).map encode).flatten ++ rest =
          before ++ encode child ++ ((later.map encode).flatten ++ rest) := by
        rw [map_cons, flatten_cons, append_assoc, append_assoc, append_assoc]
      rw [whole]
      exact congrArg₂ List.cons first others
    · intro frame outer rest
      rw [map_cons, flatten_cons, append_assoc, parsed, parsedLater, length_append, Nat.add_assoc, adopt_adopt]

/-- The frame of a node when its end comes. -/
theorem close_adopt {type : UInt8} {begin stop last : Nat} {nodes : List (Rose Node)} (here : nodes = [] → last = stop) :
    (({ node := ⟨type, begin, none⟩ } : Frame).adopt stop nodes).close last = ⟨⟨type, begin, some stop⟩, nodes⟩ := by
  cases nodes with
  | nil =>
    rw [here rfl]
    rfl
  | cons node nodes => rfl

/-- The properties are found again between the start of a node and its first child or its end. -/
theorem readNode_here {it : Nat} (value : UInt8 × Bytes) (children : List (Rose (UInt8 × Bytes))) (before rest : Bytes)
    (place : before.length = it) :
    readNode (before ++ encode (.node value children) ++ rest) ⟨value.1, it + 2, some (it + 2 + (escape value.2).length)⟩ =
      written value := by
  have slice : ((before ++ encode (.node value children) ++ rest).drop (it + 2)).take (escape value.2).length = escape value.2 := by
    have split : before ++ encode (.node value children) ++ rest =
        (before ++ [START, value.1]) ++ (escape value.2 ++ ((children.map encode).flatten ++ [END] ++ rest)) := by
      rw [encode_node]
      simp only [append_assoc, cons_append, nil_append]
    have ahead : (before ++ [START, value.1]).length = it + 2 := by
      rw [length_append, place]
      rfl
    rw [split, drop_left' ahead, take_left]
  rw [readNode, written, getProps]
  simp only [Nat.add_sub_cancel_left, slice, copyUnescaped_escape]
  by_cases none : value.2 = []
  · rw [if_pos (by rw [none]; rfl), if_pos none]
  · rw [if_neg (fun zero => none (escape_eq_nil.mp (eq_nil_of_length_eq_zero zero))), if_neg none]

/-- Between the start of a node and its end are its escaped properties and its children. -/
theorem parseLoop_inner (value : UInt8 × Bytes) (each : ∀ child ∈ children, ∀ it, ∃ node, Reads it child node ∧ Parses it child node)
    (it : Nat) : ∃ node, Reads it (.node value children) node ∧ ∀ outer rest,
      parseLoop (it + 2) ⟨{ node := ⟨value.1, it + 2, none⟩ } :: outer, none⟩
          (escape value.2 ++ ((children.map encode).flatten ++ [END]) ++ rest) =
        parseLoop (it + (encode (.node value children)).length) (State.pop ⟨node.value, node.children⟩ outer) rest := by
  obtain ⟨nodes, reads, parsed⟩ := parseLoop_children each (it + 2 + (escape value.2).length)
  have last : nodes = [] → it + 2 + (escape value.2).length + (children.map encode).flatten.length =
      it + 2 + (escape value.2).length := by
    intro none
    have count := congrArg List.length (reads (List.replicate (it + 2 + (escape value.2).length) 0) [] length_replicate)
    rw [none, map_nil, length_nil, length_map] at count
    rw [eq_nil_of_length_eq_zero count.symm]
    rfl
  refine ⟨.node ⟨value.1, it + 2, some (it + 2 + (escape value.2).length)⟩ nodes, ?_, ?_⟩
  · intro before rest place
    have whole : before ++ encode (.node value children) ++ rest =
        (before ++ START :: value.1 :: escape value.2) ++ (children.map encode).flatten ++ ([END] ++ rest) := by
      rw [encode_node]
      simp only [append_assoc, cons_append]
    have behind : (before ++ START :: value.1 :: escape value.2).length = it + 2 + (escape value.2).length := by
      rw [length_append, length_cons, length_cons, place]
      omega
    have below := reads (before ++ START :: value.1 :: escape value.2) ([END] ++ rest) behind
    rw [Rose.map_node, Rose.map_node, whole, below]
    congr 1
    rw [← whole]
    exact readNode_here value children before rest place
  · intro outer rest
    rw [append_assoc, parseLoop_escape, append_assoc, parsed, singleton_append, parseLoop_end, close_adopt last]
    rw [encode_node]
    simp only [length_cons, length_append, length_nil, Rose.value, Rose.children]
    congr 1
    omega

theorem parseLoop_encode (tree : Rose (UInt8 × Bytes)) (it : Nat) : ∃ node, Reads it tree node ∧ Parses it tree node := by
  induction tree using Rose.induct generalizing it with
  | node value children ih =>
    obtain ⟨node, reads, inner⟩ := parseLoop_inner value ih it
    refine ⟨node, reads, ?_⟩
    intro frame outer rest
    rw [encode_node, cons_append, cons_append, parseLoop_start, inner, encode_node]
    cases node with
    | node node nodes =>
      simp only [State.pop, Frame.adopt, Rose.value, Rose.children, close_children]

/-- The tree of a file that is written is parsed again. -/
theorem parseTree_encode {identifier : Bytes} (size : identifier.length = identifierSize) (tree : Rose (UInt8 × Bytes)) :
    ∃ root, parseTree (identifier ++ encode tree) = .ok root ∧
      root.map (readNode (identifier ++ encode tree)) = tree.map written := by
  cases tree with
  | node value children =>
    have each : ∀ child ∈ children, ∀ it, ∃ node, Reads it child node ∧ Parses it child node :=
      fun child _ it => parseLoop_encode child it
    obtain ⟨root, reads, inner⟩ := parseLoop_inner value each identifierSize
    refine ⟨root, ?_, ?_⟩
    · have parsed := inner [] []
      rw [append_nil] at parsed
      have body : (identifier ++ encode (.node value children)).drop identifierSize =
          START :: value.1 :: (escape value.2 ++ ((children.map encode).flatten ++ [END])) := by
        rw [drop_left' size, encode_node]
      unfold parseTree
      rw [body]
      simp only [ne_eq, not_true_eq_false, if_false]
      rw [parsed]
      cases root with
      | node node nodes => rfl
    · have found := reads identifier [] size
      rwa [append_nil] at found

end

section
variable {size it next : Nat} {frame : Frame} {state : State}

/-- What is known of the node on top of the stack: where its properties begin, and where they end if it has a child. -/
structure Frame.Good (size it : Nat) (frame : Frame) : Prop where
  begins : frame.children = [] → frame.node.propsBegin ≤ it
  ended : frame.children ≠ [] → Inside size frame.node
  children : ∀ child ∈ frame.children, child.All fun node _ => Inside size node

/-- What is known of a node whose properties have ended. -/
structure Frame.Ended (size : Nat) (frame : Frame) : Prop where
  ended : Inside size frame.node
  children : ∀ child ∈ frame.children, child.All fun node _ => Inside size node

/-- What the parser has at a place. -/
def State.Good (size it : Nat) (state : State) : Prop :=
  (∀ root, state.root = some root → root.All fun node _ => Inside size node) ∧
    match state.parseStack with
    | [] => True
    | current :: outer => current.Good size it ∧ ∀ frame ∈ outer, frame.Ended size

theorem ended_close (good : frame.Good size it) (within : it ≤ size) : (frame.close it).Ended size := by
  unfold Frame.close
  split
  · rename_i none
    have childless := List.isEmpty_iff.mp none
    exact ⟨⟨it, rfl, good.begins childless, within⟩, good.children⟩
  · rename_i some
    exact ⟨good.ended fun none => some (List.isEmpty_iff.mpr none), good.children⟩

theorem Frame.Good.later (good : frame.Good size it) (more : it ≤ next) : frame.Good size next :=
  ⟨fun none => Nat.le_trans (good.begins none) more, good.ended, good.children⟩

theorem State.Good.later (good : state.Good size it) (more : it ≤ next) : state.Good size next := by
  obtain ⟨root, stack⟩ := good
  refine ⟨root, ?_⟩
  cases same : state.parseStack with
  | nil => trivial
  | cons current outer =>
    rw [same] at stack
    exact ⟨stack.1.later more, stack.2⟩

/-- A node that is popped is whole, and its parent has a child now. -/
theorem good_pop {current : Frame} {outer : List Frame} (ended : current.Ended size) (others : ∀ frame ∈ outer, frame.Ended size)
    (it : Nat) : (State.pop current outer).Good size it := by
  have whole : (Rose.node current.node current.children).All fun node _ => Inside size node := .node ended.ended ended.children
  cases outer with
  | nil =>
    refine ⟨?_, trivial⟩
    intro root same
    cases same
    exact whole
  | cons parent outer =>
    have parentEnded := others parent mem_cons_self
    refine ⟨nofun, ?_, fun frame listed => others frame (mem_cons_of_mem _ listed)⟩
    constructor
    · intro none
      exact absurd none (by simp)
    · exact fun _ => parentEnded.ended
    · intro child listed
      rcases mem_append.mp listed with before | new
      · exact parentEnded.children child before
      · cases mem_singleton.mp new
        exact whole

/-- A node that starts has its properties behind its type. -/
theorem good_push {current : Frame} {outer : List Frame} (ended : current.Ended size) (others : ∀ frame ∈ outer, frame.Ended size)
    (type : UInt8) : State.Good size it ⟨{ node := ⟨type, it, none⟩ } :: current :: outer, none⟩ := by
  refine ⟨nofun, ?_, ?_⟩
  · exact ⟨fun _ => Nat.le_refl it, fun some => absurd rfl some, nofun⟩
  · intro frame listed
    rcases mem_cons.mp listed with rfl | other
    · exact ended
    · exact others frame other

/-- Whatever the bytes are, the parser stops with a refusal or with ranges inside the file. -/
theorem parseLoop_good {bytes : Bytes} (good : state.Good size it) (whole : it + bytes.length = size) :
    match parseLoop it state bytes with
    | .ok after => after.Good size size
    | .error failure => failure = .invalidFormat := by
  fun_induction parseLoop it state bytes with
  | case1 it state =>
    rw [length_nil, Nat.add_zero] at whole
    exact whole ▸ good
  | case2 it state rest none => rfl
  | case3 it state current outer some => rfl
  | case4 it state current outer some type rest ih =>
    rw [State.Good, some] at good
    rw [length_cons, length_cons] at whole
    apply ih
    · exact good_push (ended_close good.2.1 (by omega)) good.2.2 type
    · omega
  | case5 it state rest none => rfl
  | case6 it state rest current outer some notStart ih =>
    rw [State.Good, some] at good
    rw [length_cons] at whole
    apply ih
    · exact good_pop (ended_close good.2.1 (by omega)) good.2.2 _
    · omega
  | case7 it state notStart notEnd => rfl
  | case8 it state byte rest notStart notEnd ih =>
    rw [length_cons, length_cons] at whole
    apply ih
    · exact good.later (Nat.le_add_right it 2)
    · omega
  | case9 it state byte rest notStart notEnd notEscape ih =>
    rw [length_cons] at whole
    apply ih
    · exact good.later (Nat.le_add_right it 1)
    · omega

/-- A file that is long enough is parsed or refused. -/
theorem parseTree_safe {fileContents : Bytes} (long : minimalSize < fileContents.length) :
    Safe fileContents.length (parseTree fileContents) := by
  have size : (fileContents.drop identifierSize).length + identifierSize = fileContents.length := by
    rw [length_drop]
    exact Nat.sub_add_cancel (Nat.le_of_lt (Nat.lt_trans (by decide) long))
  unfold parseTree
  cases body : fileContents.drop identifierSize with
  | nil =>
    rw [body, length_nil, Nat.zero_add] at size
    exact absurd (size ▸ long) (by decide)
  | cons start rest =>
    rw [body, length_cons] at size
    simp only
    by_cases other : start ≠ START
    · rw [if_pos other]
      rfl
    · rw [if_neg other]
      cases rest with
      | nil =>
        rw [← size] at long
        exact absurd long (by decide)
      | cons type rest =>
        rw [length_cons] at size
        have good : State.Good fileContents.length (identifierSize + 2) ⟨[{ node := ⟨type, identifierSize + 2, none⟩ }], none⟩ :=
          ⟨nofun, ⟨fun _ => Nat.le_refl _, fun some => absurd rfl some, nofun⟩, nofun⟩
        have safe := parseLoop_good good (by omega : identifierSize + 2 + rest.length = fileContents.length)
        cases parsed : parseLoop (identifierSize + 2) ⟨[{ node := ⟨type, identifierSize + 2, none⟩ }], none⟩ rest with
        | error failure =>
          rw [parsed] at safe
          simp only [parsed]
          exact safe
        | ok after =>
          rw [parsed] at safe
          simp only [parsed]
          obtain ⟨root, -⟩ := safe
          obtain ⟨stack, popped⟩ := after
          cases stack with
          | nil =>
            cases popped with
            | none => rfl
            | some node => exact root node rfl
          | cons current outer => rfl

end

/-- Every byte string is refused or parsed to a tree whose properties are inside the file, and no byte behind its end is read. A
tree that is written with starts, ends and escapes behind an identifier that is accepted, if it is more than a lone node without
properties, is parsed again, with the properties of every node that has some. -/
theorem trees_loaded :
    (∀ fileContents acceptedIdentifier, Safe fileContents.length (load fileContents acceptedIdentifier)) ∧
    ∀ identifier acceptedIdentifier tree, identifier.length = identifierSize →
      identifier = acceptedIdentifier ∨ identifier = wildcard → 3 < (encode tree).length →
        ∃ root, load (identifier ++ encode tree) acceptedIdentifier = .ok root ∧
          root.map (readNode (identifier ++ encode tree)) = tree.map written := by
  constructor
  · intro fileContents acceptedIdentifier
    unfold load openFile
    simp only
    by_cases short : fileContents.length ≤ minimalSize
    · rw [if_pos short]
      rfl
    · rw [if_neg short]
      split
      · rfl
      · exact parseTree_safe (Nat.lt_of_not_le short)
  · intro identifier acceptedIdentifier tree size accepted long
    obtain ⟨root, parsed, reads⟩ := parseTree_encode size tree
    refine ⟨root, ?_, reads⟩
    have enough : ¬ (identifier ++ encode tree).length ≤ minimalSize := by
      rw [length_append, size]
      exact Nat.not_le.mpr (Nat.add_lt_add_left long 4)
    have known : ¬ (identifier ≠ acceptedIdentifier ∧ identifier ≠ wildcard) := by
      rintro ⟨other, plain⟩
      exact accepted.elim other plain
    unfold load openFile
    rw [take_left' size]
    simp only
    rw [if_neg enough, if_neg known]
    exact parsed

def specimen : Rose (UInt8 × Bytes) := .node (1, [START]) [.node (2, []) []]

theorem trees_loaded_specimen : ∃ root, load (wildcard ++ encode specimen) wildcard = .ok root ∧
    root.map (readNode (wildcard ++ encode specimen)) = specimen.map written :=
  trees_loaded.2 wildcard wildcard specimen rfl (.inl rfl) (by decide)

/-- The child has its properties from one place to the same place, for which the answer is false, and a file with a lone node
is refused. -/
theorem specimen_unanswered :
    load (wildcard ++ encode specimen) wildcard =
      .ok (.node ⟨1, 6, some 8⟩ [.node ⟨2, 10, some 10⟩ []]) ∧
    getProps (wildcard ++ encode specimen) ⟨2, 10, some 10⟩ = none ∧
    load (wildcard ++ encode (.node (1, []) [])) wildcard = .error .invalidFormat :=
  ⟨rfl, rfl, rfl⟩

end Styller.OTB
