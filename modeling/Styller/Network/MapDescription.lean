import Styller.Condition.Condition
import Styller.Item.Codec
import Styller.Library.Skips
import Styller.Network.OutputBuffer
import Styller.Tile.Description

/-! The description of the map that a client is sent: what `GetMapDescription` adds to a message, and what a client reads in it. -/

namespace Styller

open Library Reader Memory List

def fluidMap : List UInt8 := [0, 1, 5, 3, 6, 8, 9, 2]

/-- What `AddCreature` asks about a creature, and about the player and that creature. -/
structure CreatureView where
  name : Bytes := []
  isHealthHidden : Bool := false
  /-- The health in hundredths of the maximum, rounded up. -/
  healthPercent : UInt8 := 100
  direction : UInt8 := 0
  isInGhostMode : Bool := false
  isInvisible : Bool := false
  currentOutfit : Outfit := {}
  lightLevel : UInt8 := 0
  lightColor : UInt8 := 0
  stepSpeed : UInt16 := 0
  skullClient : UInt8 := 0
  partyShield : UInt8 := 0
  guildEmblem : UInt8 := 0
  canWalkthroughEx : Bool := false

/-- A protocol with its player, the map and what is on it; `Known` stands for its set of known creatures. -/
structure ProtocolGame (Known : Type) where
  env : Env
  game : Game
  player : Viewer
  isAccessPlayer : Bool := false
  getTile : UInt16 → UInt16 → UInt8 → Option TileStack
  creature : CreatureId → CreatureView
  /-- Whether the creature is known, the one that is to be forgotten, and the set after that. -/
  isKnownCreature : Known → CreatureId → (Bool × UInt32) × Known

namespace ProtocolGame

variable {Known : Type} (protocol : ProtocolGame Known)

/-- `NetworkMessage::addItem`. -/
def addItem (item : Item) : List AddCall :=
  let it := protocol.env.items.get item.id
  .add (write it.clientId) ::
    if it.stackable then [.add [UInt8.ofNat (min 0xFF item.count)]]
    else if it.isSplash || it.isFluidContainer then [.add [fluidMap.getD (item.getFluidType % 8) 0]]
    else []

def addOutfit (outfit : Outfit) : List AddCall :=
  .add (write outfit.lookType) ::
    if outfit.lookType ≠ 0 then
      [.add [outfit.lookHead], .add [outfit.lookBody], .add [outfit.lookLegs], .add [outfit.lookFeet], .add [outfit.lookAddons]]
    else [.add (write (protocol.env.items.get outfit.lookTypeEx.toNat).clientId)]

/-- The first calls of `AddCreature`. -/
def addCreatureHead (id : CreatureId) (known : Bool) (remove : UInt32) : List AddCall :=
  if known then [.add (write (0x62 : UInt16)), .add (write (UInt32.ofNat id))]
  else [.add (write (0x61 : UInt16)), .add (write remove), .add (write (UInt32.ofNat id)), .addString (protocol.creature id).name]

def addCreature (id : CreatureId) (known : Bool) (remove : UInt32) : List AddCall :=
  let creature := protocol.creature id
  protocol.addCreatureHead id known remove ++
    [.add [if creature.isHealthHidden then 0 else creature.healthPercent], .add [creature.direction]] ++
    protocol.addOutfit (if ¬ creature.isInGhostMode ∧ ¬ creature.isInvisible then creature.currentOutfit else {}) ++
    [.add [if protocol.isAccessPlayer then 0xFF else creature.lightLevel], .add [creature.lightColor],
      .add (write creature.stepSpeed), .add [creature.skullClient], .add [creature.partyShield]] ++
    (if ¬ known then [.add [creature.guildEmblem]] else []) ++ [.add [if creature.canWalkthroughEx then 0 else 1]]

def addThing (known : Known) : Thing → List AddCall × Known
  | .item ptr => (protocol.addItem (protocol.game.items ptr), known)
  | .creature id =>
    let ((isKnown, remove), known) := protocol.isKnownCreature known id
    (protocol.addCreature id isKnown remove, known)

def addThings : Known → List Thing → List AddCall × Known
  | known, [] => ([], known)
  | known, thing :: rest =>
    let (calls, known) := protocol.addThing known thing
    let (more, known) := addThings known rest
    (calls ++ more, known)

/-- `GetTileDescription` for a tile of the map. -/
def getTileDescription (known : Known) (x y : UInt16) (z : UInt8) (tile : TileStack) : List AddCall × Known :=
  protocol.addThings known (tile.getTileDescription protocol.player ⟨x.toNat, y.toNat, z.toNat⟩)

/-- A description of the map as it goes. -/
structure Describing (Known : Type) where
  calls : List AddCall := []
  known : Known
  skip : Int := -1

def flushSkip (skip : Int) : List AddCall :=
  if skip ≥ 0 then [.add [UInt8.ofNat skip.toNat], .add [0xFF]] else []

/-- The body of the loops in `GetFloorDescription`. -/
def addTile (state : Describing Known) (x y : UInt16) (z : UInt8) : Describing Known :=
  match protocol.getTile x y z with
  | some tile =>
    let (calls, known) := protocol.getTileDescription state.known x y z tile
    { calls := state.calls ++ flushSkip state.skip ++ calls, known, skip := 0 }
  | none =>
    if state.skip + 1 = 0xFF then { state with calls := state.calls ++ [.add [0xFF], .add [0xFF]], skip := -1 }
    else { state with skip := state.skip + 1 }

def getFloorDescription (state : Describing Known) (x y z : Int) (width height : Nat) (offset : Int) : Describing Known :=
  (List.range width).foldl (fun state (nx : Nat) => (List.range height).foldl (fun state (ny : Nat) =>
    protocol.addTile state (UInt16.ofInt (x + nx + offset)) (UInt16.ofInt (y + ny + offset)) (UInt8.ofInt z)) state) state

/-- Floors with their offsets one after the other, and the last count of empty tiles; the messages for a change of the floor
are made of these too. -/
def describeFloors (known : Known) (x y : Int) (width height : Nat) (floors : List (Int × Int)) : List AddCall × Known :=
  let state := floors.foldl (fun state floor => protocol.getFloorDescription state x y floor.1 width height floor.2)
    { calls := [], known, skip := -1 }
  (state.calls ++ flushSkip state.skip, state.known)

/-- The floors that `GetMapDescription` goes through. -/
def mapFloors (z : Nat) : List Nat :=
  if z > 7 then List.range' (z - 2) (min 15 (z + 2) + 1 - (z - 2)) else [7, 6, 5, 4, 3, 2, 1, 0]

def getMapDescription (known : Known) (x y : Int) (z width height : Nat) : List AddCall × Known :=
  protocol.describeFloors known x y width height ((mapFloors z).map (fun nz => (nz, (z : Int) - nz)))

end ProtocolGame

inductive ClientOutfit where
  | person (lookType : UInt16) (colors : UInt8 × UInt8 × UInt8 × UInt8 × UInt8)
  | item (clientId : UInt16)

/-- What a client knows of a creature: its id, the creature to forget for it and its name if it is new, the health and the
direction, the outfit, the light, the speed and the marks, the emblem if it is new, and whether it stands in the way. -/
structure ClientCreature where
  id : UInt32
  introduced : Option (UInt32 × Bytes)
  health : UInt8 × UInt8
  outfit : ClientOutfit
  look : UInt8 × UInt8 × UInt16 × UInt8 × UInt8
  emblem : Option UInt8
  unpassable : UInt8

/-- A thing on a tile of the client: an item has a second value when its kind has one. -/
inductive ClientThing where
  | item (clientId : UInt16) (subType : Option UInt8)
  | creature (creature : ClientCreature)

def readOutfit : Reader ClientOutfit := do
  let lookType ← read UInt16
  if lookType = 0 then
    let clientId ← read UInt16
    pure (.item clientId)
  else
    let colors ← read (UInt8 × UInt8 × UInt8 × UInt8 × UInt8)
    pure (.person lookType colors)

def readIntroduced (known : Bool) : Reader (UInt32 × Option (UInt32 × Bytes)) :=
  if known then do
    let id ← read UInt32
    pure (id, none)
  else do
    let remove ← read UInt32
    let id ← read UInt32
    let name ← readString
    pure (id, some (remove, name))

def readEmblem (known : Bool) : Reader (Option UInt8) :=
  if known then pure none
  else do
    let emblem ← read UInt8
    pure (some emblem)

def readCreature (known : Bool) : Reader ClientCreature := do
  let (id, introduced) ← readIntroduced known
  let health ← read (UInt8 × UInt8)
  let outfit ← readOutfit
  let look ← read (UInt8 × UInt8 × UInt16 × UInt8 × UInt8)
  let emblem ← readEmblem known
  let unpassable ← read UInt8
  pure { id, introduced, health, outfit, look, emblem, unpassable }

/-- A client reads a thing: the word in front is the mark of a creature or the id of an item, and the client's own table says
which items have a second value. -/
def readThing (hasSubType : UInt16 → Bool) : Reader ClientThing := do
  let mark ← read UInt16
  if mark = 0x62 then
    let creature ← readCreature true
    pure (.creature creature)
  else if mark = 0x61 then
    let creature ← readCreature false
    pure (.creature creature)
  else if hasSubType mark then
    let subType ← read UInt8
    pure (.item mark (some subType))
  else pure (.item mark none)

/-- What a call puts behind what is in the message, if it is not refused; padding is put where the message goes on. -/
def AddCall.appended : AddCall → Bytes
  | add bytes => bytes
  | addBytes bytes => bytes
  | addPaddingBytes _ => []
  | addString value => write (UInt16.ofNat value.length) ++ value
  | addPosition x y z => write x ++ write y ++ [z]

def appended (calls : List AddCall) : Bytes := calls.flatMap AddCall.appended

namespace ProtocolGame

variable {Known : Type} (protocol : ProtocolGame Known)

def toldItem (item : Item) : ClientThing :=
  let it := protocol.env.items.get item.id
  .item it.clientId (
    if it.stackable then some (UInt8.ofNat (min 0xFF item.count))
    else if it.isSplash || it.isFluidContainer then some (fluidMap.getD (item.getFluidType % 8) 0)
    else none)

def toldOutfit (outfit : Outfit) : ClientOutfit :=
  if outfit.lookType = 0 then .item (protocol.env.items.get outfit.lookTypeEx.toNat).clientId
  else .person outfit.lookType (outfit.lookHead, outfit.lookBody, outfit.lookLegs, outfit.lookFeet, outfit.lookAddons)

def toldCreature (id : CreatureId) (known : Bool) (remove : UInt32) : ClientCreature :=
  let creature := protocol.creature id
  { id := UInt32.ofNat id
    introduced := if known then none else some (remove, creature.name)
    health := (if creature.isHealthHidden then 0 else creature.healthPercent, creature.direction)
    outfit := protocol.toldOutfit (if ¬ creature.isInGhostMode ∧ ¬ creature.isInvisible then creature.currentOutfit else {})
    look := (if protocol.isAccessPlayer then 0xFF else creature.lightLevel, creature.lightColor, creature.stepSpeed,
      creature.skullClient, creature.partyShield)
    emblem := if known then none else some creature.guildEmblem
    unpassable := if creature.canWalkthroughEx then 0 else 1 }

def toldThing (known : Known) : Thing → ClientThing
  | .item ptr => protocol.toldItem (protocol.game.items ptr)
  | .creature id =>
    let ((isKnown, remove), _) := protocol.isKnownCreature known id
    .creature (protocol.toldCreature id isKnown remove)

def toldThings : Known → List Thing → List ClientThing
  | _, [] => []
  | known, thing :: rest => protocol.toldThing known thing :: toldThings (protocol.addThing known thing).2 rest

end ProtocolGame

section
variable {Known : Type} {protocol : ProtocolGame Known}

theorem appended_append (first second : List AddCall) : appended (first ++ second) = appended first ++ appended second :=
  flatMap_append

theorem appended_add {Value : Type} [Raw Value] (value : Value) (calls : List AddCall) :
    appended (.add (write value) :: calls) = write value ++ appended calls := rfl

theorem reads_outfit (outfit : Outfit) :
    Reads readOutfit (appended (protocol.addOutfit outfit)) (protocol.toldOutfit outfit) := by
  unfold readOutfit ProtocolGame.addOutfit ProtocolGame.toldOutfit
  rw [appended_add]
  apply Reads.bind (Reads.read outfit.lookType)
  by_cases none : outfit.lookType = 0
  · rw [if_pos none, if_pos none, if_neg (not_not.mpr none)]
    exact Reads.bind (Reads.read _) (Reads.pure _)
  · rw [if_neg none, if_neg none, if_pos none]
    exact Reads.finish (Reads.read (outfit.lookHead, outfit.lookBody, outfit.lookLegs, outfit.lookFeet, outfit.lookAddons))
      (Reads.pure _)

def maxStringLength : Nat := 8192

theorem reads_name {name : Bytes} (short : name.length ≤ maxStringLength) :
    Reads readString (AddCall.appended (.addString name)) name := by
  have fits : name.length ≤ 65535 := short.trans (by decide)
  have reads := Reads.string fits
  rwa [writeString_of_le fits] at reads

def creatureMark (known : Bool) : UInt16 := if known then 0x62 else 0x61

theorem reads_creature (id : CreatureId) (known : Bool) (remove : UInt32) (short : (protocol.creature id).name.length ≤ maxStringLength) :
    ∃ behind, appended (protocol.addCreature id known remove) = write (creatureMark known) ++ behind ∧
      Reads (readCreature known) behind (protocol.toldCreature id known remove) := by
  have head : ∃ behind, appended (protocol.addCreatureHead id known remove) = write (creatureMark known) ++ behind ∧
      Reads (readIntroduced known) behind
        (UInt32.ofNat id, if known then none else some (remove, (protocol.creature id).name)) := by
    cases known with
    | true =>
      refine ⟨write (UInt32.ofNat id), rfl, ?_⟩
      exact Reads.finish (Reads.read (UInt32.ofNat id)) (Reads.pure _)
    | false =>
      refine ⟨write remove ++ (write (UInt32.ofNat id) ++ AddCall.appended (.addString (protocol.creature id).name)), ?_, ?_⟩
      · simp only [ProtocolGame.addCreatureHead, Bool.false_eq_true, if_false, creatureMark, appended, flatMap_cons,
          flatMap_nil, append_nil, AddCall.appended]
      · exact Reads.bind (Reads.read remove) (Reads.bind (Reads.read (UInt32.ofNat id))
          (Reads.finish (reads_name short) (Reads.pure _)))
  have emblem : ∀ byte : UInt8, Reads (readEmblem known) (appended (if ¬ known then [.add [byte]] else []))
      (if known then none else some byte) := by
    intro byte
    cases known with
    | true => exact Reads.pure _
    | false => exact Reads.finish (Reads.read byte) (Reads.pure _)
  obtain ⟨behind, same, reads⟩ := head
  let creature := protocol.creature id
  let health : UInt8 × UInt8 := (if creature.isHealthHidden then 0 else creature.healthPercent, creature.direction)
  let outfit := if ¬ creature.isInGhostMode ∧ ¬ creature.isInvisible then creature.currentOutfit else {}
  let look : UInt8 × UInt8 × UInt16 × UInt8 × UInt8 := (if protocol.isAccessPlayer then 0xFF else creature.lightLevel,
    creature.lightColor, creature.stepSpeed, creature.skullClient, creature.partyShield)
  let unpassable : UInt8 := if creature.canWalkthroughEx then 0 else 1
  refine ⟨behind ++ (write health ++ (appended (protocol.addOutfit outfit) ++ (write look ++
    (appended (if ¬ known then [.add [creature.guildEmblem]] else []) ++ write unpassable)))), ?_, ?_⟩
  · simp only [ProtocolGame.addCreature, appended_append, same, append_assoc]
    rfl
  · exact Reads.bind reads (Reads.bind (Reads.read health) (Reads.bind (reads_outfit outfit) (Reads.bind (Reads.read look)
      (Reads.bind (emblem creature.guildEmblem) (Reads.finish (Reads.read unpassable) (Reads.pure _))))))

/-- What the client's table must say of the type of an item. -/
def Marks (hasSubType : UInt16 → Bool) (it : ItemType) : Prop :=
  it.clientId.toNat < 0xFF00 ∧ it.clientId ≠ 0x61 ∧ it.clientId ≠ 0x62 ∧
    hasSubType it.clientId = (it.stackable || it.isSplash || it.isFluidContainer)

variable {hasSubType : UInt16 → Bool}

theorem reads_item {item : Item} (marks : Marks hasSubType (protocol.env.items.get item.id)) :
    Reads (readThing hasSubType) (appended (protocol.addItem item)) (protocol.toldItem item) := by
  obtain ⟨_, notNew, notKnown, table⟩ := marks
  unfold readThing ProtocolGame.addItem ProtocolGame.toldItem
  simp only
  rw [appended_add]
  apply Reads.bind (Reads.read _)
  rw [if_neg notKnown, if_neg notNew, table]
  cases (protocol.env.items.get item.id).stackable with
  | true => exact Reads.finish (Reads.read (UInt8.ofNat (min 0xFF item.count))) (Reads.pure _)
  | false =>
    rw [Bool.false_or, if_neg Bool.false_ne_true, if_neg Bool.false_ne_true]
    cases (protocol.env.items.get item.id).isSplash || (protocol.env.items.get item.id).isFluidContainer with
    | true => exact Reads.finish (Reads.read (fluidMap.getD (item.getFluidType % 8) 0)) (Reads.pure _)
    | false => exact Reads.pure _

/-- A thing that the client can read: the type of an item is as its table says, and the name of a creature is not too long. -/
def ProtocolGame.Readable (protocol : ProtocolGame Known) (hasSubType : UInt16 → Bool) : Thing → Prop
  | .item ptr => Marks hasSubType (protocol.env.items.get (protocol.game.items ptr).id)
  | .creature id => (protocol.creature id).name.length ≤ maxStringLength

theorem reads_thing {thing : Thing} (readable : protocol.Readable hasSubType thing) (known : Known) :
    Skips.Below (appended (protocol.addThing known thing).1) ∧
      Reads (readThing hasSubType) (appended (protocol.addThing known thing).1) (protocol.toldThing known thing) := by
  cases thing with
  | item ptr => exact ⟨⟨_, readable.1, _, appended_add _ _⟩, reads_item readable⟩
  | creature id =>
    rcases answer : protocol.isKnownCreature known id with ⟨⟨isKnown, remove⟩, after⟩
    have calls : (protocol.addThing known (.creature id)).1 = protocol.addCreature id isKnown remove := by
      rw [ProtocolGame.addThing, answer]
    have told : protocol.toldThing known (.creature id) = .creature (protocol.toldCreature id isKnown remove) := by
      rw [ProtocolGame.toldThing, answer]
    obtain ⟨behind, same, reads⟩ := reads_creature id isKnown remove readable
    rw [calls, told, same]
    constructor
    · refine ⟨creatureMark isKnown, ?_, behind, rfl⟩
      cases isKnown with
      | true => decide
      | false => decide
    · apply Reads.bind (Reads.read _)
      cases isKnown with
      | true => exact Reads.finish reads (Reads.pure _)
      | false => exact Reads.finish reads (Reads.pure _)

theorem body_things {things : List Thing} (readable : ∀ thing ∈ things, protocol.Readable hasSubType thing) (known : Known) :
    Skips.Body (readThing hasSubType) (appended (protocol.addThings known things).1) (protocol.toldThings known things) := by
  induction things generalizing known with
  | nil => exact .nil
  | cons thing rest ih =>
    obtain ⟨below, reads⟩ := reads_thing (readable thing mem_cons_self) known
    have behind := ih (fun other member => readable other (mem_cons_of_mem _ member)) (protocol.addThing known thing).2
    simp only [ProtocolGame.addThings, appended_append, ProtocolGame.toldThings]
    exact .cons below reads behind

end

namespace ProtocolGame

variable {Known : Type} (protocol : ProtocolGame Known)

/-- The places of the map that a description goes through, in its order. -/
def cells (x y : Int) (width height : Nat) (floors : List (Int × Int)) : List (UInt16 × UInt16 × UInt8) :=
  floors.flatMap (fun floor => (List.range width).flatMap (fun (nx : Nat) => (List.range height).map (fun (ny : Nat) =>
    (UInt16.ofInt (x + nx + floor.2), UInt16.ofInt (y + ny + floor.2), UInt8.ofInt floor.1))))

/-- The bytes for each place, if there is a tile. -/
def bodies : Known → List (UInt16 × UInt16 × UInt8) → List (Option Bytes)
  | _, [] => []
  | known, (x, y, z) :: rest =>
    match protocol.getTile x y z with
    | none => none :: bodies known rest
    | some tile =>
      let (calls, known) := protocol.getTileDescription known x y z tile
      some (appended calls) :: bodies known rest

/-- What a client is told of each place: the things that `GetTileDescription` writes for the tile, or nothing. -/
def toldTiles : Known → List (UInt16 × UInt16 × UInt8) → List (List ClientThing)
  | _, [] => []
  | known, (x, y, z) :: rest =>
    match protocol.getTile x y z with
    | none => [] :: toldTiles known rest
    | some tile =>
      protocol.toldThings known (tile.getTileDescription protocol.player ⟨x.toNat, y.toNat, z.toNat⟩) ::
        toldTiles (protocol.getTileDescription known x y z tile).2 rest

/-- Every thing that is written can be read. -/
def AllReadable (hasSubType : UInt16 → Bool) : Prop :=
  ∀ x y z tile, protocol.getTile x y z = some tile →
    ∀ thing ∈ tile.getTileDescription protocol.player ⟨x.toNat, y.toNat, z.toNat⟩, protocol.Readable hasSubType thing

end ProtocolGame

section
variable {Known : Type} {protocol : ProtocolGame Known} {hasSubType : UInt16 → Bool}

theorem places_cells (readable : protocol.AllReadable hasSubType) (known : Known) (cells : List (UInt16 × UInt16 × UInt8)) :
    Skips.Places (readThing hasSubType) (protocol.bodies known cells) (protocol.toldTiles known cells) := by
  induction cells generalizing known with
  | nil => exact .nil
  | cons cell rest ih =>
    obtain ⟨x, y, z⟩ := cell
    simp only [ProtocolGame.bodies, ProtocolGame.toldTiles]
    cases here : protocol.getTile x y z with
    | none => exact .empty (ih known)
    | some tile => exact .full (body_things (readable x y z tile here) known) (ih _)

theorem appended_flushSkip (skip : Int) : appended (ProtocolGame.flushSkip skip) = Skips.flush skip := by
  unfold ProtocolGame.flushSkip Skips.flush
  split
  · rfl
  · rfl

variable (protocol) in
/-- The description of some places puts their stream behind what is there. -/
theorem appended_addTiles (cells : List (UInt16 × UInt16 × UInt8)) (state : ProtocolGame.Describing Known) :
    let after := cells.foldl (fun state cell => protocol.addTile state cell.1 cell.2.1 cell.2.2) state
    appended (after.calls ++ ProtocolGame.flushSkip after.skip) =
      appended state.calls ++ Skips.encode state.skip (protocol.bodies state.known cells) := by
  induction cells generalizing state with
  | nil => exact (appended_append _ _).trans (congrArg _ (appended_flushSkip state.skip))
  | cons cell rest ih =>
    obtain ⟨x, y, z⟩ := cell
    have behind := ih (protocol.addTile state x y z)
    simp only [foldl_cons] at behind ⊢
    rw [behind]
    simp only [ProtocolGame.addTile, ProtocolGame.bodies]
    cases protocol.getTile x y z with
    | none =>
      simp only [Skips.encode]
      split
      · simp only [appended_append, append_assoc]
        rfl
      · rfl
    | some tile => simp only [Skips.encode, appended_append, appended_flushSkip, append_assoc]

/-- The loops over floors, rows and columns go through the places. -/
theorem foldl_cells (state : ProtocolGame.Describing Known) (x y : Int) (width height : Nat) (floors : List (Int × Int)) :
    floors.foldl (fun state floor => protocol.getFloorDescription state x y floor.1 width height floor.2) state =
      (ProtocolGame.cells x y width height floors).foldl (fun state cell => protocol.addTile state cell.1 cell.2.1 cell.2.2)
        state := by
  simp only [ProtocolGame.cells, foldl_flatMap, foldl_map]
  rfl

theorem describeFloors_cells (known : Known) (x y : Int) (width height : Nat) (floors : List (Int × Int)) :
    appended (protocol.describeFloors known x y width height floors).1 =
      Skips.encode (-1) (protocol.bodies known (ProtocolGame.cells x y width height floors)) := by
  have stream := appended_addTiles protocol (ProtocolGame.cells x y width height floors) { calls := [], known, skip := -1 }
  rw [← foldl_cells] at stream
  exact stream

variable (protocol) in
theorem length_toldTiles (known : Known) (cells : List (UInt16 × UInt16 × UInt8)) :
    (protocol.toldTiles known cells).length = cells.length := by
  induction cells generalizing known with
  | nil => rfl
  | cons cell rest ih =>
    obtain ⟨x, y, z⟩ := cell
    rw [ProtocolGame.toldTiles]
    split
    · rw [length_cons, ih, length_cons]
    · rw [length_cons, ih, length_cons]

/-- The stream of a description is read as what is told of each place, with nothing left. -/
theorem describeFloors_read (readable : protocol.AllReadable hasSubType) (known : Known) (x y : Int) (width height : Nat)
    (floors : List (Int × Int)) :
    Skips.readPlaces (readThing hasSubType) (ProtocolGame.cells x y width height floors).length 0
      (appended (protocol.describeFloors known x y width height floors).1) =
        some (protocol.toldTiles known (ProtocolGame.cells x y width height floors), []) := by
  rw [describeFloors_cells, ← length_toldTiles protocol known]
  exact Skips.readPlaces_encode (places_cells readable known _)

end

/-- A value, or a string that is not too long. -/
def AddCall.Simple : AddCall → Prop
  | add _ => True
  | addString value => value.length ≤ maxStringLength
  | _ => False

/-- Bytes have been put behind what was in a message. -/
structure NetworkMessage.Grown (msg next : NetworkMessage) (bytes : Bytes) : Prop where
  position : next.position = msg.position + bytes.length
  behind : next.buffer.slice msg.position bytes.length = bytes
  before : ∀ start size, start + size ≤ msg.position → next.buffer.slice start size = msg.buffer.slice start size

section
variable {msg next last : NetworkMessage} {bytes more : Bytes}

theorem NetworkMessage.Grown.trans (first : msg.Grown next bytes) (second : next.Grown last more) : msg.Grown last (bytes ++ more) where
  position := by rw [second.position, first.position, length_append, Nat.add_assoc]
  behind := by
    have kept := second.before msg.position bytes.length (Nat.le_of_eq first.position.symm)
    rw [length_append, slice_append, kept, first.behind, ← first.position, second.behind]
  before := by
    intro start size within
    have inside : start + size ≤ next.position := first.position ▸ within.trans (Nat.le_add_right _ _)
    rw [second.before start size inside, first.before start size within]

variable (msg bytes) in
theorem put_grown (fits : msg.position + bytes.length < NetworkMessage.maxBodyLength) :
    ∃ next, msg.put bytes = some next ∧ msg.Grown next bytes := by
  have can : bytes.length + msg.position < NetworkMessage.maxBodyLength := by omega
  refine ⟨_, put_of_canAdd msg can, rfl, slice_store_self _ _ _, ?_⟩
  intro start size within
  exact slice_store_apart (.inl within)

variable (msg bytes) in
theorem add_grown (fits : msg.position + bytes.length < NetworkMessage.maxBodyLength) :
    ∃ next, msg.add bytes = some next ∧ msg.Grown next bytes := by
  have can : msg.canAdd bytes.length = true := decide_eq_true (by omega)
  rw [NetworkMessage.add, if_pos can]
  exact put_grown msg bytes fits

variable (msg) in
/-- A call that is not refused. -/
theorem run_grown {call : AddCall} (simple : call.Simple) (fits : msg.position + call.appended.length < NetworkMessage.maxBodyLength) :
    ∃ next, call.run msg = some next ∧ msg.Grown next call.appended := by
  cases call with
  | add bytes => exact add_grown msg bytes fits
  | addString value =>
    have short : value.length ≤ 8192 := simple
    have size : (AddCall.appended (.addString value)).length = 2 + value.length := length_append
    rw [size] at fits
    have can : msg.canAdd (value.length + 2) = true := decide_eq_true (by omega)
    have two : (write (UInt16.ofNat value.length)).length = 2 := rfl
    obtain ⟨middle, added, first⟩ := add_grown msg (write (UInt16.ofNat value.length)) (by omega)
    obtain ⟨next, put, second⟩ := put_grown middle value (by rw [first.position]; omega)
    refine ⟨next, ?_, first.trans second⟩
    rw [AddCall.run, NetworkMessage.addString, if_neg (by simp only [can, not_true, false_or]; omega), added]
    exact put
  | addBytes bytes => exact simple.elim
  | addPaddingBytes n => exact simple.elim
  | addPosition x y z => exact simple.elim

theorem runs_grown {calls : List AddCall} (simple : ∀ call ∈ calls, call.Simple)
    (fits : msg.position + (appended calls).length < NetworkMessage.maxBodyLength) :
    ∃ next, calls.foldlM (fun msg call => AddCall.run call msg) msg = some next ∧ msg.Grown next (appended calls) := by
  induction calls generalizing msg with
  | nil => exact ⟨msg, rfl, rfl, rfl, fun _ _ _ => rfl⟩
  | cons call rest ih =>
    have size : (appended (call :: rest)).length = call.appended.length + (appended rest).length := length_append
    rw [size] at fits
    obtain ⟨middle, ran, first⟩ := run_grown msg (simple call mem_cons_self) (by omega)
    have room : middle.position + (appended rest).length < NetworkMessage.maxBodyLength := by
      rw [first.position]
      omega
    obtain ⟨next, others, second⟩ := ih (fun other member => simple other (mem_cons_of_mem _ member)) room
    refine ⟨next, ?_, first.trans second⟩
    rw [foldlM_cons, ran]
    exact others

end

section
variable {Known : Type} {protocol : ProtocolGame Known} {hasSubType : UInt16 → Bool}

theorem simple_append {first second : List AddCall} (one : ∀ call ∈ first, call.Simple) (other : ∀ call ∈ second, call.Simple) :
    ∀ call ∈ first ++ second, call.Simple := by
  intro call member
  rcases mem_append.mp member with here | there
  · exact one call here
  · exact other call there

theorem simple_addThing {thing : Thing} (readable : protocol.Readable hasSubType thing) (known : Known) :
    ∀ call ∈ (protocol.addThing known thing).1, call.Simple := by
  cases thing with
  | item ptr =>
    simp only [ProtocolGame.addThing, ProtocolGame.addItem, forall_mem_cons]
    refine ⟨trivial, ?_⟩
    split_ifs
    · simp [AddCall.Simple]
    · simp [AddCall.Simple]
    · simp
  | creature id =>
    have outfit : ∀ outfit, ∀ call ∈ protocol.addOutfit outfit, call.Simple := by
      intro outfit
      simp only [ProtocolGame.addOutfit, forall_mem_cons]
      refine ⟨trivial, ?_⟩
      split
      · simp [AddCall.Simple]
      · simp [AddCall.Simple]
    have head : ∀ known remove, ∀ call ∈ protocol.addCreatureHead id known remove, call.Simple := by
      intro known remove
      cases known with
      | true => simp [ProtocolGame.addCreatureHead, AddCall.Simple]
      | false =>
        simp only [ProtocolGame.addCreatureHead, Bool.false_eq_true, if_false, forall_mem_cons]
        exact ⟨trivial, trivial, trivial, readable, nofun⟩
    have emblem : ∀ (known : Bool) (byte : UInt8), ∀ call ∈ (if ¬ known then [AddCall.add [byte]] else []), call.Simple := by
      intro known byte
      cases known with
      | true => simp
      | false => simp [AddCall.Simple]
    simp only [ProtocolGame.addThing, ProtocolGame.addCreature]
    refine simple_append (simple_append (simple_append (simple_append (simple_append (head _ _) ?_) (outfit _)) ?_) (emblem _ _)) ?_
    · simp [AddCall.Simple]
    · simp [AddCall.Simple]
    · simp [AddCall.Simple]

theorem simple_addThings {things : List Thing} (readable : ∀ thing ∈ things, protocol.Readable hasSubType thing) (known : Known) :
    ∀ call ∈ (protocol.addThings known things).1, call.Simple := by
  induction things generalizing known with
  | nil => nofun
  | cons thing rest ih =>
    apply simple_append (simple_addThing (readable thing mem_cons_self) known)
    exact ih (fun other member => readable other (mem_cons_of_mem _ member)) _

theorem simple_flushSkip (skip : Int) : ∀ call ∈ ProtocolGame.flushSkip skip, call.Simple := by
  unfold ProtocolGame.flushSkip
  split
  · simp [AddCall.Simple]
  · nofun

theorem simple_addTile (readable : protocol.AllReadable hasSubType) {state : ProtocolGame.Describing Known}
    (simple : ∀ call ∈ state.calls, call.Simple) (x y : UInt16) (z : UInt8) :
    ∀ call ∈ (protocol.addTile state x y z).calls, call.Simple := by
  unfold ProtocolGame.addTile
  cases here : protocol.getTile x y z with
  | none =>
    simp only
    split
    · exact simple_append simple (by simp [AddCall.Simple])
    · exact simple
  | some tile =>
    exact simple_append (simple_append simple (simple_flushSkip _)) (simple_addThings (readable x y z tile here) _)

theorem simple_describeFloors (readable : protocol.AllReadable hasSubType) (known : Known) (x y : Int) (width height : Nat)
    (floors : List (Int × Int)) : ∀ call ∈ (protocol.describeFloors known x y width height floors).1, call.Simple := by
  have tiles : ∀ (cells : List (UInt16 × UInt16 × UInt8)) (state : ProtocolGame.Describing Known),
      (∀ call ∈ state.calls, call.Simple) →
        ∀ call ∈ (cells.foldl (fun state cell => protocol.addTile state cell.1 cell.2.1 cell.2.2) state).calls, call.Simple := by
    intro cells
    induction cells with
    | nil => exact fun _ simple => simple
    | cons cell rest ih => exact fun state simple => ih _ (simple_addTile readable simple _ _ _)
  have whole := tiles (ProtocolGame.cells x y width height floors) { calls := [], known, skip := -1 } nofun
  rw [← foldl_cells] at whole
  exact simple_append whole (simple_flushSkip _)

end

/-- The calls are not more than there is room for in the message. -/
def NetworkMessage.Fits (msg : NetworkMessage) (calls : List AddCall) : Prop :=
  msg.position + (appended calls).length < maxBodyLength

/-- What the calls for some places add to a message is read by the client as what is told of each place, with nothing left. -/
def ProtocolGame.Decodes {Known : Type} (protocol : ProtocolGame Known) (hasSubType : UInt16 → Bool) (msg : NetworkMessage)
    (known : Known) (cells : List (UInt16 × UInt16 × UInt8)) (calls : List AddCall) : Prop :=
  ∃ next, calls.foldlM (fun msg call => AddCall.run call msg) msg = some next ∧
    Skips.readPlaces (readThing hasSubType) cells.length 0 (next.buffer.slice msg.position (next.position - msg.position)) =
      some (protocol.toldTiles known cells, [])

section
variable {Known : Type} {protocol : ProtocolGame Known} {hasSubType : UInt16 → Bool}

/-- The description of floors of the map, in any order and with any offsets, is read again, and so is the one that
`GetMapDescription` makes, as long as it fits into the message. -/
theorem mapDescription_decodes (readable : protocol.AllReadable hasSubType) (msg : NetworkMessage) (known : Known) (x y : Int)
    (width height : Nat) :
    (∀ floors, msg.Fits (protocol.describeFloors known x y width height floors).1 →
      protocol.Decodes hasSubType msg known (ProtocolGame.cells x y width height floors)
        (protocol.describeFloors known x y width height floors).1) ∧
    ∀ z < 16, msg.Fits (protocol.getMapDescription known x y z width height).1 →
      protocol.Decodes hasSubType msg known
        (ProtocolGame.cells x y width height ((ProtocolGame.mapFloors z).map (fun nz => (nz, (z : Int) - nz))))
        (protocol.getMapDescription known x y z width height).1 := by
  have floors : ∀ floors, msg.Fits (protocol.describeFloors known x y width height floors).1 →
      protocol.Decodes hasSubType msg known (ProtocolGame.cells x y width height floors)
        (protocol.describeFloors known x y width height floors).1 := by
    intro floors fits
    obtain ⟨next, ran, grown⟩ := runs_grown (simple_describeFloors readable known x y width height floors) fits
    refine ⟨next, ran, ?_⟩
    rw [grown.position, Nat.add_sub_cancel_left, grown.behind]
    exact describeFloors_read readable known x y width height floors
  exact ⟨floors, fun z _ fits => floors _ fits⟩

end

section
variable {Known : Type} {protocol : ProtocolGame Known} {hasSubType : UInt16 → Bool}

theorem run_position {call : AddCall} (simple : call.Simple) {msg next : NetworkMessage} (ran : call.run msg = some next)
    (within : msg.position ≤ NetworkMessage.maxBodyLength) : next.position ≤ NetworkMessage.maxBodyLength := by
  by_cases fits : msg.position + call.appended.length < NetworkMessage.maxBodyLength
  · obtain ⟨grown, same, after⟩ := run_grown msg simple fits
    cases same.symm.trans ran
    rw [after.position]
    exact Nat.le_of_lt fits
  · cases call with
    | add bytes =>
      have refused : ¬ msg.canAdd bytes.length = true := by
        intro can
        have less : bytes.length + msg.position < NetworkMessage.maxBodyLength := of_decide_eq_true can
        exact fits (Nat.add_comm _ _ ▸ less)
      rw [AddCall.run, NetworkMessage.add, if_neg refused] at ran
      cases ran
      exact within
    | addString value =>
      have size : (AddCall.appended (.addString value)).length = 2 + value.length := length_append
      have refused : ¬ msg.canAdd (value.length + 2) = true ∨ value.length > 8192 := by
        left
        intro can
        have less : value.length + 2 + msg.position < NetworkMessage.maxBodyLength := of_decide_eq_true can
        omega
      rw [AddCall.run, NetworkMessage.addString, if_pos refused] at ran
      cases ran
      exact within
    | addBytes bytes => exact simple.elim
    | addPaddingBytes n => exact simple.elim
    | addPosition x y z => exact simple.elim

/-- A message never gets past its limit. -/
theorem runs_position {calls : List AddCall} (simple : ∀ call ∈ calls, call.Simple) {msg next : NetworkMessage}
    (ran : calls.foldlM (fun msg call => AddCall.run call msg) msg = some next)
    (within : msg.position ≤ NetworkMessage.maxBodyLength) : next.position ≤ NetworkMessage.maxBodyLength := by
  induction calls generalizing msg with
  | nil =>
    cases ran
    exact within
  | cons call rest ih =>
    rw [foldlM_cons, Option.bind_eq_bind, Option.bind_eq_some_iff] at ran
    obtain ⟨middle, first, others⟩ := ran
    exact ih (fun other member => simple other (mem_cons_of_mem _ member)) others
      (run_position (simple call mem_cons_self) first within)

theorem hungry_readThing : Skips.Hungry (readThing hasSubType) := by
  intro bytes thing rest read
  unfold readThing at read
  rcases mark : (Reader.read UInt16).run bytes with ⟨answer, behind⟩
  have two : Raw.size UInt16 = 2 := rfl
  cases answer with
  | none =>
    rw [run_bind_none mark] at read
    cases read
  | some word =>
    have taken : behind.length + 2 ≤ bytes.length := by
      simp only [Reader.read, two] at mark
      split at mark
      · cases mark
      · next enough =>
        cases mark
        rw [length_drop]
        omega
    rw [run_bind_some mark] at read
    exact (Nat.add_le_add_right (Skips.run_length read) 2).trans taken

/-- A description of more things than the message has room for is not read again. -/
theorem not_decodes (readable : protocol.AllReadable hasSubType) (msg : NetworkMessage) (within : msg.position ≤ NetworkMessage.maxBodyLength)
    (known : Known) (x y : Int) (width height : Nat) (floors : List (Int × Int))
    (many : NetworkMessage.maxBodyLength < msg.position +
      2 * (protocol.toldTiles known (ProtocolGame.cells x y width height floors)).flatten.length) :
    ¬ protocol.Decodes hasSubType msg known (ProtocolGame.cells x y width height floors)
      (protocol.describeFloors known x y width height floors).1 := by
  rintro ⟨next, ran, read⟩
  have limit := runs_position (simple_describeFloors readable known x y width height floors) ran within
  have size := Skips.readPlaces_size hungry_readThing read
  rw [length_slice, length_nil] at size
  omega

variable (protocol) in
theorem length_toldThings (known : Known) (things : List Thing) : (protocol.toldThings known things).length = things.length := by
  induction things generalizing known with
  | nil => rfl
  | cons thing rest ih => rw [ProtocolGame.toldThings, length_cons, ih, length_cons]

/-- On a map with as many things everywhere, the things are counted by the places. -/
theorem length_toldTiles_flatten {count : Nat} (full : ∀ x y z, ∃ tile, protocol.getTile x y z = some tile ∧
      (tile.getTileDescription protocol.player ⟨x.toNat, y.toNat, z.toNat⟩).length = count)
    (known : Known) (cells : List (UInt16 × UInt16 × UInt8)) : (protocol.toldTiles known cells).flatten.length = cells.length * count := by
  induction cells generalizing known with
  | nil => exact (Nat.zero_mul count).symm
  | cons cell rest ih =>
    obtain ⟨x, y, z⟩ := cell
    obtain ⟨tile, here, length⟩ := full x y z
    simp only [ProtocolGame.toldTiles, here, flatten_cons, length_append, length_toldThings, length, ih,
      length_cons, Nat.succ_mul, Nat.add_comm]

theorem length_cells (x y : Int) (width height : Nat) (floors : List (Int × Int)) :
    (ProtocolGame.cells x y width height floors).length = floors.length * (width * height) := by
  simp only [ProtocolGame.cells, length_flatMap, length_map, length_range, map_const', sum_replicate_nat]

/-- Grass and arrows. -/
def fieldItems : ItemTypes :=
  ItemTypes.ofList [{ id := 103, clientId := 103, group := .ground }, { id := 2544, clientId := 3447, stackable := true }] []
    (by decide) (by decide)

/-- Grass with ten heaps of arrows everywhere, seen by a player in the middle. -/
def litteredGame : ProtocolGame Unit where
  env := { items := fieldItems }
  game := Game.ofTables ({ id := 103 } :: List.replicate 10 { id := 2544, count := 100 }) [] []
  player := { id := 0, position := ⟨100, 100, 7⟩, canSeeCreature := fun _ => true }
  getTile := fun _ _ _ => some { ground := some 0, items := [1, 2, 3, 4, 5, 6, 7, 8, 9, 10], downItemCount := 10 }
  creature := fun _ => {}
  isKnownCreature := fun known _ => ((false, 0), known)

def mapMessage : NetworkMessage := { buffer := fun _ => 0, length := 6, position := 14 }

theorem litteredGame_readable : litteredGame.AllReadable (· = 3447) := by
  intro x y z tile here thing member
  cases here
  have listed : thing ∈ [0, 1, 2, 3, 4, 5, 6, 7, 8, 9].map Thing.item := member
  obtain ⟨ptr, low, rfl⟩ := mem_map.mp listed
  have marks : ∀ ptr ∈ [0, 1, 2, 3, 4, 5, 6, 7, 8, 9],
      Marks (· = 3447) (litteredGame.env.items.get (litteredGame.game.items ptr).id) := by
    unfold Marks
    decide
  exact marks ptr low

theorem mapDescription_decodes_littered : litteredGame.Decodes (· = 3447) mapMessage ()
    (ProtocolGame.cells 100 100 1 1 ((ProtocolGame.mapFloors 7).map (fun nz => (nz, 7 - nz))))
    (litteredGame.getMapDescription () 100 100 7 1 1).1 :=
  (mapDescription_decodes litteredGame_readable mapMessage () 100 100 1 1).2 7 (by decide) (by unfold NetworkMessage.Fits; decide +kernel)

/-- What a client is to see from the middle does not fit into the message. -/
theorem littered_overflow : ¬ ∀ (Known : Type) (protocol : ProtocolGame Known) (hasSubType : UInt16 → Bool),
    protocol.AllReadable hasSubType → ∀ (msg : NetworkMessage) (known : Known) (x y : Int) (width height : Nat), ∀ z < 16,
      protocol.Decodes hasSubType msg known
        (ProtocolGame.cells x y width height ((ProtocolGame.mapFloors z).map (fun nz => (nz, (z : Int) - nz))))
        (protocol.getMapDescription known x y z width height).1 := by
  intro claim
  apply not_decodes litteredGame_readable mapMessage (by decide) () 92 94 18 14 ((ProtocolGame.mapFloors 7).map (fun nz => (nz, 7 - nz)))
  · have full : ∀ x y z, ∃ tile, litteredGame.getTile x y z = some tile ∧
        (tile.getTileDescription litteredGame.player ⟨x.toNat, y.toNat, z.toNat⟩).length = 10 := fun _ _ _ => ⟨_, rfl, rfl⟩
    rw [length_toldTiles_flatten full, length_cells]
    decide
  · exact claim Unit litteredGame _ litteredGame_readable mapMessage () 92 94 18 14 7 (by decide)

end

end Styller
