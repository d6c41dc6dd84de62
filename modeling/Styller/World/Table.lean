import Styller.Item.GameItems
import Styller.World.Layout
import Styller.World.Query

/-! Games given by finite tables, with a check of their soundness. -/

namespace Styller

open List

namespace Game

def ofTables (items : List Item) (players : List (PlayerId × Player)) (tiles : List (Position × Tile)) :
    Game where
  items := fun ptr => items.getD ptr { id := 0 }
  next := items.length
  players := fun owner => (players.lookup owner).getD {}
  tiles := fun pos => tiles.lookup pos
  trading := { players := fun _ => {}, tradeItems := ∅ }
  toDecayItems := []

/-- The cylinders that may hold something. -/
def tableCylinders (items : List Item) (players : List (PlayerId × Player))
    (tiles : List (Position × Tile)) : List Cylinder :=
  players.map (fun entry => .player entry.1) ++ tiles.map (fun entry => .tile entry.1) ++
    (List.range items.length).map .item

def layersChecked (types : ItemTypes) (game : Game) (tile : Tile) : Bool :=
  [Layer.ground, .top, .down].all (fun layer => (tile.layer layer).all (fun ptr =>
    ptr < game.next && layer = layerOf (types.get (game.items ptr).id)))

def contentsChecked (types : ItemTypes) (game : Game) (cylinder : Cylinder) : Bool :=
  (game.contents cylinder).Nodup && (game.contents cylinder).all (fun ptr =>
    (game.items ptr).parent = some cylinder && ptr < game.next &&
      (!(types.get (game.items ptr).id).stackable ||
        (game.items ptr).count ≤ (types.get (game.items ptr).id).stackSize) &&
      match cylinder with
      | .item holder => (game.items holder).kind.isContainer
      | _ => true)

def itemChecked (types : ItemTypes) (item : Item) : Bool :=
  item.count < 256 && (!item.kind.isContainer || 0 < item.maxSize) &&
    (!(types.get item.id).stackable || item.kind = .item)

/-- The facts of `Sound`, decided for a game given by tables. -/
def tablesChecked (types : ItemTypes) (items : List Item) (players : List (PlayerId × Player))
    (tiles : List (Position × Tile)) : Bool :=
  let game := ofTables items players tiles
  (tableCylinders items players tiles).all (contentsChecked types game) &&
    tiles.all (fun entry => layersChecked types game entry.2) && items.all (itemChecked types)

section
variable {types : ItemTypes} {items : List Item} {players : List (PlayerId × Player)}
  {tiles : List (Position × Tile)}

private theorem lookup_mem {Key Value : Type} [BEq Key] [LawfulBEq Key] {entries : List (Key × Value)}
    {key : Key} {value : Value} (found : entries.lookup key = some value) : (key, value) ∈ entries := by
  induction entries with
  | nil => cases found
  | cons entry rest ih =>
    rw [lookup_cons] at found
    split at found
    · rename_i same
      cases found
      rw [eq_of_beq same]
      exact mem_cons_self
    · exact mem_cons_of_mem _ (ih found)

theorem contents_ofTables (cylinder : Cylinder) :
    cylinder ∈ tableCylinders items players tiles ∨ (ofTables items players tiles).contents cylinder = [] := by
  cases cylinder with
  | player owner =>
    cases found : players.lookup owner with
    | none =>
      right
      simp only [contents, ofTables, found, Option.getD_none]
      exact filterMap_eq_nil_iff.mpr (fun _ _ => rfl)
    | some player =>
      left
      simp only [tableCylinders, mem_append, mem_map]
      exact .inl (.inl ⟨_, lookup_mem found, rfl⟩)
  | tile pos =>
    cases found : tiles.lookup pos with
    | none =>
      right
      simp [contents, ofTables, found]
    | some tile =>
      left
      simp only [tableCylinders, mem_append, mem_map]
      exact .inl (.inr ⟨_, lookup_mem found, rfl⟩)
  | item ptr =>
    by_cases inside : ptr < items.length
    · left
      simp [tableCylinders, inside]
    · right
      simp [contents, ofTables, getD_eq_getElem?_getD, getElem?_eq_none (Nat.le_of_not_lt inside)]

theorem item_ofTables (ptr : ItemPtr) : (ofTables items players tiles).items ptr ∈ items ∧
    ptr < items.length ∨ (ofTables items players tiles).items ptr = { id := 0 } := by
  by_cases inside : ptr < items.length
  · left
    refine ⟨?_, inside⟩
    simp [ofTables, getD_eq_getElem?_getD, getElem?_eq_getElem inside]
  · right
    simp [ofTables, getD_eq_getElem?_getD, getElem?_eq_none (Nat.le_of_not_lt inside)]

theorem sound_ofTables (checked : tablesChecked types items players tiles = true) :
    (ofTables items players tiles).layout.Sound types := by
  simp only [tablesChecked, Bool.and_eq_true, all_eq_true] at checked
  obtain ⟨⟨cylinders, layers⟩, records⟩ := checked
  -- a cylinder that holds anything is in the tables, so it has been checked
  have here : ∀ cylinder, (ofTables items players tiles).contents cylinder = [] ∨
      contentsChecked types (ofTables items players tiles) cylinder = true := by
    intro cylinder
    rcases contents_ofTables cylinder with listed | empty
    · exact .inr (cylinders cylinder listed)
    · exact .inl empty
  have held : ∀ cylinder ptr, ptr ∈ (ofTables items players tiles).contents cylinder →
      ((((ofTables items players tiles).items ptr).parent = some cylinder ∧
        ptr < (ofTables items players tiles).next) ∧
      ((types.get ((ofTables items players tiles).items ptr).id).stackable = false ∨
        ((ofTables items players tiles).items ptr).count ≤
          (types.get ((ofTables items players tiles).items ptr).id).stackSize)) ∧
      (match cylinder with
        | .item holder => ((ofTables items players tiles).items holder).kind.isContainer
        | _ => true) = true := by
    intro cylinder ptr member
    rcases here cylinder with empty | checked
    · rw [empty] at member
      cases member
    · simp only [contentsChecked, Bool.and_eq_true, all_eq_true, Bool.or_eq_true,
        decide_eq_true_eq, Bool.not_eq_true'] at checked
      exact checked.2 ptr member
  have record : ∀ ptr, itemChecked types ((ofTables items players tiles).items ptr) = true ∧
        ptr < items.length ∨ (ofTables items players tiles).items ptr = { id := 0 } := by
    intro ptr
    rcases item_ofTables ptr with ⟨listed, inside⟩ | default
    · exact .inl ⟨records _ listed, inside⟩
    · exact .inr default
  exact
    { nodup := by
        intro cylinder
        rcases here cylinder with empty | checked
        · change ((ofTables items players tiles).contents cylinder).Nodup
          rw [empty]
          exact nodup_nil
        · simp only [contentsChecked, Bool.and_eq_true, decide_eq_true_eq] at checked
          exact checked.1
      parent := fun cylinder ptr member => (held cylinder ptr member).1.1.1
      allocated := fun cylinder ptr member => (held cylinder ptr member).1.1.2
      live := by
        rintro cylinder ptr member holder rfl
        exact (held (.item holder) ptr member).2
      roomy := by
        intro ptr container
        have container : ((ofTables items players tiles).items ptr).kind.isContainer = true := container
        rcases record ptr with ⟨checked, inside⟩ | default
        · simp only [itemChecked, Bool.and_eq_true, Bool.or_eq_true, decide_eq_true_eq, container,
            Bool.not_true, Bool.false_eq_true, false_or] at checked
          exact ⟨inside, checked.1.2⟩
        · rw [default] at container
          cases container
      layered := by
        intro pos layer ptr member
        cases found : tiles.lookup pos with
        | none => simp [layout, ofTables, found] at member
        | some tile =>
          have checked := layers (pos, tile) (lookup_mem found)
          have member : ptr ∈ tile.layer layer := by simpa [layout, ofTables, found] using member
          simp only [layersChecked, all_eq_true, Bool.and_eq_true, decide_eq_true_eq] at checked
          exact checked layer (by cases layer <;> simp) ptr member
      small := by
        intro ptr
        change ((ofTables items players tiles).items ptr).count < 256
        rcases record ptr with ⟨checked, _⟩ | default
        · simp only [itemChecked, Bool.and_eq_true, decide_eq_true_eq] at checked
          exact checked.1.1
        · rw [default]
          decide
      stacked := by
        intro cylinder ptr member stackable
        rcases (held cylinder ptr member).1.2 with single | fits
        · have stackable : (types.get ((ofTables items players tiles).items ptr).id).stackable = true :=
            stackable
          rw [single] at stackable
          cases stackable
        · exact fits
      plain := by
        intro ptr stackable
        have stackable : (types.get ((ofTables items players tiles).items ptr).id).stackable = true :=
          stackable
        change ((ofTables items players tiles).items ptr).kind = .item
        rcases record ptr with ⟨checked, _⟩ | default
        · simp only [itemChecked, Bool.and_eq_true, Bool.or_eq_true, decide_eq_true_eq, stackable,
            Bool.not_true, Bool.false_eq_true, false_or] at checked
          exact checked.2
        · rw [default] }

end

end Game

def gameEnv : Env := { items := gameItems }

end Styller
