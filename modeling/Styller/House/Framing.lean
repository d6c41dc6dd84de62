import Styller.House.MapSerialize
import Styller.Item.SameThing
import Styller.Item.Setters
import Styller.Item.GameItems

/-! What `loadItem` makes of the bytes of `saveItem`. -/

namespace Styller

open Library Reader List

section

variable (items : ItemTypes) (place : Placement) (services : ItemServices) (normalRandom : Nat → Nat → Int)

/-- An item of a type that exists, with attributes that are read as they were written: `CreateItem`
makes a thing of the same class of the id, and reading what `serializeAttr` wrote, whatever comes
after it, restores the count and the weight. -/
def Codable (object : ItemObject) : Prop :=
  object.item.id < 65536 ∧ ∃ created restored, Item.createItem items normalRandom object.item.id 0 = some created ∧
    created.id = object.item.id ∧ created.kind = object.item.kind ∧
    Through 0 (readAttrCode items services) { item := created } (serializeAttr items place object) restored ∧
    restored.item.count = object.item.count ∧ restored.item.getBaseWeight items = object.item.getBaseWeight items

namespace ItemTree

def shape (tree : ItemTree) : Rose Nat := tree.map (fun object => object.item.id)

/-- What an item weighs with all that is in it. -/
def weight (tree : ItemTree) : Nat :=
  tree.fold (fun object weights => if object.item.isContainer then (object.item.ownWeight items + weights.sum) % 2 ^ 32
    else object.item.ownWeight items)

/-- Every container has recorded what the items in it weigh. -/
def Recorded (tree : ItemTree) : Prop :=
  tree.All (fun object children => object.item.isContainer = true →
    object.item.totalWeight = (children.map (getWeight items)).sum)

/-- The items in one container are fewer than a word can count. -/
def Counted (tree : ItemTree) : Prop := tree.All (fun _ children => children.length < 2 ^ 32)

/-- The items in one container weigh less than a word can hold. -/
def Light (tree : ItemTree) : Prop := tree.All (fun _ children => (children.map (weight items)).sum < 2 ^ 32)

def NoLocker (tree : ItemTree) : Prop := tree.All (fun object _ => object.item.kind ≠ .depotLocker)

end ItemTree

end

section

variable {items : ItemTypes} {place : Placement} {services : ItemServices} {normalRandom : Nat → Nat → Int}
  {object created restored : ItemObject} {attributes : Bytes}

theorem readAttr_containerItems (holds : object.item.isContainer = true) (chest : object.item.kind ≠ .depotLocker) :
    readAttr items services object .containerItems =
      (do let serializationCount ← read UInt32; pure (.last { object with serializationCount })) := by
  cases kind : object.item.kind with
  | container | depotChest => simp only [readAttr, kind]
  | depotLocker => exact absurd kind chest
  | _ => simp [Item.isContainer, ItemClass.isContainer, kind] at holds

theorem unserializeAttr_container (through : Through 0 (readAttrCode items services) created attributes restored)
    (holds : restored.item.isContainer = true) (chest : restored.item.kind ≠ .depotLocker) (count : UInt32) :
    (unserializeAttr items services created).Reads (attributes ++ AttrTypes.containerItems.code :: write count)
      (true, { restored with serializationCount := count }) := by
  intro rest
  have handled : (readAttrCode items services restored AttrTypes.containerItems.code).Reads (write count)
      (.last { restored with serializationCount := count }) := by
    rw [readAttrCode, AttrTypes.ofCode_code]
    simp only [readAttr_containerItems holds chest]
    exact Reads.finish (Reads.read count) (Reads.pure _)
  rw [unserializeAttr, append_assoc, through]
  exact readFields_last (AttrTypes.code_ne_zero _) (handled rest)

theorem unserializeAttr_locker (through : Through 0 (readAttrCode items services) created attributes restored)
    (locker : restored.item.kind = .depotLocker) (rest : Bytes) :
    (unserializeAttr items services created).run (attributes ++ AttrTypes.containerItems.code :: rest) =
      (some (false, restored), rest) := by
  have handled : (readAttrCode items services restored AttrTypes.containerItems.code).run rest =
      (some (.error restored), rest) := by
    rw [readAttrCode, AttrTypes.ofCode_code]
    simp only [readAttr, locker]
    rfl
  rw [unserializeAttr, through]
  exact readFields_error (AttrTypes.code_ne_zero _) handled

variable (items services normalRandom) in
/-- What is created for an object and what reading its attributes makes of that. -/
structure Restores (object : ItemObject) (attributes : Bytes) (created : Item) (restored : ItemObject) : Prop where
  made : Item.createItem items normalRandom object.item.id 0 = some created
  through : Through 0 (readAttrCode items services) { item := created } attributes restored
  id : restored.item.id = object.item.id
  kind : restored.item.kind = object.item.kind
  totalWeight : restored.item.totalWeight = 0
  ownWeight : restored.item.ownWeight items = object.item.ownWeight items

theorem Codable.restores (codable : Codable items place services normalRandom object) :
    ∃ created restored, Restores items services normalRandom object (serializeAttr items place object) created restored := by
  obtain ⟨_, created, restored, made, id, kind, through, count, weight⟩ := codable
  have same : created.SameThing restored.item := unserializeAttr_same items services _ _ _ _ through.run
  have sameId := same.id.trans id
  refine ⟨created, restored, made, through, sameId, same.kind.trans kind,
    same.totalWeight.trans (Item.createItem_created made).totalWeight, ?_⟩
  rw [Item.ownWeight, Item.ownWeight, Item.isStackable, Item.isStackable, sameId, count, weight]

theorem Restores.isContainer {created : Item} (restores : Restores items services normalRandom object attributes created restored) :
    restored.item.isContainer = object.item.isContainer := by
  rw [Item.isContainer, Item.isContainer, restores.kind]

section

variable {load : Reader (Option ItemTree)} {created : Item}

theorem loadNewItem_eq (small : object.item.id < 65536)
    (made : Item.createItem items normalRandom object.item.id 0 = some created) :
    loadNewItem items services normalRandom load (UInt16.ofNat object.item.id) =
      (do
        let (complete, object) ← unserializeAttr items services { item := created }
        if complete then
          if object.item.isContainer then do
            let container ← loadContainer items load object.serializationCount.toNat (.node object [])
            pure (some container)
          else pure (some (.node object []))
        else fail) := by
  have id : (UInt16.ofNat object.item.id).toNat = object.item.id := by
    rw [UInt16.toNat_ofNat']
    exact Nat.mod_eq_of_lt small
  rw [loadNewItem, id, made]

theorem loadNewItem_single (small : object.item.id < 65536)
    (restores : Restores items services normalRandom object attributes created restored)
    (single : object.item.isContainer = false) :
    (loadNewItem items services normalRandom load (UInt16.ofNat object.item.id)).Reads (attributes ++ [0])
      (some (.node restored [])) := by
  rw [loadNewItem_eq small restores.made]
  apply Reads.finish restores.through.reads
  simp only [if_true, restores.isContainer, single, Bool.false_eq_true, if_false]
  exact Reads.pure _

/-- What is left of the bytes of a container is read by `loadContainer`. -/
theorem loadNewItem_container (small : object.item.id < 65536)
    (restores : Restores items services normalRandom object attributes created restored)
    (holds : object.item.isContainer = true) (chest : object.item.kind ≠ .depotLocker) (count : UInt32) (rest : Bytes) :
    (loadNewItem items services normalRandom load (UInt16.ofNat object.item.id)).run
        (attributes ++ (AttrTypes.containerItems.code :: (write count ++ rest))) =
      (loadContainer items load count.toNat (.node { restored with serializationCount := count } []) >>=
        fun container => pure (some container)).run rest := by
  have read := unserializeAttr_container restores.through (restores.isContainer.trans holds)
    (restores.kind ▸ chest) count rest
  rw [append_assoc, cons_append] at read
  rw [loadNewItem_eq small restores.made, run_bind_some read]
  simp only [if_true, restores.isContainer, holds]

theorem loadNewItem_locker (small : object.item.id < 65536)
    (restores : Restores items services normalRandom object attributes created restored)
    (locker : object.item.kind = .depotLocker) (rest : Bytes) :
    ((loadNewItem items services normalRandom load (UInt16.ofNat object.item.id)).run
      (attributes ++ AttrTypes.containerItems.code :: rest)).1 = none := by
  rw [loadNewItem_eq small restores.made,
    run_bind_some (unserializeAttr_locker restores.through (restores.kind.trans locker) rest)]
  rfl

end

end

section

variable (items : ItemTypes) (place : Placement)

/-- The bytes of an item after its id. -/
def saveBody : ItemTree → Bytes
  | .node object children => serializeAttr items place object ++
    ((if object.item.isContainer then
      AttrTypes.containerItems.code :: (write (UInt32.ofNat children.length) ++ saveReversed items place children) else []) ++ [0])

theorem saveItem_eq (tree : ItemTree) :
    saveItem items place tree = write (UInt16.ofNat tree.value.item.id) ++ saveBody items place tree := by
  cases tree with
  | node object children => rw [saveItem, saveBody, Rose.value]

/-- The loaded tree has the items and the weight of the saved one, and its containers record the
sums of weights that a word can hold. -/
structure Like (tree loaded : ItemTree) : Prop where
  shape : loaded.shape = tree.shape
  weight : loaded.getWeight items = tree.weight items
  recorded : loaded.Recorded items ↔ tree.Light items

/-- A reader takes what was saved for the tree. -/
def Taken (load : Reader (Option ItemTree)) (tree : ItemTree) : Prop :=
  ∃ loaded, Like items tree loaded ∧ load.Reads (saveItem items place tree) (some loaded)

/-- A reader fails on what was saved for the tree. -/
def Refused (load : Reader (Option ItemTree)) (tree : ItemTree) : Prop :=
  ∀ rest, (load.run (saveItem items place tree ++ rest)).1 = none

variable {items place} {load : Reader (Option ItemTree)} {children loaded : List ItemTree}

variable (items) in
def addAll (container : ItemTree) (loaded : List ItemTree) : ItemTree :=
  loaded.foldr (fun item container => ItemTree.internalAddThing items container item) container

theorem addAll_node (object : ItemObject) (empty : object.item.totalWeight = 0) :
    addAll items (.node object []) loaded = .node { object with item := { object.item with
      totalWeight := (loaded.map (ItemTree.getWeight items)).sum % 2 ^ 32 } } loaded := by
  unfold addAll
  induction loaded with
  | nil =>
    rw [foldr_nil, map_nil, sum_nil, Nat.zero_mod, ← empty]
  | cons item later ih =>
    rw [foldr_cons, ih, ItemTree.internalAddThing, map_cons, sum_cons]
    simp only [Nat.add_comm _ (ItemTree.getWeight items item), Nat.add_mod_mod]

theorem loadContainer_taken (taken : ∀ child ∈ children, Taken items place load child) :
    ∃ loaded, List.Forall₂ (Like items) children loaded ∧ ∀ count container rest,
      (loadContainer items load (children.length + count) container).run (saveReversed items place children ++ rest) =
        (loadContainer items load count (addAll items container loaded)).run rest := by
  induction children with
  | nil =>
    refine ⟨[], .nil, ?_⟩
    intro count container rest
    rw [length_nil, Nat.zero_add]
    rfl
  | cons child later ih =>
    obtain ⟨items', others, run⟩ := ih (fun child listed => taken child (mem_cons_of_mem _ listed))
    obtain ⟨item, like, reads⟩ := taken child mem_cons_self
    refine ⟨item :: items', .cons like others, ?_⟩
    intro count container rest
    rw [saveReversed, append_assoc, length_cons, Nat.add_assoc, Nat.add_comm 1 count, run, loadContainer,
      run_bind_some (reads rest)]
    rfl

theorem loadContainer_refused (each : ∀ child ∈ children, Taken items place load child ∨ Refused items place load child)
    (bad : ∃ child ∈ children, Refused items place load child) (count : Nat) (container : ItemTree) (rest : Bytes) :
    ((loadContainer items load (children.length + count) container).run (saveReversed items place children ++ rest)).1 =
      none := by
  induction children generalizing count container rest with
  | nil =>
    obtain ⟨child, listed, _⟩ := bad
    exact absurd listed not_mem_nil
  | cons child later ih =>
    have others := fun child listed => each child (mem_cons_of_mem _ listed)
    rw [saveReversed, append_assoc, length_cons, Nat.add_assoc, Nat.add_comm 1 count]
    by_cases worse : ∃ child ∈ later, Refused items place load child
    · exact ih others worse _ _ _
    · have taken : ∀ child ∈ later, Taken items place load child := by
        intro child listed
        exact (others child listed).resolve_right (fun refused => worse ⟨child, listed, refused⟩)
      obtain ⟨loaded, _, run⟩ := loadContainer_taken taken
      have refused : Refused items place load child := by
        obtain ⟨found, listed, refused⟩ := bad
        rcases mem_cons.mp listed with rfl | old
        · exact refused
        · exact absurd ⟨found, old, refused⟩ worse
      rw [run, loadContainer]
      exact run_bind_failed (refused rest)

variable {services : ItemServices} {normalRandom : Nat → Nat → Int} {object restored : ItemObject}

theorem like_single (attributes : Bytes) {created : Item}
    (restores : Restores items services normalRandom object attributes created restored)
    (single : object.item.isContainer = false) : Like items (.node object []) (.node restored []) := by
  refine ⟨?_, ?_, ?_⟩
  · rw [ItemTree.shape, ItemTree.shape, Rose.map_node, Rose.map_node, restores.id, map_nil]
  · rw [ItemTree.weight, Rose.fold_node, single, ItemTree.getWeight, Rose.value, Item.getWeight_eq, restores.isContainer,
      single, restores.ownWeight]
    rfl
  · rw [ItemTree.Recorded, ItemTree.Light, Rose.all_node, Rose.all_node, restores.isContainer, single]
    simp

theorem map_like {γ : Type} {first second : ItemTree → γ} {trees loaded : List ItemTree}
    (like : List.Forall₂ (Like items) trees loaded) (same : ∀ tree loaded, Like items tree loaded → first loaded = second tree) :
    loaded.map first = trees.map second := by
  induction like with
  | nil => rfl
  | cons head _ ih => rw [map_cons, map_cons, ih, same _ _ head]

theorem recorded_iff_light (like : List.Forall₂ (Like items) children loaded) :
    (∀ item ∈ loaded, item.Recorded items) ↔ ∀ child ∈ children, child.Light items := by
  induction like with
  | nil => simp
  | cons head _ ih => rw [forall_mem_cons, forall_mem_cons, ih, head.recorded]

theorem like_container (attributes : Bytes) {created : Item}
    (restores : Restores items services normalRandom object attributes created restored)
    (holds : object.item.isContainer = true) (like : List.Forall₂ (Like items) children loaded) (left : UInt32) :
    Like items (.node object children) (ItemTree.counted (addAll items
      (.node { restored with serializationCount := left } []) loaded)) := by
  have shapes : loaded.map ItemTree.shape = children.map ItemTree.shape :=
    map_like like (fun _ _ like => like.shape)
  have weights : loaded.map (ItemTree.getWeight items) = children.map (ItemTree.weight items) :=
    map_like like (fun _ _ like => like.weight)
  have sums : (loaded.map (ItemTree.getWeight items)).sum = (children.map (ItemTree.weight items)).sum :=
    congrArg List.sum weights
  have added : ItemTree.counted (addAll items (.node { restored with serializationCount := left } []) loaded) =
      .node { restored with
        serializationCount := 0
        item := { restored.item with
          totalWeight := (children.map (ItemTree.weight items)).sum % 2 ^ 32 } } loaded := by
    rw [addAll_node { restored with serializationCount := left } restores.totalWeight, sums]
    rfl
  rw [added]
  refine ⟨?_, ?_, ?_⟩
  · simp only [ItemTree.shape, Rose.map_node, restores.id] at shapes ⊢
    exact congrArg _ shapes
  · have own : ItemTree.getWeight items (.node { restored with
        serializationCount := 0
        item := { restored.item with
          totalWeight := (children.map (ItemTree.weight items)).sum % 2 ^ 32 } } loaded) =
        (restored.item.ownWeight items + (children.map (ItemTree.weight items)).sum % 2 ^ 32) % 2 ^ 32 :=
      if_pos (restores.isContainer.trans holds)
    rw [own, restores.ownWeight, Nat.add_mod_mod, ItemTree.weight, Rose.fold_node, if_pos holds]
    rfl
  · have top : (restored.item.isContainer = true → (children.map (ItemTree.weight items)).sum % 2 ^ 32 =
        (loaded.map (ItemTree.getWeight items)).sum) ↔ (children.map (ItemTree.weight items)).sum < 2 ^ 32 := by
      rw [sums]
      constructor
      · intro recorded
        rw [← recorded (restores.isContainer.trans holds)]
        exact Nat.mod_lt _ (by decide)
      · intro light _
        exact Nat.mod_eq_of_lt light
    rw [ItemTree.Recorded, ItemTree.Light, Rose.all_node, Rose.all_node]
    exact and_congr top (recorded_iff_light like)

section

variable (services normalRandom) {tree : ItemTree} {depth : Nat}

/-- What is left of the bytes of a tree after its id makes a tree like it. -/
def BodyTaken (items : ItemTypes) (place : Placement) (depth : Nat) (tree : ItemTree) : Prop :=
  ∃ loaded, Like items tree loaded ∧ (loadNewItem items services normalRandom
    (loadItemWithin items services normalRandom depth) (UInt16.ofNat tree.value.item.id)).Reads
      (saveBody items place tree) (some loaded)

/-- What is left of the bytes of a tree after its id cannot be read. -/
def BodyRefused (items : ItemTypes) (place : Placement) (depth : Nat) (tree : ItemTree) : Prop :=
  ∀ rest, ((loadNewItem items services normalRandom (loadItemWithin items services normalRandom depth)
    (UInt16.ofNat tree.value.item.id)).run (saveBody items place tree ++ rest)).1 = none

variable {services normalRandom}

theorem length_saveItem : (saveItem items place tree).length = (saveBody items place tree).length + 2 := by
  rw [saveItem_eq, length_append, length_write, Nat.add_comm]
  rfl

theorem taken_of_body (deep : (saveItem items place tree).length ≤ depth)
    (body : ∀ depth, (saveBody items place tree).length ≤ depth → BodyTaken services normalRandom items place depth tree) :
    Taken items place (loadItemWithin items services normalRandom depth) tree := by
  rw [length_saveItem] at deep
  obtain ⟨depth, rfl⟩ := Nat.exists_eq_add_of_le' (Nat.le_trans (Nat.le_add_left 1 _) deep)
  obtain ⟨loaded, like, reads⟩ := body depth (by omega)
  refine ⟨loaded, like, ?_⟩
  rw [saveItem_eq]
  exact Reads.bind (Reads.read _) reads

theorem refused_of_body (deep : (saveItem items place tree).length ≤ depth)
    (body : ∀ depth, (saveBody items place tree).length ≤ depth → BodyRefused services normalRandom items place depth tree) :
    Refused items place (loadItemWithin items services normalRandom depth) tree := by
  rw [length_saveItem] at deep
  obtain ⟨depth, rfl⟩ := Nat.exists_eq_add_of_le' (Nat.le_trans (Nat.le_add_left 1 _) deep)
  intro rest
  rw [saveItem_eq, append_assoc, loadItemWithin, run_bind_some (Reads.read _ _)]
  exact body depth (by omega) rest

theorem length_child {child : ItemTree} {children : List ItemTree} (listed : child ∈ children) :
    (saveItem items place child).length ≤ (saveReversed items place children).length := by
  induction children with
  | nil => exact absurd listed not_mem_nil
  | cons head later ih =>
    rw [saveReversed, length_append]
    rcases mem_cons.mp listed with rfl | old
    · exact Nat.le_add_left _ _
    · exact Nat.le_trans (ih old) (Nat.le_add_right _ _)

/-- Without depot lockers a tree is read back, and with one it cannot be read. -/
theorem body_outcome (codable : tree.All (fun object _ => Codable items place services normalRandom object))
    (contained : tree.Contained) (counted : tree.Counted) :
    (tree.NoLocker → ∀ depth, (saveBody items place tree).length ≤ depth → BodyTaken services normalRandom items place depth tree) ∧
    (¬ tree.NoLocker → ∀ depth, (saveBody items place tree).length ≤ depth →
      BodyRefused services normalRandom items place depth tree) := by
  induction tree using Rose.induct with
  | node object children ih =>
    obtain ⟨created, restored, restores⟩ := codable.here.restores
    have small := codable.here.1
    by_cases holds : object.item.isContainer = true
    · have count : (UInt32.ofNat children.length).toNat = children.length := by
        rw [UInt32.toNat_ofNat']
        exact Nat.mod_eq_of_lt counted.here
      have body : ∀ rest, saveBody items place (.node object children) ++ rest = serializeAttr items place object ++
          (AttrTypes.containerItems.code :: (write (UInt32.ofNat children.length) ++
            (saveReversed items place children ++ (0 :: rest)))) := by
        intro rest
        rw [saveBody, if_pos holds]
        simp only [append_assoc, cons_append, nil_append]
      by_cases locker : object.item.kind = .depotLocker
      · refine ⟨fun noLocker => absurd locker noLocker.here, ?_⟩
        intro _ depth _ rest
        rw [body]
        exact loadNewItem_locker small restores locker _
      · have shorter : ∀ depth, (saveBody items place (.node object children)).length ≤ depth →
            ∀ child ∈ children, (saveItem items place child).length ≤ depth := by
          intro depth deep child listed
          have inside : (saveItem items place child).length ≤ (saveReversed items place children).length :=
            length_child listed
          have whole := congrArg List.length (body [])
          simp only [length_append, length_cons, length_nil] at whole
          omega
        have taken : ∀ depth, (saveBody items place (.node object children)).length ≤ depth → ∀ child ∈ children,
            ItemTree.NoLocker child → Taken items place (loadItemWithin items services normalRandom depth) child := by
          intro depth deep child listed noLocker
          exact taken_of_body (shorter depth deep child listed)
            ((ih child listed (codable.inner child listed) (contained.inner child listed) (counted.inner child listed)).1 noLocker)
        have refused : ∀ depth, (saveBody items place (.node object children)).length ≤ depth → ∀ child ∈ children,
            ¬ ItemTree.NoLocker child → Refused items place (loadItemWithin items services normalRandom depth) child := by
          intro depth deep child listed noLocker
          exact refused_of_body (shorter depth deep child listed)
            ((ih child listed (codable.inner child listed) (contained.inner child listed) (counted.inner child listed)).2 noLocker)
        constructor
        · intro noLocker depth deep
          obtain ⟨loaded, like, run⟩ := loadContainer_taken
            (fun child listed => taken depth deep child listed (noLocker.inner child listed))
          refine ⟨_, like_container _ restores holds like (UInt32.ofNat children.length), ?_⟩
          intro rest
          have more := run 0 (.node { restored with serializationCount := UInt32.ofNat children.length } []) (0 :: rest)
          rw [Nat.add_zero] at more
          have all : (loadContainer items (loadItemWithin items services normalRandom depth) children.length
              (.node { restored with serializationCount := UInt32.ofNat children.length } [])).run
                (saveReversed items place children ++ 0 :: rest) =
              (some (ItemTree.counted (addAll items (.node { restored with
                serializationCount := UInt32.ofNat children.length } []) loaded)), rest) := by
            rw [more]
            rfl
          rw [body, Rose.value, loadNewItem_container small restores holds locker, count, run_bind_some all]
          rfl
        · intro some depth deep rest
          obtain ⟨child, listed, bad⟩ := (Rose.not_all_node.mp some).resolve_left (not_not.mpr locker)
          have none := loadContainer_refused (fun child listed => by
            by_cases noLocker : ItemTree.NoLocker child
            · exact .inl (taken depth deep child listed noLocker)
            · exact .inr (refused depth deep child listed noLocker))
            ⟨child, listed, refused depth deep child listed bad⟩ 0
            (.node { restored with serializationCount := UInt32.ofNat children.length } []) (0 :: rest)
          rw [Nat.add_zero] at none
          rw [body, Rose.value, loadNewItem_container small restores holds locker, count]
          exact run_bind_failed none
    · have single := eq_false_of_ne_true holds
      have empty := contained.here single
      subst empty
      have noLocker : ItemTree.NoLocker (.node object []) := by
        refine .node ?_ nofun
        intro locker
        simp [Item.isContainer, ItemClass.isContainer, locker] at single
      refine ⟨?_, fun locker => absurd noLocker locker⟩
      intro _ depth _
      refine ⟨.node restored [], like_single _ restores single, ?_⟩
      have body : saveBody items place (.node object []) = serializeAttr items place object ++ [0] := by
        rw [saveBody, single]
        rfl
      rw [body]
      exact loadNewItem_single small restores single

end

end

section

variable (items : ItemTypes) (services : ItemServices) (normalRandom : Nat → Nat → Int)

/-- A container is filled with as many items as were counted, at most. -/
theorem loadContainer_counted {load : Reader (Option ItemTree)}
    (each : load.Yields (fun made => ∀ tree ∈ made, ItemTree.Counted tree)) (count : Nat) (object : ItemObject)
    (children : List ItemTree) (room : children.length + count < 2 ^ 32) (inner : ∀ child ∈ children, child.Counted) :
    (loadContainer items load count (.node object children)).Yields ItemTree.Counted := by
  induction count generalizing object children with
  | zero =>
    apply Yields.then
    intro endAttr
    split
    · exact Yields.fail
    · exact Yields.pure (.node room inner)
  | succ count ih =>
    refine Yields.bind each ?_
    intro made counted
    cases made with
    | none => exact ih object children (by omega) inner
    | some tree =>
      refine ih _ _ ?_ ?_
      · rw [length_cons]
        omega
      · intro child listed
        rcases mem_cons.mp listed with rfl | old
        · exact counted child rfl
        · exact inner child old

theorem loadNewItem_counted {load : Reader (Option ItemTree)}
    (each : load.Yields (fun made => ∀ tree ∈ made, ItemTree.Counted tree)) (id : UInt16) :
    (loadNewItem items services normalRandom load id).Yields (fun made => ∀ tree ∈ made, ItemTree.Counted tree) := by
  unfold loadNewItem
  split
  · exact Yields.pure nofun
  · apply Yields.then
    rintro ⟨complete, object⟩
    dsimp only
    split
    · split
      · have filled := loadContainer_counted items each object.serializationCount.toNat object [] (by
          rw [length_nil, Nat.zero_add]
          exact object.serializationCount.toNat_lt) nofun
        refine Yields.bind filled ?_
        intro container counted
        apply Yields.pure
        rintro tree ⟨⟩
        exact counted
      · apply Yields.pure
        rintro tree ⟨⟩
        exact .node (by decide) nofun
    · exact Yields.fail

theorem loadItemWithin_counted (depth : Nat) :
    (loadItemWithin items services normalRandom depth).Yields (fun made => ∀ tree ∈ made, ItemTree.Counted tree) := by
  induction depth with
  | zero => exact Yields.fail
  | succ depth ih =>
    rw [loadItemWithin]
    exact Yields.then fun id => loadNewItem_counted items services normalRandom ih id

end

section

variable {items : ItemTypes} {place : Placement} {services : ItemServices} {normalRandom : Nat → Nat → Int} {tree : ItemTree}

variable (items place services normalRandom) in
/-- With a parent for which new items are created, and whatever bytes come after it, what was saved
for the tree is read as the same tree, whose containers record what is in them weighs. -/
def Framed (tree : ItemTree) : Prop :=
  ∀ (onTile : Bool) (stationary : UInt16 → Reader (Option ItemTree)),
    onTile = false ∨ (items.get tree.value.item.id).moveable = true ∨ (items.get tree.value.item.id).forceSerialize = true →
    ∀ suffix, ∃ loaded : ItemTree, (loadItem items services normalRandom onTile stationary).run
        (saveItem items place tree ++ suffix) = (some (some loaded), suffix) ∧
      loaded.shape = tree.shape ∧ loaded.Recorded items

theorem loadItem_new {onTile : Bool} {stationary : UInt16 → Reader (Option ItemTree)} (small : tree.value.item.id < 65536)
    (creates : onTile = false ∨ (items.get tree.value.item.id).moveable = true ∨
      (items.get tree.value.item.id).forceSerialize = true) (suffix : Bytes) :
    (loadItem items services normalRandom onTile stationary).run (saveItem items place tree ++ suffix) =
      (loadNewItem items services normalRandom
        (loadItemWithin items services normalRandom (saveItem items place tree ++ suffix).length)
        (UInt16.ofNat tree.value.item.id)).run (saveBody items place tree ++ suffix) := by
  have id : (UInt16.ofNat tree.value.item.id).toNat = tree.value.item.id := by
    rw [UInt16.toNat_ofNat']
    exact Nat.mod_eq_of_lt small
  have chosen : ((items.get tree.value.item.id).moveable || (items.get tree.value.item.id).forceSerialize || !onTile) = true := by
    rcases creates with rfl | moveable | forced
    · simp
    · simp [moveable]
    · simp [forced]
  have bytes : saveItem items place tree ++ suffix =
      write (UInt16.ofNat tree.value.item.id) ++ (saveBody items place tree ++ suffix) := by
    rw [saveItem_eq, append_assoc]
  simp only [loadItem]
  generalize (saveItem items place tree ++ suffix).length = depth
  rw [bytes, run_bind_some (Reads.read _ _), id, if_pos chosen]

theorem counted_iff_shape : tree.Counted ↔ tree.shape.All (fun _ children => children.length < 2 ^ 32) :=
  (Rose.all_length_map _ (fun length => length < 2 ^ 32)).symm

theorem deep_enough (suffix : Bytes) :
    (saveBody items place tree).length ≤ (saveItem items place tree ++ suffix).length := by
  rw [saveItem_eq, append_assoc, length_append, length_append]
  omega

variable (codable : tree.All (fun object _ => Codable items place services normalRandom object))
  (contained : tree.Contained)
include codable

theorem id_lt : tree.value.item.id < 65536 := by
  cases tree with
  | node object children => exact codable.here.1

theorem Framed.counted (framed : Framed items place services normalRandom tree) : tree.Counted := by
  obtain ⟨loaded, run, shape, _⟩ := framed false (fun _ => fail) (.inl rfl) []
  rw [loadItem_new (id_lt codable) (.inl rfl)] at run
  have counted : loaded.Counted :=
    loadNewItem_counted items services normalRandom (loadItemWithin_counted items services normalRandom _) _ _ _ _ run
      loaded rfl
  rw [counted_iff_shape] at counted ⊢
  rwa [← shape]

include contained

theorem Framed.noLocker (framed : Framed items place services normalRandom tree) : tree.NoLocker := by
  apply Classical.byContradiction
  intro locker
  obtain ⟨loaded, run, _⟩ := framed false (fun _ => fail) (.inl rfl) []
  have refused := (body_outcome codable contained (framed.counted codable)).2 locker _ (deep_enough []) []
  rw [loadItem_new (id_lt codable) (.inl rfl)] at run
  rw [run] at refused
  cases refused

/-- A tree is framed just when there is no depot locker in it, and the items in one container are
neither too many to be counted nor too heavy to be weighed. -/
theorem framed_iff : Framed items place services normalRandom tree ↔ tree.NoLocker ∧ tree.Counted ∧ tree.Light items := by
  constructor
  · intro framed
    have counted := framed.counted codable
    have noLocker := framed.noLocker codable contained
    obtain ⟨loaded, run, _, recorded⟩ := framed false (fun _ => fail) (.inl rfl) []
    obtain ⟨made, like, reads⟩ := (body_outcome codable contained counted).1 noLocker _ (deep_enough [])
    rw [loadItem_new (id_lt codable) (.inl rfl), reads []] at run
    cases run
    exact ⟨noLocker, counted, like.recorded.mp recorded⟩
  · rintro ⟨noLocker, counted, light⟩ onTile stationary creates suffix
    obtain ⟨made, like, reads⟩ := (body_outcome codable contained counted).1 noLocker _ (deep_enough suffix)
    refine ⟨made, ?_, like.shape, like.recorded.mpr light⟩
    rw [loadItem_new (id_lt codable) creates, reads suffix]

end

/-- A new item of a type that takes no count, without attributes. -/
theorem codable_new {items : ItemTypes} (place : Placement) (services : ItemServices) (normalRandom : Nat → Nat → Int)
    {item : Item} (small : item.id < 65536) (created : Item.createItem items normalRandom item.id 0 = some item)
    (none : serializeAttr items place { item } = []) : Codable items place services normalRandom { item } :=
  ⟨small, item, { item }, created, rfl, rfl, none ▸ Through.nil _, rfl, rfl⟩

theorem codable_store {item : Item} (stored : item ∈ [bag, locker, sword]) :
    Codable storeItems CustomAttribute.roundAddress emptyServices (fun _ _ => 0) { item } := by
  simp only [mem_cons, not_mem_nil, or_false] at stored
  rcases stored with rfl | rfl | rfl
  · exact codable_new _ _ _ (by decide) (by decide +kernel) rfl
  · exact codable_new _ _ _ (by decide) (by decide +kernel) rfl
  · exact codable_new _ _ _ (by decide) (by decide +kernel) rfl

theorem codable_inBag {item : Item} (stored : item ∈ [bag, locker, sword]) : (inBag item).All
    (fun object _ => Codable storeItems CustomAttribute.roundAddress emptyServices (fun _ _ => 0) object) := by
  refine .node (codable_store (by simp)) ?_
  intro child listed
  rw [mem_singleton] at listed
  rw [listed]
  exact .node (codable_store stored) nofun

theorem framed_iff_sword : Framed storeItems CustomAttribute.roundAddress emptyServices (fun _ _ => 0) (inBag sword) ↔
    (inBag sword).NoLocker ∧ (inBag sword).Counted ∧ (inBag sword).Light storeItems :=
  framed_iff (codable_inBag (by simp)) (contained_inBag sword)

/-- A locker in a bag is written and cannot be read. -/
theorem not_framed_locker : (inBag locker).All
      (fun object _ => Codable storeItems CustomAttribute.roundAddress emptyServices (fun _ _ => 0) object) ∧
    (inBag locker).Contained ∧
    ¬ Framed storeItems CustomAttribute.roundAddress emptyServices (fun _ _ => 0) (inBag locker) := by
  have codable := codable_inBag (show locker ∈ [bag, locker, sword] by simp)
  refine ⟨codable, contained_inBag locker, ?_⟩
  intro framed
  have noLocker := framed.noLocker codable (contained_inBag locker)
  exact (noLocker.inner (.node { item := locker } []) (by simp)).here rfl

end Styller
