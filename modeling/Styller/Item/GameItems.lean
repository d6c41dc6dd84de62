import Styller.Item.Item

/-! An extract of the type table in `data/items`, as a checked `ItemTypes`. -/

namespace Styller

/-- The facts of `ItemTypes` about one entry, decided. -/
def ItemType.checked (currency : List (Nat × Nat)) (it : ItemType) : Bool :=
  it.stackSize < 256 && it.floorChange.all TileFlag.isFloorChange &&
    (!it.stackable || (it.group = .none && (it.type = .none || it.type = .key || it.type = .rune) &&
      !it.alwaysOnTop && !it.isHangable && it.id ≠ 0 && renamedItem it.id = none)) &&
    (it.worth = 0 || (it.worth, it.id) ∈ currency)

private def lookup (types : List ItemType) (id : Nat) : ItemType :=
  (types.find? (·.id = id)).getD {}

private theorem lookup_cases (types : List ItemType) (id : Nat) :
    lookup types id = {} ∨ (lookup types id ∈ types ∧ (lookup types id).id = id) := by
  unfold lookup
  cases found : types.find? (·.id = id) with
  | none => exact .inl rfl
  | some it =>
    refine .inr ⟨List.mem_of_find?_eq_some found, ?_⟩
    simpa using List.find?_some found

private theorem plain_of_checked (checked : ItemType.checked currency it = true)
    (stackable : it.stackable = true) :
    it.Plain ∧ it.id ≠ 0 ∧ renamedItem it.id = none := by
  simp [ItemType.checked, stackable] at checked
  obtain ⟨⟨_, ⟨⟨⟨⟨group, type⟩, notOnTop⟩, notHangable⟩, nonzero⟩, kept⟩, _⟩ := checked
  exact ⟨⟨group, or_assoc.mp type, notOnTop, notHangable⟩, nonzero, kept⟩

/-- A type table from a list of entries; every other id has the default entry. -/
def ItemTypes.ofList (types : List ItemType) (currency : List (Nat × Nat))
    (checked : ∀ it ∈ types, it.checked currency = true)
    (coins : ∀ entry ∈ currency, ((types.find? (·.id = entry.2)).getD {}).stackable = true ∧
      ((types.find? (·.id = entry.2)).getD {}).worth = entry.1) : ItemTypes where
  get := lookup types
  currencyItems := currency
  stackable_plain := by
    intro id stackable
    rcases lookup_cases types id with default | ⟨member, _⟩
    · rw [default] at stackable
      cases stackable
    · exact (plain_of_checked (checked _ member) stackable).1
  stackable_id := by
    intro id stackable
    rcases lookup_cases types id with default | ⟨member, same⟩
    · rw [default] at stackable
      cases stackable
    · obtain ⟨_, nonzero, kept⟩ := plain_of_checked (checked _ member) stackable
      rw [same] at nonzero kept
      exact ⟨same, nonzero, kept⟩
  stackSize_lt := by
    intro id
    rcases lookup_cases types id with default | ⟨member, _⟩
    · rw [default]
      decide
    · have entry := checked _ member
      simp only [ItemType.checked, Bool.and_eq_true, decide_eq_true_eq] at entry
      exact entry.1.1.1
  floorChange_flags := by
    intro id flag listed
    rcases lookup_cases types id with default | ⟨member, _⟩
    · rw [default] at listed
      cases listed
    · have entry := checked _ member
      simp only [ItemType.checked, Bool.and_eq_true, List.all_eq_true] at entry
      exact entry.1.1.2 flag listed
  currency_type := coins
  worth_currency := by
    intro id worth
    rcases lookup_cases types id with default | ⟨member, same⟩
    · rw [default] at worth
      exact absurd rfl worth
    · have entry := checked _ member
      simp only [ItemType.checked, Bool.and_eq_true, Bool.or_eq_true, decide_eq_true_eq] at entry
      rcases entry.2 with zero | listed
      · exact absurd zero worth
      · rwa [same] at listed

/-- Every entry has its own id, or none. -/
theorem ItemTypes.ofList_id (types : List ItemType) (currency : List (Nat × Nat)) (checked) (coins) (id : Nat) :
    ((ofList types currency checked coins).get id).id = 0 ∨ ((ofList types currency checked coins).get id).id = id := by
  rcases lookup_cases types id with default | ⟨_, same⟩
  · exact .inl (congrArg ItemType.id default)
  · exact .inr same

theorem ItemTypes.ofList_get (types : List ItemType) (currency : List (Nat × Nat)) (checked) (coins) (id : Nat) :
    (ofList types currency checked coins).get id = {} ∨ (ofList types currency checked coins).get id ∈ types := by
  rcases lookup_cases types id with default | ⟨member, _⟩
  · exact .inl default
  · exact .inr member

/-- The entries: coins, bag, backpack, sword, dirt ground, dustbin, purple tapestry. -/
def gameTypes : List ItemType :=
  [{ id := 2148, weight := 10, worth := 1, stackable := true, pickupable := true, moveable := true },
   { id := 2152, weight := 10, worth := 100, stackable := true, pickupable := true, moveable := true },
   { id := 2160, weight := 10, worth := 10000, stackable := true, pickupable := true, moveable := true },
   { id := 1987, weight := 800, group := .container, type := .container, maxItems := 8,
     slotPosition := { left := false, right := false, backpack := true }, pickupable := true, moveable := true },
   { id := 1988, weight := 1800, group := .container, type := .container, maxItems := 20,
     slotPosition := { left := false, right := false, backpack := true }, pickupable := true, moveable := true },
   { id := 2376, weight := 3500, weaponType := .sword, pickupable := true, moveable := true },
   { id := 103, group := .ground },
   { id := 1777, type := .trashHolder, blockSolid := true, ignoreBlocking := true },
   { id := 1857, weight := 1000, isHangable := true, pickupable := true, moveable := true }]

/-- `gameTypes` with the currency map that loading it builds. -/
def gameItems : ItemTypes :=
  ItemTypes.ofList gameTypes [(10000, 2160), (100, 2152), (1, 2148)] (by decide) (by decide)

@[simp] theorem gameItems_currencyItems :
    gameItems.currencyItems = [(10000, 2160), (100, 2152), (1, 2148)] := rfl

/-- A bag, a locker and a sword. -/
def storeItems : ItemTypes :=
  ItemTypes.ofList
    [{ id := 1987, weight := 800, group := .container, type := .container, maxItems := 8, pickupable := true, moveable := true },
     { id := 2589, type := .depot },
     { id := 2376, weight := 3500, weaponType := .sword, pickupable := true, moveable := true }] [] (by decide) (by decide)

end Styller
