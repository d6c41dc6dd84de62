import Styller.Library.Fields

/-! Custom attributes of items: the map, and how it is written and read. -/

namespace Styller

open Library List

inductive CustomAttribute where
  | string (value : Bytes)
  | integer (value : Int64)
  | double (bits : UInt64)
  | boolean (value : Bool)

/-- `boost::algorithm::to_lower_copy` on the letters of ASCII. -/
def toLowerCopy (key : Bytes) : Bytes :=
  key.map (fun letter => if 65 ≤ letter ∧ letter ≤ 90 then letter + 32 else letter)

theorem toLowerCopy_toLowerCopy (key : Bytes) : toLowerCopy (toLowerCopy key) = toLowerCopy key := by
  unfold toLowerCopy
  rw [map_map]
  apply map_congr_left
  intro letter _
  simp only [Function.comp_apply]
  split
  · next upper =>
    obtain ⟨low, high⟩ := upper
    rw [UInt8.le_iff_toNat_le] at low high
    rw [if_neg]
    rintro ⟨_, still⟩
    rw [UInt8.le_iff_toNat_le, UInt8.toNat_add] at still
    simp only [UInt8.reduceToNat] at low high still
    omega
  · rfl

structure CustomAttributeMap where
  entries : List (Bytes × CustomAttribute)
  distinct : (entries.map Prod.fst).Nodup
  lowerCase : ∀ entry ∈ entries, toLowerCopy entry.1 = entry.1

namespace CustomAttributeMap

def empty : CustomAttributeMap := ⟨[], nodup_nil, nofun⟩

@[ext] theorem ext {first second : CustomAttributeMap} (same : first.entries = second.entries) : first = second := by
  cases first
  cases second
  cases same
  rfl

/-- `setCustomAttribute`: the entry of that key is removed and a new one put in. -/
def setCustomAttribute (map : CustomAttributeMap) (key : Bytes) (value : CustomAttribute) : CustomAttributeMap where
  entries := map.entries.filter (fun entry => entry.1 ≠ toLowerCopy key) ++ [(toLowerCopy key, value)]
  distinct := by
    rw [map_append, nodup_append]
    refine ⟨List.Sublist.nodup (filter_sublist.map _) map.distinct, by simp, ?_⟩
    intro other listed new isNew same
    obtain ⟨entry, kept, rfl⟩ := mem_map.mp listed
    rw [map_singleton, mem_singleton] at isNew
    have different := (mem_filter.mp kept).2
    simp [same, isNew] at different
  lowerCase := by
    intro entry listed
    rcases mem_append.mp listed with old | new
    · exact map.lowerCase entry (mem_filter.mp old).1
    · obtain rfl := mem_singleton.mp new
      exact toLowerCopy_toLowerCopy key

/-- A key that is not there is put at the end. -/
theorem setCustomAttribute_new {map : CustomAttributeMap} {key : Bytes} (lower : toLowerCopy key = key)
    (new : key ∉ map.entries.map Prod.fst) (value : CustomAttribute) :
    (map.setCustomAttribute key value).entries = map.entries ++ [(key, value)] := by
  have all : map.entries.filter (fun entry => entry.1 ≠ key) = map.entries := by
    apply filter_eq_self.mpr
    intro entry listed
    have other : entry.1 ≠ key := fun same => new (same ▸ mem_map_of_mem listed)
    simpa using other
  simp only [setCustomAttribute, lower, all]

end CustomAttributeMap

/-- The 32 bytes of a `std::string`: where its characters are, how many, and a buffer that
holds them if they are few. -/
structure StringObject (string : Bytes) where
  address : UInt64
  aligned : address.toNat % 8 = 0
  positive : 0 < address.toNat
  user : address.toNat < 2 ^ 47
  buffer : Bytes
  buffer_length : buffer.length = 16
  holds : string.length ≤ 15 → string ++ [0] <+: buffer

def StringObject.bytes {string : Bytes} (object : StringObject string) : Bytes :=
  lowFirst 8 object.address.toNat ++ (lowFirst 8 string.length ++ object.buffer)

abbrev Placement := ∀ (_ : Bytes) (string : Bytes), StringObject string

section

variable (place : Placement)

/-- `CustomAttribute::serialize`. A `std::string` goes to the template of the visitor, which
writes the object, rather than to the overload for views. -/
def serializeCustomAttribute (key : Bytes) : CustomAttribute → Bytes
  | .string value => write (1 : UInt8) ++ (place key value).bytes
  | .integer value => write (2 : UInt8) ++ write value
  | .double bits => write (3 : UInt8) ++ write bits
  | .boolean value => write (4 : UInt8) ++ write value

/-- A key and its value. -/
def serializeEntry (entry : Bytes × CustomAttribute) : Bytes :=
  writeString entry.1 ++ serializeCustomAttribute place entry.1 entry.2

/-- What `serializeAttr` writes after `ATTR_CUSTOM_ATTRIBUTES`. -/
def serializeCustomAttributes (map : CustomAttributeMap) : Bytes :=
  write (UInt64.ofNat map.entries.length) ++ map.entries.flatMap (serializeEntry place)

end

section

open Reader

/-- `CustomAttribute::unserialize`. -/
def unserializeCustomAttribute : Reader CustomAttribute := do
  let pos ← read UInt8
  if pos = 1 then do
    let value ← readString
    pure (.string value)
  else if pos = 2 then do
    let value ← read Int64
    pure (.integer value)
  else if pos = 3 then do
    let value ← read UInt64
    pure (.double value)
  else if pos = 4 then do
    let value ← read Bool
    pure (.boolean value)
  else fail

/-- One round of the loop of `readAttr`. -/
def readEntry : Reader (Bytes × CustomAttribute) := do
  let key ← readString
  let value ← unserializeCustomAttribute
  pure (key, value)

/-- The loop of `readAttr` over so many entries. -/
def readEntries : Nat → CustomAttributeMap → Reader (Handled CustomAttributeMap)
  | 0, map => pure (.more map)
  | size + 1, map => do
    match ← attempt readEntry with
    | some (key, value) => readEntries size (map.setCustomAttribute key value)
    | none => pure (.error map)

/-- `readAttr` on `ATTR_CUSTOM_ATTRIBUTES`. -/
def readCustomAttributes (map : CustomAttributeMap) : Reader (Handled CustomAttributeMap) := do
  let size ← read UInt64
  readEntries size.toNat map

end

/-- A map whose keys and strings fit into the length fields. -/
structure CustomAttributeMap.Fits (map : CustomAttributeMap) : Prop where
  size : map.entries.length < 2 ^ 64
  keys : ∀ entry ∈ map.entries, entry.1.length ≤ 65535
  strings : ∀ entry ∈ map.entries, ∀ value, entry.2 = .string value → value.length ≤ 65535

/-- Whatever bytes come after it and wherever its strings are copied to, what is written for the
map is read back as the map. -/
def CustomAttributeMap.RoundTrips (map : CustomAttributeMap) : Prop :=
  ∀ place : Placement, (readCustomAttributes .empty).Reads (serializeCustomAttributes place map) (.more map)

namespace CustomAttribute

open Reader

def isString : CustomAttribute → Bool
  | .string _ => true
  | _ => false

theorem unserialize_reads (place : Placement) (key : Bytes) {value : CustomAttribute} (plain : value.isString = false) :
    unserializeCustomAttribute.Reads (serializeCustomAttribute place key value) value := by
  cases value with
  | string value => cases plain
  | integer value => exact Reads.bind (Reads.read (2 : UInt8)) (Reads.finish (Reads.read value) (Reads.pure _))
  | double bits => exact Reads.bind (Reads.read (3 : UInt8)) (Reads.finish (Reads.read bits) (Reads.pure _))
  | boolean value => exact Reads.bind (Reads.read (4 : UInt8)) (Reads.finish (Reads.read value) (Reads.pure _))

theorem readEntry_reads (place : Placement) {entry : Bytes × CustomAttribute} (fits : entry.1.length ≤ 65535)
    (plain : entry.2.isString = false) : readEntry.Reads (serializeEntry place entry) entry := by
  apply Reads.bind (Reads.string fits)
  exact Reads.finish (unserialize_reads place entry.1 plain) (Reads.pure _)

/-- Entries without strings are put into the map one after the other. -/
theorem readEntries_run (place : Placement) {entries : List (Bytes × CustomAttribute)}
    (plain : ∀ entry ∈ entries, entry.2.isString = false) (fits : ∀ entry ∈ entries, entry.1.length ≤ 65535)
    (size : Nat) (map : CustomAttributeMap) (rest : Bytes) :
    (readEntries (entries.length + size) map).run (entries.flatMap (serializeEntry place) ++ rest) =
      (readEntries size (entries.foldl (fun map entry => map.setCustomAttribute entry.1 entry.2) map)).run rest := by
  induction entries generalizing map with
  | nil => simp
  | cons entry entries ih =>
    have head := (readEntry_reads place (fits entry mem_cons_self) (plain entry mem_cons_self)).attempt
    rw [length_cons, Nat.add_right_comm, readEntries, flatMap_cons, append_assoc,
      run_bind_some (head _)]
    exact ih (fun entry listed => plain entry (mem_cons_of_mem _ listed))
      (fun entry listed => fits entry (mem_cons_of_mem _ listed)) _

/-- New entries end up behind those of the map. -/
theorem foldl_setCustomAttribute {entries : List (Bytes × CustomAttribute)} {map : CustomAttributeMap}
    (lower : ∀ entry ∈ entries, toLowerCopy entry.1 = entry.1)
    (distinct : ((map.entries ++ entries).map Prod.fst).Nodup) :
    (entries.foldl (fun map entry => map.setCustomAttribute entry.1 entry.2) map).entries = map.entries ++ entries := by
  induction entries generalizing map with
  | nil => simp
  | cons entry entries ih =>
    have new : entry.1 ∉ map.entries.map Prod.fst := by
      intro old
      rw [map_append, nodup_append] at distinct
      exact distinct.2.2 entry.1 old entry.1 (by simp) rfl
    have put := CustomAttributeMap.setCustomAttribute_new (lower entry mem_cons_self) new entry.2
    rw [foldl_cons, ih (fun entry listed => lower entry (mem_cons_of_mem _ listed)), put]
    · simp
    · rw [put]
      simpa using distinct

/-- Where every string goes to the same round address. -/
def roundAddress : Placement := fun _ string =>
  { address := 1099511627776
    aligned := by decide
    positive := by decide
    user := by decide
    buffer := if string.length ≤ 15 then string ++ List.replicate (16 - string.length) 0 else List.replicate 16 0
    buffer_length := by
      split
      · rw [length_append, length_replicate]
        omega
      · rfl
    holds := by
      intro few
      rw [if_pos few]
      refine ⟨List.replicate (15 - string.length) 0, ?_⟩
      rw [append_assoc]
      have more : 16 - string.length = 15 - string.length + 1 := by omega
      rw [more]
      rfl }

/-- At that address the string is read as the empty string, and all but two bytes of the object
stay in the stream. -/
theorem readEntry_string {key : Bytes} (fits : key.length ≤ 65535) (value rest : Bytes) :
    ∃ left, readEntry.run (serializeEntry roundAddress (key, .string value) ++ rest) =
      (some (key, .string []), 0 :: 0 :: 0 :: left) := by
  obtain ⟨left, object⟩ : ∃ left, (roundAddress key value).bytes ++ rest = write (0 : UInt16) ++ (0 :: 0 :: 0 :: left) := by
    have address : lowFirst 8 (roundAddress key value).address.toNat =
        write (0 : UInt16) ++ [0, 0, 0, 1, 0, 0] :=
      (by decide : lowFirst 8 (1099511627776 : UInt64).toNat = write (0 : UInt16) ++ [0, 0, 0, 1, 0, 0])
    refine ⟨1 :: 0 :: 0 :: (lowFirst 8 value.length ++ (roundAddress key value).buffer ++ rest), ?_⟩
    rw [StringObject.bytes, address, append_assoc, append_assoc]
    rfl
  have empty : readString.run (write (0 : UInt16) ++ (0 :: 0 :: 0 :: left)) = (some [], 0 :: 0 :: 0 :: left) :=
    (run_bind_some (Reads.read (0 : UInt16) _)).trans (Reads.take [] _)
  refine ⟨left, ?_⟩
  rw [serializeEntry, append_assoc, readEntry, run_bind_some (Reads.string fits _), serializeCustomAttribute,
    append_assoc, object]
  have read : unserializeCustomAttribute.run (write (1 : UInt8) ++ (write (0 : UInt16) ++ (0 :: 0 :: 0 :: left))) =
      (some (.string []), 0 :: 0 :: 0 :: left) :=
    (run_bind_some (Reads.read (1 : UInt8) _)).trans (run_bind_some empty)
  rw [run_bind_some read]
  rfl

/-- A stream of zeros holds no entry. -/
theorem readEntry_zero (rest : Bytes) : (readEntry.run (0 :: 0 :: 0 :: rest)).1 = none := by
  have empty : readString.run (0 :: 0 :: 0 :: rest) = (some [], 0 :: rest) :=
    (run_bind_some (Reads.read (0 : UInt16) _)).trans (Reads.take [] _)
  have failed : unserializeCustomAttribute.run (0 :: rest) = (none, rest) :=
    run_bind_some (Reads.read (0 : UInt8) rest)
  rw [readEntry, run_bind_some empty, run_bind_none failed]

theorem readEntries_string {key : Bytes} (fits : key.length ≤ 65535) (value : Bytes) (size : Nat)
    (start map : CustomAttributeMap) (later : Bytes) :
    (readEntries (size + 1) start).run (serializeEntry roundAddress (key, .string value) ++ later) ≠
      (some (.more map), []) := by
  obtain ⟨left, read⟩ := readEntry_string fits value later
  have attempted : (attempt readEntry).run (serializeEntry roundAddress (key, .string value) ++ later) =
      (some (some (key, .string [])), 0 :: 0 :: 0 :: left) := by
    simp only [attempt, read]
  rw [readEntries, run_bind_some attempted]
  cases size with
  | zero => exact fun same => cons_ne_nil _ _ (congrArg Prod.snd same)
  | succ size =>
    have none : (attempt readEntry).run (0 :: 0 :: 0 :: left) = (some none, (readEntry.run (0 :: 0 :: 0 :: left)).2) := by
      simp only [attempt, readEntry_zero]
    simp only [readEntries]
    rw [run_bind_some none]
    intro same
    cases congrArg Prod.fst same

end CustomAttribute

open CustomAttribute Reader

theorem CustomAttributeMap.Fits.readSize {map : CustomAttributeMap} (fits : map.Fits) (start : CustomAttributeMap)
    (rest : Bytes) : (readCustomAttributes start).run (write (UInt64.ofNat map.entries.length) ++ rest) =
      (readEntries map.entries.length start).run rest := by
  have size : (UInt64.ofNat map.entries.length).toNat = map.entries.length := by
    rw [UInt64.toNat_ofNat']
    exact Nat.mod_eq_of_lt fits.size
  rw [readCustomAttributes, run_bind_some (Reads.read _ _), size]

/-- A map that holds a string is not read back when that string is at the round address. -/
theorem CustomAttributeMap.not_roundTrips {map : CustomAttributeMap} (fits : map.Fits)
    {before after : List (Bytes × CustomAttribute)} {key value : Bytes}
    (split : map.entries = before ++ (key, .string value) :: after)
    (plain : ∀ entry ∈ before, entry.2.isString = false) : ¬ map.RoundTrips := by
  intro roundTrips
  have fitsBefore : ∀ entry ∈ before, entry.1.length ≤ 65535 := by
    intro entry listed
    exact fits.keys entry (split ▸ mem_append_left _ listed)
  have fitsKey : key.length ≤ 65535 :=
    fits.keys (key, .string value) (split ▸ mem_append_right _ mem_cons_self)
  have bytes : map.entries.flatMap (serializeEntry roundAddress) = before.flatMap (serializeEntry roundAddress) ++
      (serializeEntry roundAddress (key, .string value) ++ after.flatMap (serializeEntry roundAddress)) := by
    rw [split, flatMap_append, flatMap_cons]
  have count : map.entries.length = before.length + (after.length + 1) := by
    rw [split, length_append, length_cons]
  have run : (readCustomAttributes .empty).run (serializeCustomAttributes roundAddress map) =
      (readEntries (after.length + 1) (before.foldl (fun map entry => map.setCustomAttribute entry.1 entry.2) .empty)).run
        (serializeEntry roundAddress (key, .string value) ++ after.flatMap (serializeEntry roundAddress)) := by
    rw [serializeCustomAttributes, fits.readSize, bytes, count]
    exact readEntries_run roundAddress plain fitsBefore _ _ _
  have reads : Reads (readCustomAttributes .empty) (serializeCustomAttributes roundAddress map) (.more map) :=
    roundTrips roundAddress
  exact readEntries_string fitsKey value after.length _ map _ (run.symm.trans reads.run_all)

/-- A map is read back just when it holds no string. -/
theorem CustomAttributeMap.roundTrips_iff {map : CustomAttributeMap} (fits : map.Fits) :
    map.RoundTrips ↔ ∀ entry ∈ map.entries, entry.2.isString = false := by
  constructor
  · intro roundTrips
    cases found : map.entries.find? (fun entry => entry.2.isString) with
    | none =>
      intro entry listed
      simpa using find?_eq_none.mp found entry listed
    | some entry =>
      obtain ⟨isString, before, after, split, plain⟩ := find?_eq_some_iff_append.mp found
      obtain ⟨key, value⟩ := entry
      cases value with
      | string value =>
        refine absurd roundTrips (not_roundTrips fits split ?_)
        intro entry listed
        simpa using plain entry listed
      | integer value => cases isString
      | double bits => cases isString
      | boolean value => cases isString
  · intro plain place rest
    have rebuilt : map.entries.foldl (fun map entry => map.setCustomAttribute entry.1 entry.2) .empty = map :=
      CustomAttributeMap.ext (foldl_setCustomAttribute map.lowerCase map.distinct)
    have run := readEntries_run place plain fits.keys 0 .empty rest
    rw [Nat.add_zero, rebuilt] at run
    rw [serializeCustomAttributes, append_assoc, fits.readSize, run]
    rfl

/-- An item that counts its uses. -/
def usesMap : CustomAttributeMap where
  entries := [([117, 115, 101, 115], .integer 3)]
  distinct := by decide
  lowerCase := by decide

theorem CustomAttributeMap.roundTrips_iff_uses :
    usesMap.RoundTrips ↔ ∀ entry ∈ usesMap.entries, entry.2.isString = false :=
  CustomAttributeMap.roundTrips_iff ⟨by decide, by decide, by simp [usesMap]⟩

/-- An item that counts its uses and has an owner of the name Anna. -/
def ownerMap : CustomAttributeMap where
  entries := [([117, 115, 101, 115], .integer 3), ([111, 119, 110, 101, 114], .string [65, 110, 110, 97])]
  distinct := by decide
  lowerCase := by decide

theorem CustomAttributeMap.not_roundTrips_owner : ¬ ownerMap.RoundTrips :=
  CustomAttributeMap.not_roundTrips ⟨by decide, by decide, by simp [ownerMap]⟩
    (show ownerMap.entries = [([117, 115, 101, 115], .integer 3)] ++ _ :: [] from rfl) (by decide)

end Styller
