import Styller.Library.Stream

/-! Places in a row, some of them empty, as a byte stream: the things of a place, and behind them a word with the number of
empty places that follow. -/

namespace Styller.Library

open List

namespace Skips

/-- The word that ends a place, if one is due: its high byte is full, its low byte the number of empty places. -/
def flush (skip : Int) : Bytes := if skip ≥ 0 then [UInt8.ofNat skip.toNat, 0xFF] else []

/-- The stream of some places. The count of empty ones starts below zero, where no word is due. -/
def encode : Int → List (Option Bytes) → Bytes
  | skip, [] => flush skip
  | skip, some body :: rest => flush skip ++ body ++ encode 0 rest
  | skip, none :: rest => if skip + 1 = 0xFF then [0xFF, 0xFF] ++ encode (-1) rest else encode (skip + 1) rest

section
variable {Thing : Type} (reader : Reader Thing)

/-- The next word, if it is one that ends a place: the number in its low byte. -/
def placeEnd : Reader (Option Nat) where
  run bytes :=
    match (Reader.read UInt16).run bytes with
    | (some word, rest) => if word.toNat ≥ 0xFF00 then (some (some (word.toNat % 256)), rest) else (some none, bytes)
    | (none, rest) => (none, rest)
  shrinks bytes := by
    have shorter := (Reader.read UInt16).shrinks bytes
    split
    · next word rest read =>
      rw [read] at shorter
      split
      · exact shorter
      · exact Nat.le_refl _
    · next rest read =>
      rw [read] at shorter
      exact shorter

/-- The things of a place up to its end, and the number of empty places after it. -/
def readPlace : Nat → Reader (List Thing × Nat)
  | 0 => Reader.fail
  | fuel + 1 => do
    match ← placeEnd with
    | some skip => pure ([], skip)
    | none =>
      let thing ← reader
      let (things, skip) ← readPlace fuel
      pure (thing :: things, skip)

/-- So many places, of which the first ones are known to be empty; what they hold, and what is left of the stream. -/
def readPlaces : Nat → Nat → Bytes → Option (List (List Thing) × Bytes)
  | 0, 0, bytes => some ([], bytes)
  | 0, _ + 1, _ => none
  | places + 1, skip + 1, bytes => (readPlaces places skip bytes).map (Prod.map ([] :: ·) id)
  | places + 1, 0, bytes =>
    match (readPlace reader (bytes.length + 1)).run bytes with
    | (some (things, skip), rest) => (readPlaces places skip rest).map (Prod.map (things :: ·) id)
    | (none, _) => none

end

section
variable {Thing : Type} {reader : Reader Thing}

/-- The first word of the bytes is not one that ends a place. -/
def Below (bytes : Bytes) : Prop := ∃ word : UInt16, word.toNat < 0xFF00 ∧ ∃ rest, bytes = write word ++ rest

/-- The bytes of things, one after the other. -/
inductive Body (reader : Reader Thing) : Bytes → List Thing → Prop where
  | nil : Body reader [] []
  | cons {bytes more : Bytes} {thing : Thing} {things : List Thing} (below : Below bytes)
      (reads : Reader.Reads reader bytes thing) (rest : Body reader more things) : Body reader (bytes ++ more) (thing :: things)

/-- The places that the bytes stand for. -/
inductive Places (reader : Reader Thing) : List (Option Bytes) → List (List Thing) → Prop where
  | nil : Places reader [] []
  | empty {bodies : List (Option Bytes)} {places : List (List Thing)} (rest : Places reader bodies places) :
      Places reader (none :: bodies) ([] :: places)
  | full {body : Bytes} {things : List Thing} {bodies : List (Option Bytes)} {places : List (List Thing)}
      (holds : Body reader body things) (rest : Places reader bodies places) :
      Places reader (some body :: bodies) (things :: places)

theorem placeEnd_end (skip : UInt8) (rest : Bytes) :
    placeEnd.run (skip :: 0xFF :: rest) = (some (some skip.toNat), rest) := by
  have less := skip.toNat_lt
  have value : ofLowFirst [skip, 0xFF] = skip.toNat + 0xFF00 := rfl
  have word : (UInt16.ofNat (ofLowFirst [skip, 0xFF])).toNat = skip.toNat + 0xFF00 := by
    rw [value, UInt16.toNat_ofNat']
    omega
  have read : (Reader.read UInt16).run (skip :: 0xFF :: rest) = (some (UInt16.ofNat (ofLowFirst [skip, 0xFF])), rest) := by
    have enough : ¬ (skip :: 0xFF :: rest).length < Raw.size UInt16 := by
      simp only [length_cons, Raw.size]
      omega
    simp only [Reader.read, if_neg enough]
    rfl
  have low : (skip.toNat + 0xFF00) % 256 = skip.toNat := by omega
  have high : skip.toNat + 0xFF00 ≥ 0xFF00 := by omega
  unfold placeEnd
  simp only
  rw [read]
  simp only
  rw [word, if_pos high, low]

theorem placeEnd_below {bytes : Bytes} (below : Below bytes) (more : Bytes) :
    placeEnd.run (bytes ++ more) = (some none, bytes ++ more) := by
  obtain ⟨word, small, rest, rfl⟩ := below
  have read := Reader.Reads.read word (rest ++ more)
  rw [← append_assoc] at read
  simp only [placeEnd, read, if_neg (Nat.not_le_of_lt small)]

theorem readPlace_body {body : Bytes} {things : List Thing} (holds : Body reader body things) {fuel : Nat}
    (enough : things.length < fuel) (skip : UInt8) (rest : Bytes) :
    (readPlace reader fuel).run (body ++ skip :: 0xFF :: rest) = (some (things, skip.toNat), rest) := by
  induction holds generalizing fuel with
  | nil =>
    obtain ⟨fuel, rfl⟩ := Nat.exists_eq_succ_of_ne_zero (Nat.ne_of_gt enough)
    rw [nil_append, readPlace, Reader.run_bind_some (placeEnd_end skip rest)]
    rfl
  | cons below reads holds ih =>
    obtain ⟨fuel, rfl⟩ := Nat.exists_eq_succ_of_ne_zero (Nat.ne_of_gt (Nat.zero_lt_of_lt enough))
    rw [append_assoc, readPlace, Reader.run_bind_some (placeEnd_below below _), Reader.run_bind_some (reads _),
      Reader.run_bind_some (ih (Nat.lt_of_succ_lt_succ enough))]
    rfl

theorem Body.length_le {body : Bytes} {things : List Thing} (holds : Body reader body things) : things.length ≤ body.length := by
  induction holds with
  | nil => exact Nat.le_refl 0
  | cons below _ _ ih =>
    obtain ⟨word, _, rest, rfl⟩ := below
    have two : (write word).length = 2 := length_write word
    simp only [length_cons, length_append, two]
    omega

/-- A place that holds something, and what comes after it. -/
theorem readPlaces_full {body : Bytes} {things : List Thing} (holds : Body reader body things) {skip : UInt8} {places : Nat}
    {rest : Bytes} {others : List (List Thing)} {left : Bytes}
    (behind : readPlaces reader places skip.toNat rest = some (others, left)) :
    readPlaces reader (places + 1) 0 (body ++ skip :: 0xFF :: rest) = some (things :: others, left) := by
  have enough : things.length < (body ++ skip :: 0xFF :: rest).length + 1 := by
    have fits := holds.length_le
    rw [length_append]
    omega
  rw [readPlaces, readPlace_body holds enough]
  simp only [behind, Option.map_some, Prod.map_apply, id_eq]

/-- What is read of a stream: from the start, and from behind a place after which some empty ones are counted already. -/
theorem readPlaces_encode_both {bodies : List (Option Bytes)} {places : List (List Thing)} (holds : Places reader bodies places) :
    readPlaces reader places.length 0 (encode (-1) bodies) = some (places, []) ∧
      ∀ skip < 0xFF, ∃ count : UInt8, ∃ rest, encode (skip : Nat) bodies = count :: 0xFF :: rest ∧ skip ≤ count.toNat ∧
        readPlaces reader places.length (count.toNat - skip) rest = some (places, []) := by
  have byte : ∀ skip < 0xFF, (UInt8.ofNat skip).toNat = skip := by
    intro skip less
    rw [UInt8.toNat_ofNat']
    omega
  have due : ∀ skip : Nat, flush skip = [UInt8.ofNat skip, 0xFF] := fun skip => if_pos (Int.natCast_nonneg skip)
  induction holds with
  | nil =>
    refine ⟨rfl, ?_⟩
    intro skip less
    refine ⟨UInt8.ofNat skip, [], due skip, Nat.le_of_eq (byte skip less).symm, ?_⟩
    rw [byte skip less, Nat.sub_self]
    rfl
  | @empty bodies places holds ih =>
    obtain ⟨fresh, counted⟩ := ih
    constructor
    · obtain ⟨count, rest, same, _, behind⟩ := counted 0 (by decide)
      have next : encode (-1) (none :: bodies) = encode ((0 : Nat) : Int) bodies := rfl
      rw [next, same]
      exact readPlaces_full .nil behind
    · intro skip less
      by_cases last : skip + 1 = 0xFF
      · refine ⟨0xFF, encode (-1) bodies, ?_, Nat.le_of_lt less, ?_⟩
        · rw [encode, if_pos (by omega)]
          rfl
        · have one : (0xFF : UInt8).toNat - skip = 0 + 1 := by
            have full : (0xFF : UInt8).toNat = 0xFF := rfl
            omega
          rw [one, length_cons, readPlaces, fresh]
          rfl
      · obtain ⟨count, rest, same, more, behind⟩ := counted (skip + 1) (by omega)
        refine ⟨count, rest, ?_, Nat.le_of_succ_le more, ?_⟩
        · rw [encode, if_neg (by omega), ← same]
          rfl
        · have one : count.toNat - skip = count.toNat - (skip + 1) + 1 := by omega
          rw [one, length_cons, readPlaces, behind]
          rfl
  | @full body things bodies places holds _ ih =>
    obtain ⟨_, counted⟩ := ih
    obtain ⟨count, rest, same, _, behind⟩ := counted 0 (by decide)
    have here := readPlaces_full holds behind
    have next : encode 0 bodies = count :: 0xFF :: rest := same
    constructor
    · rw [encode, next]
      exact here
    · intro skip less
      refine ⟨UInt8.ofNat skip, body ++ encode 0 bodies, ?_, Nat.le_of_eq (byte skip less).symm, ?_⟩
      · rw [encode, due]
        rfl
      · rw [byte skip less, Nat.sub_self, next]
        exact here

/-- A stream is read as the places that it was written for, with nothing left. -/
theorem readPlaces_encode {bodies : List (Option Bytes)} {places : List (List Thing)} (holds : Places reader bodies places) :
    readPlaces reader places.length 0 (encode (-1) bodies) = some (places, []) :=
  (readPlaces_encode_both holds).1

end

section
variable {Thing : Type} {reader : Reader Thing}

/-- Each thing takes at least a word of the stream. -/
def Hungry (reader : Reader Thing) : Prop :=
  ∀ bytes thing rest, reader.run bytes = (some thing, rest) → rest.length + 2 ≤ bytes.length

theorem run_length {Value : Type} {reader : Reader Value} {bytes rest : Bytes} {answer : Option Value}
    (read : reader.run bytes = (answer, rest)) : rest.length ≤ bytes.length := by
  have shorter := reader.shrinks bytes
  rwa [read] at shorter

theorem readPlace_size (hungry : Hungry reader) {fuel : Nat} {bytes rest : Bytes} {things : List Thing} {skip : Nat}
    (read : (readPlace reader fuel).run bytes = (some (things, skip), rest)) : 2 * things.length + rest.length ≤ bytes.length := by
  induction fuel generalizing bytes rest things skip with
  | zero => cases read
  | succ fuel ih =>
    rw [readPlace] at read
    rcases mark : placeEnd.run bytes with ⟨answer, behind⟩
    have ended := run_length mark
    cases answer with
    | none =>
      rw [Reader.run_bind_none mark] at read
      cases read
    | some answer =>
      rw [Reader.run_bind_some mark] at read
      cases answer with
      | some count =>
        cases read
        exact (Nat.zero_add _).symm ▸ ended
      | none =>
        rcases first : reader.run behind with ⟨thing, middle⟩
        simp only at read
        cases thing with
        | none =>
          rw [Reader.run_bind_none first] at read
          cases read
        | some thing =>
          have taken := hungry _ _ _ first
          rw [Reader.run_bind_some first] at read
          rcases others : (readPlace reader fuel).run middle with ⟨found, last⟩
          cases found with
          | none =>
            rw [Reader.run_bind_none others] at read
            cases read
          | some found =>
            obtain ⟨later, count⟩ := found
            have less := ih others
            rw [Reader.run_bind_some others] at read
            cases read
            simp only [length_cons]
            omega

/-- No more things are read than there is room for in the stream. -/
theorem readPlaces_size (hungry : Hungry reader) {count skip : Nat} {bytes left : Bytes} {places : List (List Thing)}
    (read : readPlaces reader count skip bytes = some (places, left)) : 2 * places.flatten.length + left.length ≤ bytes.length := by
  induction count generalizing skip bytes places with
  | zero =>
    cases skip with
    | zero =>
      cases read
      exact Nat.le_of_eq (Nat.zero_add _)
    | succ skip => cases read
  | succ count ih =>
    cases skip with
    | succ skip =>
      obtain ⟨⟨others, rest⟩, found, same⟩ := Option.map_eq_some_iff.mp read
      cases same
      have behind := ih found
      exact behind
    | zero =>
      rw [readPlaces] at read
      split at read
      · next things skip rest first =>
        obtain ⟨⟨others, last⟩, found, same⟩ := Option.map_eq_some_iff.mp read
        cases same
        have here := readPlace_size hungry first
        have behind := ih found
        simp only [flatten_cons, length_append, id_eq] at behind ⊢
        omega
      · cases read

end

end Skips

end Styller.Library
