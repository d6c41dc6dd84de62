import Mathlib.Data.List.Perm.Basic
import Mathlib.Data.List.Nodup

/-! Vectors of rows that are found by their keys: a new row goes to the end, and a row that is removed leaves its place to the
last one. -/

namespace Styller.Library.Rows

open List

universe u v

variable {Key : Type u} {Value : Type v} [DecidableEq Key]

/-- The value of the first row with a key. -/
def find (rows : List (Key × Value)) (key : Key) : Option Value := (rows.find? fun row => row.1 = key).map Prod.snd

/-- The first row with a key is changed; if there is none, a fresh one is put at the end and changed. -/
def write (key : Key) (fresh : Value) (change : Value → Value) : List (Key × Value) → List (Key × Value)
  | [] => [(key, change fresh)]
  | row :: later => if row.1 = key then (key, change row.2) :: later else row :: write key fresh change later

/-- The last row with a key goes: it is cut off at the end, or the end is copied over it and cut off. -/
def remove (rows : List (Key × Value)) (key : Key) : List (Key × Value) :=
  match rows.reverse with
  | [] => rows
  | last :: before =>
    if last.1 = key then before.reverse
    else
      match before.findIdx? fun row => row.1 = key with
      | some place => (before.set place last).reverse
      | none => rows

variable {rows : List (Key × Value)} {key other : Key} {value : Value}

theorem find_cons (row : Key × Value) (rows : List (Key × Value)) (key : Key) :
    find (row :: rows) key = if row.1 = key then some row.2 else find rows key := by
  unfold find
  rw [find?_cons]
  split <;> simp_all

theorem find_write (fresh : Value) (change : Value → Value) (rows : List (Key × Value)) :
    find (write key fresh change rows) other =
      if other = key then some (change ((find rows key).getD fresh)) else find rows other := by
  induction rows with
  | nil =>
    rw [write, find_cons]
    split
    case isTrue same => exact (if_pos same.symm).symm
    case isFalse different => exact (if_neg (Ne.symm different)).symm
  | cons row rows ih =>
    rw [write]
    split
    case isTrue here =>
      rw [find_cons, find_cons, find_cons, if_pos here, Option.getD_some]
      subst here
      split
      case isTrue same => exact (if_pos same.symm).symm
      case isFalse different => exact (if_neg (Ne.symm different)).symm
    case isFalse elsewhere =>
      rw [find_cons, find_cons, find_cons, ih, if_neg elsewhere]
      split
      case isTrue same => rw [if_neg fun equal => elsewhere (same.trans equal)]
      case isFalse => rfl

theorem keys_write_of_mem (fresh : Value) (change : Value → Value) (listed : key ∈ rows.map Prod.fst) :
    (write key fresh change rows).map Prod.fst = rows.map Prod.fst := by
  induction rows with
  | nil => cases listed
  | cons row rows ih =>
    rw [write]
    split
    case isTrue here => rw [map_cons, map_cons, here]
    case isFalse elsewhere =>
      rw [map_cons, map_cons, ih ((mem_cons.mp listed).resolve_left (Ne.symm elsewhere))]

theorem find_isSome : (find rows key).isSome = true ↔ key ∈ rows.map Prod.fst := by
  rw [find, Option.isSome_map, find?_isSome, mem_map]
  simp only [decide_eq_true_eq]

theorem find_append_singleton (absent : key ∉ rows.map Prod.fst) (other : Key) :
    find (rows ++ [(key, value)]) other = if other = key then some value else find rows other := by
  induction rows with
  | nil =>
    rw [nil_append, find_cons]
    split
    case isTrue same => exact (if_pos same.symm).symm
    case isFalse different => exact (if_neg (Ne.symm different)).symm
  | cons row rows ih =>
    obtain ⟨elsewhere, absent⟩ := ne_and_not_mem_of_not_mem_cons absent
    rw [cons_append, find_cons, find_cons, ih absent]
    split
    case isTrue same => rw [if_neg fun equal => elsewhere (equal.symm.trans same.symm)]
    case isFalse => rfl

/-- Where no key stands twice, the rows are what is found. -/
theorem find_eq_some (distinct : (rows.map Prod.fst).Nodup) : find rows key = some value ↔ (key, value) ∈ rows := by
  induction rows with
  | nil => exact iff_of_false nofun nofun
  | cons row rows ih =>
    obtain ⟨first, held⟩ := row
    rw [map_cons, nodup_cons] at distinct
    rw [find_cons, mem_cons]
    split
    case isTrue same =>
      obtain rfl : first = key := same
      have missing : (first, value) ∉ rows := fun listed => distinct.1 (mem_map.mpr ⟨_, listed, rfl⟩)
      simp [missing, eq_comm]
    case isFalse different =>
      have other : (key, value) ≠ (first, held) := fun equal => different (congrArg Prod.fst equal).symm
      rw [ih distinct.2, or_iff_right other]

theorem remove_perm (distinct : (rows.map Prod.fst).Nodup) : (remove rows key).Perm (rows.filter fun row => row.1 ≠ key) := by
  have keeps : ∀ list : List (Key × Value), key ∉ list.map Prod.fst → list.filter (fun row => row.1 ≠ key) = list := by
    intro list absent
    apply filter_eq_self.mpr
    intro row listed
    exact decide_eq_true fun same => absent (same ▸ mem_map_of_mem listed)
  unfold remove
  split
  case h_1 empty => exact reverse_eq_nil_iff.mp empty ▸ .refl _
  case h_2 last before reversed =>
    have whole : rows.Perm (last :: before) := reversed ▸ rows.reverse_perm.symm
    have apart : ((last :: before).map Prod.fst).Nodup := ((whole.map Prod.fst).nodup_iff).mp distinct
    refine List.Perm.trans ?_ (whole.filter _).symm
    rw [map_cons, nodup_cons] at apart
    split
    case isTrue here =>
      have gone : decide (last.1 ≠ key) = false := decide_eq_false (not_not.mpr here)
      rw [filter_cons_of_neg (by rw [gone]; exact Bool.false_ne_true), keeps before (here ▸ apart.1)]
      exact before.reverse_perm
    case isFalse elsewhere =>
      have stays : (last :: before).filter (fun row => row.1 ≠ key) = last :: before.filter fun row => row.1 ≠ key :=
        filter_cons_of_pos (decide_eq_true elsewhere)
      rw [stays]
      split
      case h_1 place found =>
        obtain ⟨inside, here, _⟩ := findIdx?_eq_some_iff_getElem.mp found
        have split : before.Perm (before[place] :: before.eraseIdx place) := (getElem_cons_eraseIdx_perm inside).symm
        have rest := ((split.map Prod.fst).nodup_iff).mp apart.2
        rw [map_cons, nodup_cons, of_decide_eq_true here] at rest
        have gone : decide (before[place].1 ≠ key) = false := decide_eq_false (not_not.mpr (of_decide_eq_true here))
        have kept := split.filter fun row => row.1 ≠ key
        rw [filter_cons_of_neg (by rw [gone]; exact Bool.false_ne_true), keeps _ rest.1] at kept
        exact (reverse_perm _).trans ((set_perm_cons_eraseIdx inside last).trans (kept.symm.cons last))
      case h_2 missing =>
        have absent : key ∉ before.map Prod.fst := by
          intro listed
          obtain ⟨row, member, same⟩ := mem_map.mp listed
          exact Bool.false_ne_true ((findIdx?_eq_none_iff.mp missing row member).symm.trans (decide_eq_true same))
        rw [keeps before absent]
        exact whole

theorem distinct_remove (distinct : (rows.map Prod.fst).Nodup) : ((remove rows key).map Prod.fst).Nodup := by
  rw [((remove_perm distinct).map Prod.fst).nodup_iff]
  exact distinct.sublist (filter_sublist.map _)

theorem find_remove (distinct : (rows.map Prod.fst).Nodup) (other : Key) :
    find (remove rows key) other = if other = key then none else find rows other := by
  apply Option.ext
  intro value
  rw [find_eq_some (distinct_remove distinct), (remove_perm distinct).mem_iff, mem_filter, decide_eq_true_eq]
  split
  case isTrue same => exact iff_of_false (fun both => both.2 same) nofun
  case isFalse different => rw [find_eq_some distinct, and_iff_left different]

/-- A key stands in one row if it stands in one at all. -/
theorem count_keys (distinct : (rows.map Prod.fst).Nodup) :
    (rows.countP fun row => row.1 = key) = if (find rows key).isSome then 1 else 0 := by
  have count : (rows.countP fun row => row.1 = key) = (rows.map Prod.fst).count key := by
    rw [List.count, countP_map]
    congr 1
  rw [count]
  split
  case isTrue present => exact count_eq_one_of_mem distinct (find_isSome.mp present)
  case isFalse absent => exact count_eq_zero_of_not_mem fun listed => absent (find_isSome.mpr listed)

end Styller.Library.Rows
