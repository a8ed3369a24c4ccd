import Mathlib.Data.List.Basic
import Mathlib.Data.List.Nodup

/-!
Insertion-ordered dictionaries with the distinctness of their keys as a field,
and the two ways a loop fills one: the last writer of a key wins under
assignment, the first writer wins under `setdefault`.
-/

namespace Sigmascope.Library

set_option autoImplicit false

structure Dict (Key Value : Type) where
  items : List (Key × Value)
  distinct : (items.map Prod.fst).Nodup

namespace Dict

variable {Key Value Writer : Type} [DecidableEq Key]

def empty : Dict Key Value := ⟨[], List.nodup_nil⟩

def get? (dict : Dict Key Value) (key : Key) : Option Value := dict.items.lookup key

def contains (dict : Dict Key Value) (key : Key) : Bool := (dict.get? key).isSome

@[simp] theorem get_empty (key : Key) : (empty : Dict Key Value).get? key = none := rfl

omit [DecidableEq Key] in
private theorem append_new_distinct (items : List (Key × Value)) (key : Key) (value : Value)
    (distinct : (items.map Prod.fst).Nodup) (fresh : key ∉ items.map Prod.fst) :
    ((items ++ [(key, value)]).map Prod.fst).Nodup := by
  rw [List.map_append, List.map_singleton]
  exact List.Nodup.append distinct (List.nodup_singleton key)
    (List.disjoint_singleton.mpr fresh)

private theorem lookup_cons_if (item : Key × Value) (items : List (Key × Value)) (key : Key) :
    (item :: items).lookup key = if key = item.1 then some item.2 else items.lookup key := by
  obtain ⟨itemKey, itemValue⟩ := item
  by_cases same : key = itemKey
  · simp [same]
  · simp only [List.lookup_cons, beq_eq_false_iff_ne.mpr same, same, if_false]

theorem lookup_isSome_iff (items : List (Key × Value)) (key : Key) :
    (items.lookup key).isSome = true ↔ key ∈ items.map Prod.fst := by
  rw [List.lookup_isSome_iff, List.mem_map]
  apply exists_congr
  intro item
  rw [beq_iff_eq, eq_comm]

theorem lookup_eq_some_iff (items : List (Key × Value)) (key : Key) (value : Value)
    (distinct : (items.map Prod.fst).Nodup) :
    items.lookup key = some value ↔ (key, value) ∈ items := by
  induction items with
  | nil => simp
  | cons item items induction =>
      obtain ⟨itemKey, itemValue⟩ := item
      simp only [List.map_cons, List.nodup_cons] at distinct
      rw [lookup_cons_if, List.mem_cons, Prod.mk.injEq]
      by_cases same : key = itemKey
      · subst key
        have absent : (itemKey, value) ∉ items := fun member =>
          distinct.1 (List.mem_map.mpr ⟨_, member, rfl⟩)
        simp [absent, eq_comm]
      · simp [same, induction distinct.2]

/-- The order of the items does not matter to a lookup when the keys are distinct. -/
theorem lookup_perm {left right : List (Key × Value)} (permuted : left.Perm right)
    (distinct : (left.map Prod.fst).Nodup) (key : Key) : left.lookup key = right.lookup key := by
  apply Option.ext
  intro value
  have distinctRight : (right.map Prod.fst).Nodup :=
    (permuted.map Prod.fst).nodup_iff.mp distinct
  rw [lookup_eq_some_iff left key value distinct,
    lookup_eq_some_iff right key value distinctRight, permuted.mem_iff]

theorem get_eq_some_iff (dict : Dict Key Value) (key : Key) (value : Value) :
    dict.get? key = some value ↔ (key, value) ∈ dict.items :=
  lookup_eq_some_iff dict.items key value dict.distinct

/-- `dict.setdefault(key, value)`. -/
def setdefault (dict : Dict Key Value) (key : Key) (value : Value) : Dict Key Value :=
  if absent : key ∈ dict.items.map Prod.fst then dict
  else ⟨dict.items ++ [(key, value)],
    append_new_distinct dict.items key value dict.distinct absent⟩

theorem get_setdefault (dict : Dict Key Value) (key other : Key) (value : Value) :
    (dict.setdefault key value).get? other =
      (dict.get? other).or (if other = key then some value else none) := by
  unfold setdefault
  split
  · rename_i present
    by_cases same : other = key
    · subst other
      obtain ⟨found, lookup⟩ := Option.isSome_iff_exists.mp
        ((lookup_isSome_iff dict.items key).mpr present)
      simp only [get?, lookup, Option.some_or]
    · simp [same]
  · simp only [get?, List.lookup_append, lookup_cons_if, List.lookup_nil]

/-- Assignment to a key that is already present keeps the place of the key. -/
def assign (key : Key) (value : Value) : List (Key × Value) → List (Key × Value)
  | [] => [(key, value)]
  | item :: items =>
      if item.1 = key then (key, value) :: items else item :: assign key value items

theorem assign_keys (key : Key) (value : Value) (items : List (Key × Value)) :
    (assign key value items).map Prod.fst =
      if key ∈ items.map Prod.fst then items.map Prod.fst
      else items.map Prod.fst ++ [key] := by
  induction items with
  | nil => simp [assign]
  | cons item items induction =>
      by_cases same : item.1 = key
      · simp [assign, same]
      · simp only [assign, same, if_false, List.map_cons, induction, List.mem_cons,
          Ne.symm same, false_or]
        split <;> simp

/-- `dict[key] = value`. -/
def set (dict : Dict Key Value) (key : Key) (value : Value) : Dict Key Value where
  items := assign key value dict.items
  distinct := by
    rw [assign_keys]
    split
    · exact dict.distinct
    · rename_i fresh
      exact List.Nodup.append dict.distinct (List.nodup_singleton key)
        (List.disjoint_singleton.mpr fresh)

theorem get_set (dict : Dict Key Value) (key other : Key) (value : Value) :
    (dict.set key value).get? other = if other = key then some value else dict.get? other := by
  have search : ∀ items : List (Key × Value), (assign key value items).lookup other =
      if other = key then some value else items.lookup other := by
    intro items
    induction items with
    | nil => simp only [assign, lookup_cons_if, List.lookup_nil]
    | cons item items induction =>
        rw [assign]
        split
        · rename_i held
          rw [lookup_cons_if, lookup_cons_if, held]
          split <;> rfl
        · rename_i kept
          rw [lookup_cons_if, lookup_cons_if, induction]
          by_cases same : other = item.1
          · simp [same, kept]
          · simp [same]
  exact search dict.items

/-- A dictionary comprehension: every pair in turn is assigned. -/
def assignAll (dict : Dict Key Value) (pairs : List (Key × Value)) : Dict Key Value :=
  pairs.foldl (fun dict pair => dict.set pair.1 pair.2) dict

theorem get_assign_all_absent (dict : Dict Key Value) (pairs : List (Key × Value)) (key : Key)
    (absent : ∀ pair ∈ pairs, pair.1 ≠ key) : (dict.assignAll pairs).get? key = dict.get? key := by
  induction pairs generalizing dict with
  | nil => rfl
  | cons pair pairs induction =>
      have other : key ≠ pair.1 := Ne.symm (absent pair List.mem_cons_self)
      have step := induction (dict.set pair.1 pair.2)
        fun item member => absent item (List.mem_cons_of_mem _ member)
      rw [assignAll, List.foldl_cons, ← assignAll, step, get_set, if_neg other]

/-- The last pair for a key is the one that the dictionary keeps. -/
theorem get_assign_all_last (dict : Dict Key Value) (before after : List (Key × Value))
    (key : Key) (value : Value) (last : ∀ pair ∈ after, pair.1 ≠ key) :
    (dict.assignAll (before ++ (key, value) :: after)).get? key = some value := by
  have split : dict.assignAll (before ++ (key, value) :: after) =
      ((dict.assignAll before).set key value).assignAll after := by
    rw [assignAll, List.foldl_append, List.foldl_cons]
    rfl
  rw [split, get_assign_all_absent _ _ _ last, get_set, if_pos rfl]

/-- A key that every pair gives the same value. -/
theorem get_assign_all_constant (dict : Dict Key Value) {pairs : List (Key × Value)} {key : Key}
    {value : Value} (member : ∃ pair ∈ pairs, pair.1 = key)
    (constant : ∀ pair ∈ pairs, pair.1 = key → pair.2 = value) :
    (dict.assignAll pairs).get? key = some value := by
  induction pairs generalizing dict with
  | nil =>
      obtain ⟨pair, impossible, _⟩ := member
      cases impossible
  | cons pair pairs induction =>
      rw [assignAll, List.foldl_cons, ← assignAll]
      by_cases later : ∃ other ∈ pairs, other.1 = key
      · exact induction _ later fun other inside => constant other (List.mem_cons_of_mem _ inside)
      · obtain ⟨own, inside, same⟩ := member
        have first : own = pair := by
          rcases List.mem_cons.mp inside with equal | behind
          · exact equal
          · exact absurd ⟨own, behind, same⟩ later
        subst first
        rw [get_assign_all_absent _ _ _ fun other behind equal => later ⟨other, behind, equal⟩,
          get_set, if_pos same.symm, constant own inside same]

theorem mem_set_items {dict : Dict Key Value} {key : Key} {value : Value} {item : Key × Value}
    (member : item ∈ (dict.set key value).items) : item ∈ dict.items ∨ item = (key, value) := by
  have found := (get_eq_some_iff (dict.set key value) item.1 item.2).mpr member
  rw [get_set] at found
  by_cases same : item.1 = key
  · rw [if_pos same] at found
    exact Or.inr (Prod.ext same (Option.some.inj found).symm)
  · rw [if_neg same] at found
    exact Or.inl ((get_eq_some_iff dict item.1 item.2).mp found)

theorem mem_assign_all_items {dict : Dict Key Value} {pairs : List (Key × Value)}
    {item : Key × Value} (member : item ∈ (dict.assignAll pairs).items) :
    item ∈ dict.items ∨ item ∈ pairs := by
  induction pairs generalizing dict with
  | nil => exact Or.inl member
  | cons pair pairs induction =>
      rw [assignAll, List.foldl_cons, ← assignAll] at member
      rcases induction member with early | late
      · rcases mem_set_items early with old | new
        · exact Or.inl old
        · exact Or.inr (new ▸ List.mem_cons_self)
      · exact Or.inr (List.mem_cons_of_mem _ late)

/-- Every writer in turn claims its keys with `setdefault`. -/
def claimAll (keys : Writer → List Key) (dict : Dict Key Writer) (writers : List Writer) :
    Dict Key Writer :=
  writers.foldl
    (fun claimed writer => (keys writer).foldl (fun dict key => dict.setdefault key writer) claimed)
    dict

private theorem get_claim_keys (keys : List Key) (dict : Dict Key Writer) (writer : Writer)
    (key : Key) :
    (keys.foldl (fun dict key => dict.setdefault key writer) dict).get? key =
      (dict.get? key).or (if key ∈ keys then some writer else none) := by
  induction keys generalizing dict with
  | nil => simp
  | cons first keys induction =>
      rw [List.foldl_cons, induction, get_setdefault]
      by_cases same : key = first <;> simp [same]

/-- The first writer that claims a key is the one the dictionary keeps. -/
theorem get_claim_all (keys : Writer → List Key) (dict : Dict Key Writer)
    (writers : List Writer) (key : Key) :
    (claimAll keys dict writers).get? key =
      (dict.get? key).or (writers.find? fun writer => key ∈ keys writer) := by
  induction writers generalizing dict with
  | nil => simp [claimAll]
  | cons writer writers induction =>
      have step := induction
        ((keys writer).foldl (fun dict key => dict.setdefault key writer) dict)
      simp only [claimAll, List.foldl_cons] at step ⊢
      rw [step, get_claim_keys, Option.or_assoc, List.find?_cons]
      by_cases claims : key ∈ keys writer <;> simp [claims]

end Dict

end Sigmascope.Library
