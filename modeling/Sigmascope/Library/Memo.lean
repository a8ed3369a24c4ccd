import Sigmascope.Library.Dict
import Sigmascope.Library.Distinct

/-!
A memo table in front of an oracle that may answer differently every time. Only
a key without an entry is passed on to the oracle, and its answer is kept. A
snapshot is a function of the keys that agrees with every entry.
-/

namespace Sigmascope.Library

set_option autoImplicit false

structure Memo (Key Value : Type) where
  table : Dict Key Value
  /-- The keys that were passed to the oracle, in order. -/
  queries : List Key

namespace Memo

variable {Key Value : Type} [DecidableEq Key]

def empty : Memo Key Value := ⟨Dict.empty, []⟩

/-- The answer for a key; the oracle is told how often it has been asked before. -/
def fetch (answer : Nat → Key → Value) (memo : Memo Key Value) (key : Key) :
    Value × Memo Key Value :=
  match memo.table.get? key with
  | some value => (value, memo)
  | none =>
      let value := answer memo.queries.length key
      (value, ⟨memo.table.set key value, memo.queries ++ [key]⟩)

def Snapshot (look : Key → Value) (memo : Memo Key Value) : Prop :=
  ∀ key value, memo.table.get? key = some value → look key = value

theorem snapshot_empty (look : Key → Value) : Snapshot look (empty : Memo Key Value) := by
  intro key value found
  cases found

theorem fetch_entry (answer : Nat → Key → Value) (memo : Memo Key Value) (key : Key) :
    (fetch answer memo key).2.table.get? key = some (fetch answer memo key).1 := by
  unfold fetch
  cases found : memo.table.get? key with
  | some value => exact found
  | none => simp only [Dict.get_set, if_true]

/-- An entry that is present stays as it is. -/
theorem fetch_retains (answer : Nat → Key → Value) (memo : Memo Key Value) (key other : Key)
    (value : Value) (present : memo.table.get? other = some value) :
    (fetch answer memo key).2.table.get? other = some value := by
  unfold fetch
  cases found : memo.table.get? key with
  | some _ => exact present
  | none =>
      have distinct : other ≠ key := by
        intro same
        rw [same, found] at present
        cases present
      simp only [Dict.get_set, if_neg distinct, present]

/-- A snapshot of the table after a query was one before it, and it knows the answer. -/
theorem snapshot_before_fetch {look : Key → Value} {answer : Nat → Key → Value}
    {memo : Memo Key Value} {key : Key} (snapshot : Snapshot look (fetch answer memo key).2) :
    Snapshot look memo ∧ (fetch answer memo key).1 = look key := by
  constructor
  · intro other value present
    exact snapshot other value (fetch_retains answer memo key other value present)
  · exact (snapshot key _ (fetch_entry answer memo key)).symm

/-- An oracle that always gives the same answer is its own snapshot. -/
theorem fetch_constant {look : Key → Value} {memo : Memo Key Value} (key : Key)
    (snapshot : Snapshot look memo) : Snapshot look (fetch (fun _ => look) memo key).2 := by
  unfold fetch
  cases found : memo.table.get? key with
  | some _ => exact snapshot
  | none =>
      intro other value present
      simp only [Dict.get_set] at present
      split at present
      · rename_i same
        rw [same]
        exact Option.some.inj present
      · exact snapshot other value present

/-- The table holds what the queries were answered, and no key was passed on twice. -/
structure Traced (answer : Nat → Key → Value) (memo : Memo Key Value) : Prop where
  distinct : memo.queries.Nodup
  held : ∀ key value, memo.table.get? key = some value ↔
    ∃ index, memo.queries[index]? = some key ∧ answer index key = value

section Traced

variable {answer : Nat → Key → Value} {memo : Memo Key Value}

theorem traced_empty (answer : Nat → Key → Value) : Traced answer (empty : Memo Key Value) := by
  constructor
  · exact List.nodup_nil
  · simp [empty]

variable (traced : Traced answer memo)
include traced

theorem missing_iff (key : Key) : memo.table.get? key = none ↔ key ∉ memo.queries := by
  rw [Option.eq_none_iff_forall_ne_some, List.mem_iff_getElem?]
  simp only [ne_eq, traced.held, not_exists, not_and]
  constructor
  · intro missing index asked
    exact missing _ index asked rfl
  · intro missing value index asked
    exact absurd asked (missing index)

/-- Only the first use of a key is passed on. -/
theorem fetch_queries (key : Key) :
    (fetch answer memo key).2.queries = addAbsent memo.queries key := by
  unfold fetch addAbsent
  cases found : memo.table.get? key with
  | some value =>
      have asked : key ∈ memo.queries := by
        by_contra absent
        rw [(missing_iff traced key).mpr absent] at found
        cases found
      rw [if_pos asked]
  | none => rw [if_neg ((missing_iff traced key).mp found)]

theorem fetch_traced (key : Key) : Traced answer (fetch answer memo key).2 := by
  constructor
  · rw [fetch_queries traced]
    exact nodup_add_absent traced.distinct key
  · cases found : memo.table.get? key with
    | some value =>
        have same : (fetch answer memo key).2 = memo := by
          simp only [fetch, found]
        rw [same]
        exact traced.held
    | none =>
        have absent := (missing_iff traced key).mp found
        intro other value
        simp only [fetch, found, Dict.get_set, List.getElem?_append]
        by_cases same : other = key
        · subst same
          rw [if_pos rfl]
          constructor
          · intro answered
            exact ⟨memo.queries.length, by simp, Option.some.inj answered⟩
          · intro given
            obtain ⟨index, asked, rfl⟩ := given
            by_cases early : index < memo.queries.length
            · rw [if_pos early] at asked
              exact absurd (List.mem_of_getElem? asked) absent
            · rw [if_neg early] at asked
              have last : index = memo.queries.length := by
                have inside := (List.getElem?_eq_some_iff.mp asked).1
                simp only [List.length_singleton] at inside
                omega
              rw [last]
        · rw [if_neg same, traced.held]
          apply exists_congr
          intro index
          by_cases early : index < memo.queries.length
          · rw [if_pos early]
          · rw [if_neg early, List.getElem?_eq_none (Nat.le_of_not_lt early)]
            have missed : [key][index - memo.queries.length]? ≠ some other := by
              intro asked
              exact same (List.mem_singleton.mp (List.mem_of_getElem? asked))
            simp [missed]

end Traced

end Memo

end Sigmascope.Library
