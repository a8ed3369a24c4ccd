import Mathlib.Data.List.Basic

/-!
A register of a machine that runs commands one after another. A command writes a
value or leaves the register alone; after the run the register holds the value that
was written last. A register that commands only add to keeps everything.
-/

namespace Sigmascope.Library

set_option autoImplicit false

variable {State Command Value : Type}

def lastWrite (write : Command → Option Value) (commands : List Command)
    (held : Option Value) : Option Value :=
  (commands.filterMap write).getLast?.or held

theorem last_write_cons (write : Command → Option Value) (command : Command)
    (commands : List Command) (held : Option Value) :
    lastWrite write (command :: commands) held =
      lastWrite write commands ((write command).or held) := by
  cases written : write command with
  | none => rw [lastWrite, lastWrite, List.filterMap_cons_none written, Option.none_or]
  | some value =>
      rw [lastWrite, lastWrite, List.filterMap_cons_some written, List.getLast?_cons]
      cases (commands.filterMap write).getLast? <;> rfl

theorem register_run {step : State → Command → State} (register : State → Option Value)
    {write : Command → Option Value}
    (writes : ∀ state command, register (step state command) =
      (write command).or (register state))
    (commands : List Command) (state : State) :
    register (commands.foldl step state) = lastWrite write commands (register state) := by
  induction commands generalizing state with
  | nil => rfl
  | cons command commands induction =>
      rw [List.foldl_cons, induction, writes, last_write_cons]

theorem register_gathers {step : State → Command → State} (register : State → List Value)
    {adds : Command → List Value}
    (gathers : ∀ state command, register (step state command) =
      register state ++ adds command)
    (commands : List Command) (state : State) :
    register (commands.foldl step state) = register state ++ commands.flatMap adds := by
  induction commands generalizing state with
  | nil => rw [List.foldl_nil, List.flatMap_nil, List.append_nil]
  | cons command commands induction =>
      rw [List.foldl_cons, induction, gathers, List.flatMap_cons, List.append_assoc]

theorem last_write_some_iff {write : Command → Option Value} {commands : List Command} :
    (lastWrite write commands none).isSome = true ↔ 0 < (commands.filterMap write).length := by
  rw [lastWrite, Option.or_none, List.getLast?_isSome, List.length_pos_iff]

/-- When there is at most one write, the register shows every write there was. -/
theorem writes_sole {write : Command → Option Value} {commands : List Command}
    (once : (commands.filterMap write).length ≤ 1) :
    commands.filterMap write = (lastWrite write commands none).toList := by
  rw [lastWrite, Option.or_none]
  revert once
  rcases commands.filterMap write with _ | ⟨first, rest⟩
  · intro once
    rfl
  · intro once
    rw [List.length_cons] at once
    have alone : rest = [] := List.length_eq_zero_iff.mp (by omega)
    rw [alone]
    rfl

theorem last_write_sole {write : Command → Option Value} {commands : List Command}
    (once : (commands.filterMap write).length ≤ 1) {value : Value}
    (written : value ∈ commands.filterMap write) (held : Option Value) :
    lastWrite write commands held = some value := by
  rw [writes_sole once, Option.mem_toList, lastWrite, Option.or_none] at written
  rw [lastWrite, written]
  rfl

end Sigmascope.Library
