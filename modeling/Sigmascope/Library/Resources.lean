import Mathlib.Data.List.Perm.Basic
import Sigmascope.Library.Program

/-!
Resources that a program takes from its environment and has to give back. A discipline
says which calls are permitted and which events take, give back and use a resource; its
monitor keeps the stack of those that are out. It objects to a call that is not permitted,
to the use of a resource that is not out and to a return that is not the last one taken.
-/

namespace Sigmascope.Library

set_option autoImplicit false

structure Discipline (I : Interface) (Resource : Type) where
  permitted : I.Call → Bool
  acquired : Event I → Option Resource
  released : Event I → Option Resource
  used : Event I → List Resource
  exclusive : ∀ event resource, released event = some resource → acquired event = none

namespace Discipline

variable {I : Interface} {Resource Error Value Result : Type} [DecidableEq Resource]
  (discipline : Discipline I Resource)

def monitor (held : List Resource) (event : Event I) : Option (List Resource) :=
  if discipline.permitted event.call = true ∧
      ∀ resource ∈ discipline.used event, resource ∈ held then
    match discipline.released event with
    | some resource => if held.head? = some resource then some held.tail else none
    | none => some ((discipline.acquired event).toList ++ held)
  else none

/-- The program gives back what it takes, and uses nothing beyond that but the borrowed
resources. -/
def Balanced (borrowed : List Resource) (program : Program I Error Value) : Prop :=
  ∀ held, borrowed ⊆ held → program.Meets discipline.monitor held fun _ after => after = held

/-- The program gives back what it takes, and the given resource besides. -/
def Closing (borrowed : List Resource) (resource : Resource)
    (program : Program I Error Value) : Prop :=
  ∀ held, borrowed ⊆ held →
    program.Meets discipline.monitor (resource :: held) fun _ after => after = held

section Rules

variable {discipline} {borrowed : List Resource}

theorem balanced_pure (value : Value) :
    discipline.Balanced borrowed (pure value : Program I Error Value) := fun _ _ => rfl

theorem balanced_raised (error : Error) :
    discipline.Balanced borrowed (.raised error : Program I Error Value) := fun _ _ => rfl

theorem balanced_of_except (result : Except Error Value) :
    discipline.Balanced borrowed (Program.ofExcept result : Program I Error Value) := by
  cases result
  · exact balanced_raised _
  · exact balanced_pure _

theorem Balanced.mono {more : List Resource} {program : Program I Error Value}
    (balanced : discipline.Balanced borrowed program) (extended : borrowed ⊆ more) :
    discipline.Balanced more program :=
  fun held available => balanced held (List.Subset.trans extended available)

theorem balanced_bind {program : Program I Error Value}
    {next : Value → Program I Error Result} (first : discipline.Balanced borrowed program)
    (rest : ∀ value, discipline.Balanced borrowed (next value)) :
    discipline.Balanced borrowed (program >>= next) := by
  intro held available
  rw [Program.meets_bind]
  apply (first held available).mono
  rintro (error | value) _ rfl
  · rfl
  · exact rest value _ available

theorem balanced_catching {program : Program I Error Value}
    {handler : Error → Program I Error Value} (first : discipline.Balanced borrowed program)
    (rest : ∀ error, discipline.Balanced borrowed (handler error)) :
    discipline.Balanced borrowed (program.catching handler) := by
  intro held available
  apply Program.meets_catching
  apply (first held available).mono
  rintro (error | value) _ rfl
  · exact rest error _ available
  · rfl

theorem monitor_neutral {event : Event I} {held : List Resource}
    (permitted : discipline.permitted event.call = true)
    (available : discipline.used event ⊆ held) (kept : discipline.released event = none) :
    discipline.monitor held event = some ((discipline.acquired event).toList ++ held) := by
  have present : ∀ resource ∈ discipline.used event, resource ∈ held :=
    fun _ member => available member
  rw [monitor, if_pos ⟨permitted, present⟩, kept]

/-- The monitor lets no call pass that is not permitted. -/
theorem monitor_permitted {event : Event I} {held after : List Resource}
    (passed : discipline.monitor held event = some after) :
    discipline.permitted event.call = true := by
  by_contra refused
  rw [monitor, if_neg fun given => refused given.1] at passed
  cases passed

/-- A call that takes and gives back nothing. -/
theorem balanced_ask {query : I.Call} {next : I.Reply query → Program I Error Value}
    (permitted : discipline.permitted query = true)
    (available : ∀ reply, discipline.used ⟨query, reply⟩ ⊆ borrowed)
    (kept : ∀ reply, discipline.released ⟨query, reply⟩ = none)
    (untaken : ∀ reply, discipline.acquired ⟨query, reply⟩ = none)
    (rest : ∀ reply, discipline.Balanced borrowed (next reply)) :
    discipline.Balanced borrowed (Program.call query >>= next) := by
  intro held inside reply
  refine ⟨held, ?_, rest reply held inside⟩
  rw [monitor_neutral permitted (List.Subset.trans (available reply) inside) (kept reply),
    untaken reply]
  rfl

/-- A call that may take a resource, which the rest of the program then gives back. -/
theorem balanced_acquire {query : I.Call} {next : I.Reply query → Program I Error Value}
    (permitted : discipline.permitted query = true)
    (available : ∀ reply, discipline.used ⟨query, reply⟩ ⊆ borrowed)
    (kept : ∀ reply, discipline.released ⟨query, reply⟩ = none)
    (failed : ∀ reply, discipline.acquired ⟨query, reply⟩ = none →
      discipline.Balanced borrowed (next reply))
    (taken : ∀ reply resource, discipline.acquired ⟨query, reply⟩ = some resource →
      discipline.Closing borrowed resource (next reply)) :
    discipline.Balanced borrowed (Program.call query >>= next) := by
  intro held inside reply
  refine ⟨_, monitor_neutral permitted (List.Subset.trans (available reply) inside)
    (kept reply), ?_⟩
  cases outcome : discipline.acquired ⟨query, reply⟩ with
  | none => exact failed reply outcome held inside
  | some resource => exact taken reply resource outcome held inside

/-- A `finally` clause gives the resource back, whatever happens before it. -/
theorem closing_ensuring {program : Program I Error Value} {resource : Resource}
    {query : I.Call} (permitted : discipline.permitted query = true)
    (balanced : discipline.Balanced (resource :: borrowed) program)
    (available : ∀ reply, discipline.used ⟨query, reply⟩ ⊆ [resource])
    (returned : ∀ reply, discipline.released ⟨query, reply⟩ = some resource) :
    discipline.Closing borrowed resource
      (program.ensuring (Program.call query >>= fun _ => pure ())) := by
  intro held inside
  apply Program.meets_ensuring
  apply (balanced (resource :: held) (List.cons_subset_cons resource inside)).mono
  rintro result _ rfl reply
  refine ⟨held, ?_, ?_⟩
  · have present : ∀ other ∈ discipline.used ⟨query, reply⟩, other ∈ resource :: held := by
      intro other member
      rw [List.mem_singleton.mp (available reply member)]
      exact List.mem_cons_self
    rw [monitor, if_pos ⟨permitted, present⟩, returned reply]
    exact if_pos rfl
  · cases result <;> rfl

theorem follow_permitted {history : List (Event I)} {held : List Resource}
    (followed : Program.follow discipline.monitor [] history = some held) :
    ∀ event ∈ history, discipline.permitted event.call = true := by
  refine Program.follow_invariant
    (fun past _ => ∀ event ∈ past, discipline.permitted event.call = true)
    (fun _ => nofun) ?_ followed
  intro past event before after known step other member
  rcases List.mem_append.mp member with old | new
  · exact known other old
  · rw [List.mem_singleton.mp new]
    exact monitor_permitted step

/-- What was taken, in any order: what was given back, and what is still out. -/
theorem follow_account {history : List (Event I)} {held : List Resource}
    (followed : Program.follow discipline.monitor [] history = some held) :
    (history.filterMap discipline.acquired).Perm
      (history.filterMap discipline.released ++ held) := by
  refine Program.follow_invariant
    (fun past held => (past.filterMap discipline.acquired).Perm
      (past.filterMap discipline.released ++ held)) (List.Perm.refl _) ?_ followed
  intro past event before after account step
  rw [List.filterMap_append, List.filterMap_append]
  rw [monitor] at step
  split at step
  · cases returned : discipline.released event with
    | some resource =>
        rw [returned] at step
        dsimp only at step
        split at step
        · rename_i last
          cases step
          obtain ⟨rest, rfl⟩ := List.head?_eq_some_iff.mp last
          simpa [discipline.exclusive event resource returned, returned] using account
        · cases step
    | none =>
        rw [returned] at step
        cases step
        cases taken : discipline.acquired event with
        | none => simpa [returned, taken] using account
        | some resource =>
            have added := account.append_right [resource]
            rw [List.append_assoc] at added
            simp only [List.filterMap_cons, List.filterMap_nil, returned, taken,
              List.append_nil, Option.toList_some, List.singleton_append]
            exact added.trans ((List.perm_append_singleton resource before).append_left _)
  · cases step

/-- A monitor that passes over the permitted calls does not see the program. -/
theorem meets_unseen {State : Type} {other : State → Event I → Option State}
    (ignores : ∀ state event, discipline.permitted event.call = true →
      other state event = some state)
    {program : Program I Error Value} {held : List Resource}
    {post : Except Error Value → List Resource → Prop}
    (met : program.Meets discipline.monitor held post) (state : State) :
    program.Meets other state fun _ after => after = state := by
  induction program generalizing held with
  | done value => rfl
  | raised error => rfl
  | ask call next induction =>
      intro reply
      obtain ⟨after, allowed, rest⟩ := met reply
      exact ⟨state, ignores state ⟨call, reply⟩ (monitor_permitted allowed),
        induction reply rest⟩

/-- A balanced program has the same result on two steady environments that answer its permitted
calls alike. -/
theorem balanced_value {answers other : (query : I.Call) → I.Reply query}
    (agree : ∀ call, discipline.permitted call = true → answers call = other call)
    {program : Program I Error Value} (balanced : discipline.Balanced [] program) :
    program.value answers = program.value other :=
  Program.value_meets (fun _ call _ _ passed => agree call (monitor_permitted passed))
    (balanced [] (List.nil_subset _))

/-- A balanced program makes permitted calls only. -/
theorem balanced_traces {program : Program I Error Value}
    (balanced : discipline.Balanced [] program) {events : List (Event I)}
    {result : Except Error Value} (traces : program.Traces events result) :
    ∀ event ∈ events, discipline.permitted event.call = true := by
  obtain ⟨_, followed, _⟩ := (balanced [] (List.nil_subset _)).traces traces
  exact follow_permitted followed

end Rules

/-- A balanced program leaves nothing behind, however it ends and whatever it is told. -/
theorem run_balanced {program : Program I Error Value}
    (balanced : discipline.Balanced [] program) (environment : Program.Environment I) :
    Program.follow discipline.monitor [] (program.run environment []).2 = some [] := by
  obtain ⟨after, followed, same⟩ := Program.run_meets environment [] [] rfl
    (balanced [] (List.nil_subset _))
  rw [followed, same]

end Discipline

end Sigmascope.Library
