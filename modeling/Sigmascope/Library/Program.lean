import Mathlib.Data.List.Basic
import Mathlib.Data.List.Induction
import Mathlib.Logic.Basic

/-!
Programs that call an environment. A program ends with a value or an exception, or makes
one call and goes on with the reply. The environment may answer every call by everything
that happened before. The rules below are about two questions: which results a program can
have, and what a monitor of its history sees.
-/

namespace Sigmascope.Library

set_option autoImplicit false

structure Interface where
  Call : Type
  Reply : Call → Type

structure Event (I : Interface) where
  call : I.Call
  reply : I.Reply call

inductive Program (I : Interface) (Error Value : Type) where
  | done (value : Value)
  | raised (error : Error)
  | ask (call : I.Call) (next : I.Reply call → Program I Error Value)

namespace Program

variable {I : Interface} {Error Value Result : Type}

def bind : Program I Error Value → (Value → Program I Error Result) → Program I Error Result
  | .done value, next => next value
  | .raised error, _ => .raised error
  | .ask call rest, next => .ask call fun reply => (rest reply).bind next

instance : Monad (Program I Error) where
  pure := .done
  bind := bind

def call (query : I.Call) : Program I Error (I.Reply query) := .ask query .done

/-- `try` with a clause for every exception. -/
def catching :
    Program I Error Value → (Error → Program I Error Value) → Program I Error Value
  | .done value, _ => .done value
  | .raised error, handler => handler error
  | .ask call rest, handler => .ask call fun reply => (rest reply).catching handler

/-- `try` with a `finally` clause, which runs before the value is returned or the exception
goes on. -/
def ensuring : Program I Error Value → Program I Error Unit → Program I Error Value
  | .done value, cleanup => cleanup.bind fun _ => .done value
  | .raised error, cleanup => cleanup.bind fun _ => .raised error
  | .ask call rest, cleanup => .ask call fun reply => (rest reply).ensuring cleanup

def ofExcept : Except Error Value → Program I Error Value
  | .ok value => .done value
  | .error error => .raised error

/-- The answers of an environment may depend on the whole past. -/
def Environment (I : Interface) : Type := List (Event I) → (query : I.Call) → I.Reply query

/-- The result of a program, and the past extended by its own calls. -/
def run (environment : Environment I) :
    List (Event I) → Program I Error Value → Except Error Value × List (Event I)
  | past, .done value => (.ok value, past)
  | past, .raised error => (.error error, past)
  | past, .ask call next =>
      let reply := environment past call
      run environment (past ++ [⟨call, reply⟩]) (next reply)

section Run

variable {environment : Environment I} {past after : List (Event I)}
  {program : Program I Error Value}

theorem run_bind_ok {value : Value} (ran : run environment past program = (.ok value, after))
    (next : Value → Program I Error Result) :
    run environment past (program >>= next) = run environment after (next value) := by
  induction program generalizing past with
  | done same =>
      cases ran
      rfl
  | raised error => cases ran
  | ask call rest induction => exact induction _ ran

theorem run_bind_error {error : Error} (ran : run environment past program = (.error error, after))
    (next : Value → Program I Error Result) :
    run environment past (program >>= next) = (.error error, after) := by
  induction program generalizing past with
  | done value => cases ran
  | raised same =>
      cases ran
      rfl
  | ask call rest induction => exact induction _ ran

theorem run_catching_ok {value : Value} (ran : run environment past program = (.ok value, after))
    (handler : Error → Program I Error Value) :
    run environment past (program.catching handler) = (.ok value, after) := by
  induction program generalizing past with
  | done same => exact ran
  | raised error => cases ran
  | ask call rest induction => exact induction _ ran

theorem run_catching_error {error : Error}
    (ran : run environment past program = (.error error, after))
    (handler : Error → Program I Error Value) :
    run environment past (program.catching handler) = run environment after (handler error) := by
  induction program generalizing past with
  | done value => cases ran
  | raised same =>
      cases ran
      rfl
  | ask call rest induction => exact induction _ ran

end Run

section Results

/-- Some answers of the environment lead the program to the result. -/
def Yields : Program I Error Value → Except Error Value → Prop
  | .done value, result => result = .ok value
  | .raised error, result => result = .error error
  | .ask _ next, result => ∃ reply, (next reply).Yields result

theorem yields_of_except {value : Except Error Value} {result : Except Error Value} :
    (ofExcept value : Program I Error Value).Yields result ↔ result = value := by
  cases value <;> rfl

theorem yields_bind {program : Program I Error Value} {next : Value → Program I Error Result}
    {result : Except Error Result} :
    (program >>= next).Yields result ↔
      (∃ value, program.Yields (.ok value) ∧ (next value).Yields result) ∨
        ∃ error, program.Yields (.error error) ∧ result = .error error := by
  induction program with
  | done value => simp [Yields, Bind.bind, bind]
  | raised error => simp [Yields, Bind.bind, bind]
  | ask call continuation induction =>
      change (∃ reply, (continuation reply >>= next).Yields result) ↔ _
      simp only [induction, Yields, exists_or]
      constructor
      · intro given
        rcases given with ⟨reply, value, first, rest⟩ | ⟨reply, error, first, rest⟩
        · exact Or.inl ⟨value, ⟨reply, first⟩, rest⟩
        · exact Or.inr ⟨error, ⟨reply, first⟩, rest⟩
      · intro given
        rcases given with ⟨value, ⟨reply, first⟩, rest⟩ | ⟨error, ⟨reply, first⟩, rest⟩
        · exact Or.inl ⟨reply, value, first, rest⟩
        · exact Or.inr ⟨reply, error, first, rest⟩

theorem yields_bind_ok {program : Program I Error Value} {next : Value → Program I Error Result}
    {result : Result} :
    (program >>= next).Yields (.ok result) ↔
      ∃ value, program.Yields (.ok value) ∧ (next value).Yields (.ok result) := by
  simp [yields_bind]

theorem yields_catching {program : Program I Error Value}
    {handler : Error → Program I Error Value} {result : Except Error Value} :
    (program.catching handler).Yields result ↔
      (∃ value, program.Yields (.ok value) ∧ result = .ok value) ∨
        ∃ error, program.Yields (.error error) ∧ (handler error).Yields result := by
  induction program with
  | done value => simp [Yields, catching]
  | raised error => simp [Yields, catching]
  | ask call continuation induction =>
      change (∃ reply, ((continuation reply).catching handler).Yields result) ↔ _
      simp only [induction, Yields, exists_or]
      constructor
      · intro given
        rcases given with ⟨reply, value, first, rest⟩ | ⟨reply, error, first, rest⟩
        · exact Or.inl ⟨value, ⟨reply, first⟩, rest⟩
        · exact Or.inr ⟨error, ⟨reply, first⟩, rest⟩
      · intro given
        rcases given with ⟨value, ⟨reply, first⟩, rest⟩ | ⟨error, ⟨reply, first⟩, rest⟩
        · exact Or.inl ⟨reply, value, first, rest⟩
        · exact Or.inr ⟨reply, error, first, rest⟩

/-- A value that comes out of a `finally` clause was there before it. -/
theorem yields_ensuring_ok {program : Program I Error Value} {cleanup : Program I Error Unit}
    {value : Value} (result : (program.ensuring cleanup).Yields (.ok value)) :
    program.Yields (.ok value) := by
  induction program with
  | done other =>
      obtain ⟨_, _, last⟩ := yields_bind_ok.mp result
      exact last
  | raised error =>
      obtain ⟨_, _, last⟩ := yields_bind_ok.mp result
      exact last
  | ask call continuation induction =>
      obtain ⟨reply, rest⟩ := result
      exact ⟨reply, induction reply rest⟩

end Results

section Traces

/-- Some answers of the environment lead the program to the result; the events are the calls
of the program with these answers. -/
def Traces : Program I Error Value → List (Event I) → Except Error Value → Prop
  | .done value, events, result => events = [] ∧ result = .ok value
  | .raised error, events, result => events = [] ∧ result = .error error
  | .ask call next, events, result =>
      ∃ reply rest, events = ⟨call, reply⟩ :: rest ∧ (next reply).Traces rest result

theorem run_traces (environment : Environment I) (past : List (Event I))
    (program : Program I Error Value) :
    ∃ events, (run environment past program).2 = past ++ events ∧
      program.Traces events (run environment past program).1 := by
  induction program generalizing past with
  | done value => exact ⟨[], (List.append_nil past).symm, rfl, rfl⟩
  | raised error => exact ⟨[], (List.append_nil past).symm, rfl, rfl⟩
  | ask call next induction =>
      let reply := environment past call
      obtain ⟨rest, history, traces⟩ := induction reply (past ++ [⟨call, reply⟩])
      refine ⟨⟨call, reply⟩ :: rest, ?_, reply, rest, rfl, traces⟩
      rw [← List.append_cons] at history
      exact history

theorem Traces.yields {program : Program I Error Value} {events : List (Event I)}
    {result : Except Error Value} (traces : program.Traces events result) :
    program.Yields result := by
  induction program generalizing events with
  | done value => exact traces.2
  | raised error => exact traces.2
  | ask call next induction =>
      obtain ⟨reply, rest, _, traces⟩ := traces
      exact ⟨reply, induction reply traces⟩

theorem traces_of_except {value : Except Error Value} {events : List (Event I)}
    {result : Except Error Value} :
    (ofExcept value : Program I Error Value).Traces events result ↔
      events = [] ∧ result = value := by
  cases value <;> rfl

/-- The first part ends with a value and the second part goes on, or an exception of the first
part is the result. -/
theorem traces_bind {program : Program I Error Value} {next : Value → Program I Error Result}
    {events : List (Event I)} {result : Except Error Result} :
    (program >>= next).Traces events result ↔
      (∃ value front back, events = front ++ back ∧ program.Traces front (.ok value) ∧
        (next value).Traces back result) ∨
        ∃ error, program.Traces events (.error error) ∧ result = .error error := by
  induction program generalizing events with
  | done value =>
      change (next value).Traces events result ↔ _
      simp [Traces]
  | raised error =>
      change events = [] ∧ result = .error error ↔ _
      simp [Traces]
  | ask call continuation induction =>
      change (∃ reply rest, events = ⟨call, reply⟩ :: rest ∧
        (continuation reply >>= next).Traces rest result) ↔ _
      simp only [induction]
      constructor
      · intro given
        obtain ⟨reply, rest, rfl, given⟩ := given
        rcases given with ⟨value, front, back, rfl, first, second⟩ | ⟨error, first, same⟩
        · exact Or.inl ⟨value, ⟨call, reply⟩ :: front, back, rfl, ⟨reply, front, rfl, first⟩,
            second⟩
        · exact Or.inr ⟨error, ⟨reply, rest, rfl, first⟩, same⟩
      · intro given
        rcases given with ⟨value, front, back, rfl, first, second⟩ | ⟨error, first, same⟩
        · obtain ⟨reply, rest, rfl, first⟩ := first
          exact ⟨reply, rest ++ back, rfl, Or.inl ⟨value, rest, back, rfl, first, second⟩⟩
        · obtain ⟨reply, rest, rfl, first⟩ := first
          exact ⟨reply, rest, rfl, Or.inr ⟨error, first, same⟩⟩

theorem traces_bind_ok {program : Program I Error Value}
    {next : Value → Program I Error Result} {events : List (Event I)} {result : Result} :
    (program >>= next).Traces events (.ok result) ↔
      ∃ value front back, events = front ++ back ∧ program.Traces front (.ok value) ∧
        (next value).Traces back (.ok result) := by
  simp [traces_bind]

theorem traces_bind_error {program : Program I Error Value}
    {next : Value → Program I Error Result} {events : List (Event I)} {error : Error} :
    (program >>= next).Traces events (.error error) ↔
      program.Traces events (.error error) ∨
        ∃ value front back, events = front ++ back ∧ program.Traces front (.ok value) ∧
          (next value).Traces back (.error error) := by
  rw [traces_bind, or_comm]
  simp

theorem traces_catching {program : Program I Error Value}
    {handler : Error → Program I Error Value} {events : List (Event I)}
    {result : Except Error Value} :
    (program.catching handler).Traces events result ↔
      (∃ value, program.Traces events (.ok value) ∧ result = .ok value) ∨
        ∃ error front back, events = front ++ back ∧ program.Traces front (.error error) ∧
          (handler error).Traces back result := by
  induction program generalizing events with
  | done value => simp [Traces, catching]
  | raised error => simp [Traces, catching]
  | ask call continuation induction =>
      change (∃ reply rest, events = ⟨call, reply⟩ :: rest ∧
        ((continuation reply).catching handler).Traces rest result) ↔ _
      simp only [induction]
      constructor
      · intro given
        obtain ⟨reply, rest, rfl, given⟩ := given
        rcases given with ⟨value, first, same⟩ | ⟨error, front, back, rfl, first, second⟩
        · exact Or.inl ⟨value, ⟨reply, rest, rfl, first⟩, same⟩
        · exact Or.inr ⟨error, ⟨call, reply⟩ :: front, back, rfl, ⟨reply, front, rfl, first⟩,
            second⟩
      · intro given
        rcases given with ⟨value, first, same⟩ | ⟨error, front, back, rfl, first, second⟩
        · obtain ⟨reply, rest, rfl, first⟩ := first
          exact ⟨reply, rest, rfl, Or.inl ⟨value, first, same⟩⟩
        · obtain ⟨reply, rest, rfl, first⟩ := first
          exact ⟨reply, rest ++ back, rfl, Or.inr ⟨error, rest, back, rfl, first, second⟩⟩

/-- The clean-up runs behind every outcome, and hands it on unless it raises itself. -/
theorem traces_ensuring {program : Program I Error Value} {cleanup : Program I Error Unit}
    {events : List (Event I)} {result : Except Error Value} :
    (program.ensuring cleanup).Traces events result ↔
      ∃ outcome front back, events = front ++ back ∧ program.Traces front outcome ∧
        (cleanup >>= fun _ => ofExcept outcome).Traces back result := by
  induction program generalizing events with
  | done value =>
      change (cleanup >>= fun _ => ofExcept (.ok value)).Traces events result ↔ _
      simp [Traces]
  | raised error =>
      change (cleanup >>= fun _ => ofExcept (.error error)).Traces events result ↔ _
      simp [Traces]
  | ask call continuation induction =>
      change (∃ reply rest, events = ⟨call, reply⟩ :: rest ∧
        ((continuation reply).ensuring cleanup).Traces rest result) ↔ _
      simp only [induction]
      constructor
      · intro given
        obtain ⟨reply, rest, rfl, outcome, front, back, rfl, first, second⟩ := given
        exact ⟨outcome, ⟨call, reply⟩ :: front, back, rfl, ⟨reply, front, rfl, first⟩, second⟩
      · intro given
        obtain ⟨outcome, front, back, rfl, ⟨reply, rest, rfl, first⟩, second⟩ := given
        exact ⟨reply, rest ++ back, rfl, outcome, rest, back, rfl, first, second⟩

theorem traces_ensuring_ok {program : Program I Error Value} {cleanup : Program I Error Unit}
    {events : List (Event I)} {value : Value}
    (traces : (program.ensuring cleanup).Traces events (.ok value)) :
    ∃ front back, events = front ++ back ∧ program.Traces front (.ok value) := by
  obtain ⟨outcome, front, back, rfl, first, second⟩ := traces_ensuring.mp traces
  obtain ⟨_, _, last, rfl, _, handed⟩ := traces_bind_ok.mp second
  obtain ⟨_, rfl⟩ := traces_of_except.mp handed
  exact ⟨front, _, rfl, first⟩

end Traces

section Monitors

variable {State : Type}

/-- The state of a monitor behind a history; `none` once it has objected to an event. -/
def follow (monitor : State → Event I → Option State) (start : State)
    (history : List (Event I)) : Option State :=
  history.foldlM monitor start

/-- Whatever the replies are, the monitor does not object, and the result and its last state
are as asked. -/
def Meets (monitor : State → Event I → Option State) :
    Program I Error Value → State → (Except Error Value → State → Prop) → Prop
  | .done value, state, post => post (.ok value) state
  | .raised error, state, post => post (.error error) state
  | .ask call next, state, post =>
      ∀ reply, ∃ after, monitor state ⟨call, reply⟩ = some after ∧
        (next reply).Meets monitor after post

/-- What is left to be shown behind a program that another one follows. -/
def Continues (monitor : State → Event I → Option State)
    (next : Value → Program I Error Result) (post : Except Error Result → State → Prop) :
    Except Error Value → State → Prop
  | .ok value, state => (next value).Meets monitor state post
  | .error error, state => post (.error error) state

variable {monitor : State → Event I → Option State} {state : State}

theorem Meets.mono {program : Program I Error Value}
    {strong weak : Except Error Value → State → Prop} (met : program.Meets monitor state strong)
    (implied : ∀ result after, strong result after → weak result after) :
    program.Meets monitor state weak := by
  induction program generalizing state with
  | done value => exact implied _ _ met
  | raised error => exact implied _ _ met
  | ask call next induction =>
      intro reply
      obtain ⟨after, allowed, rest⟩ := met reply
      exact ⟨after, allowed, induction reply rest⟩

theorem meets_bind {program : Program I Error Value} {next : Value → Program I Error Result}
    {post : Except Error Result → State → Prop} :
    (program >>= next).Meets monitor state post ↔
      program.Meets monitor state (Continues monitor next post) := by
  induction program generalizing state with
  | done value => rfl
  | raised error => rfl
  | ask call continuation induction =>
      apply forall_congr'
      intro reply
      apply exists_congr
      intro after
      exact and_congr_right fun _ => induction reply

theorem meets_catching {program : Program I Error Value}
    {handler : Error → Program I Error Value} {post : Except Error Value → State → Prop}
    (met : program.Meets monitor state fun result after =>
      match result with
      | .ok value => post (.ok value) after
      | .error error => (handler error).Meets monitor after post) :
    (program.catching handler).Meets monitor state post := by
  induction program generalizing state with
  | done value => exact met
  | raised error => exact met
  | ask call continuation induction =>
      intro reply
      obtain ⟨after, allowed, rest⟩ := met reply
      exact ⟨after, allowed, induction reply rest⟩

/-- A clean-up is judged behind every result, and its own exception would replace the result. -/
theorem meets_ensuring {program : Program I Error Value} {cleanup : Program I Error Unit}
    {post : Except Error Value → State → Prop}
    (met : program.Meets monitor state fun result after =>
      (cleanup >>= fun _ => ofExcept result).Meets monitor after post) :
    (program.ensuring cleanup).Meets monitor state post := by
  induction program generalizing state with
  | done value => exact met
  | raised error => exact met
  | ask call continuation induction =>
      intro reply
      obtain ⟨after, allowed, rest⟩ := met reply
      exact ⟨after, allowed, induction reply rest⟩

theorem follow_snoc (monitor : State → Event I → Option State) (start : State)
    (history : List (Event I)) (event : Event I) :
    follow monitor start (history ++ [event]) =
      (follow monitor start history).bind fun state => monitor state event := by
  rw [follow, List.foldlM_append, follow]
  apply congrArg
  funext middle
  exact List.foldlM_cons.trans (bind_pure _)

/-- What holds at the start and is kept by every step that the monitor takes, holds behind every
history that it can follow. -/
theorem follow_invariant {monitor : State → Event I → Option State} {start : State}
    (Invariant : List (Event I) → State → Prop) (initial : Invariant [] start)
    (preserved : ∀ past event before after, Invariant past before →
      monitor before event = some after → Invariant (past ++ [event]) after)
    {history : List (Event I)} {state : State}
    (followed : follow monitor start history = some state) : Invariant history state := by
  induction history using List.reverseRecOn generalizing state with
  | nil =>
      cases followed
      exact initial
  | append_singleton history event induction =>
      rw [follow_snoc, Option.bind_eq_some_iff] at followed
      obtain ⟨before, earlier, step⟩ := followed
      exact preserved history event before state (induction earlier) step

/-- The rules are sound: the monitor can follow every run. -/
theorem run_meets {program : Program I Error Value} {post : Except Error Value → State → Prop}
    (environment : Environment I) (start : State) (past : List (Event I))
    (before : follow monitor start past = some state)
    (met : program.Meets monitor state post) :
    ∃ after, follow monitor start (run environment past program).2 = some after ∧
      post (run environment past program).1 after := by
  induction program generalizing past state with
  | done value => exact ⟨state, before, met⟩
  | raised error => exact ⟨state, before, met⟩
  | ask call next induction =>
      obtain ⟨after, allowed, rest⟩ := met (environment past call)
      apply induction (environment past call) _ _ rest
      rw [follow_snoc, before]
      exact allowed

/-- A monitor that has nothing against a program can follow each of its traces. -/
theorem Meets.traces {program : Program I Error Value}
    {post : Except Error Value → State → Prop} (met : program.Meets monitor state post)
    {events : List (Event I)} {result : Except Error Value}
    (traces : program.Traces events result) :
    ∃ after, follow monitor state events = some after ∧ post result after := by
  induction program generalizing state events with
  | done value =>
      obtain ⟨rfl, rfl⟩ := traces
      exact ⟨state, rfl, met⟩
  | raised error =>
      obtain ⟨rfl, rfl⟩ := traces
      exact ⟨state, rfl, met⟩
  | ask call next induction =>
      obtain ⟨reply, rest, rfl, traces⟩ := traces
      obtain ⟨middle, allowed, remaining⟩ := met reply
      obtain ⟨after, followed, reached⟩ := induction reply remaining traces
      refine ⟨after, ?_, reached⟩
      rw [follow, List.foldlM_cons, allowed]
      exact followed

end Monitors

section Guards

variable {allowed : List (Event I) → Event I → Prop} {past front back events : List (Event I)}

/-- Every event is allowed by what happened before it. -/
def Guarded (allowed : List (Event I) → Event I → Prop) (past events : List (Event I)) : Prop :=
  ∀ before event after, events = before ++ event :: after → allowed (past ++ before) event

theorem guarded_nil : Guarded allowed past [] := by
  intro before event after split
  cases List.append_eq_nil_iff.mp split.symm |>.2

theorem guarded_append (first : Guarded allowed past front)
    (second : Guarded allowed (past ++ front) back) : Guarded allowed past (front ++ back) := by
  intro before event after split
  rcases List.append_eq_append_iff.mp split with ⟨middle, rfl, rest⟩ | ⟨middle, rfl, rest⟩
  · rw [← List.append_assoc]
    exact second middle event after rest
  · cases middle with
    | nil =>
        have own := second [] event after rest.symm
        rwa [List.append_nil, List.append_nil] at own
    | cons other middle =>
        obtain ⟨rfl, _⟩ := List.cons_eq_cons.mp rest
        exact first before event middle rfl

theorem guarded_singleton {event : Event I} (own : allowed past event) :
    Guarded allowed past [event] := by
  intro before other after split
  obtain ⟨rfl, rest⟩ | ⟨_, _, impossible⟩ := List.cons_eq_append_iff.mp split
  · cases rest
    rwa [List.append_nil]
  · cases List.append_eq_nil_iff.mp impossible.symm |>.2

/-- Events that are allowed at any time. -/
theorem guarded_free (free : ∀ event ∈ events, ∀ past, allowed past event) :
    Guarded allowed past events := by
  intro before event after split
  apply free
  rw [split]
  exact List.mem_append_right before List.mem_cons_self

/-- The two parts of a program, each guarded by what happened before it. -/
theorem guarded_bind {program : Program I Error Value} {next : Value → Program I Error Result}
    (first : ∀ front result, program.Traces front result → Guarded allowed past front)
    (rest : ∀ value front back result, program.Traces front (.ok value) →
      (next value).Traces back result → Guarded allowed (past ++ front) back)
    {result : Except Error Result} (traces : (program >>= next).Traces events result) :
    Guarded allowed past events := by
  rcases traces_bind.mp traces with ⟨value, front, back, rfl, start, further⟩ | ⟨error, only, _⟩
  · exact guarded_append (first front _ start) (rest value front back _ start further)
  · exact first events _ only

end Guards

section Steady

variable {answers other : (query : I.Call) → I.Reply query}

/-- The result on an environment that answers a call alike whenever it is made. -/
def value (answers : (query : I.Call) → I.Reply query) :
    Program I Error Value → Except Error Value
  | .done value => .ok value
  | .raised error => .error error
  | .ask call next => (next (answers call)).value answers

def steady (answers : (query : I.Call) → I.Reply query) : Environment I :=
  fun _ query => answers query

theorem run_steady (past : List (Event I)) (program : Program I Error Value) :
    (run (steady answers) past program).1 = program.value answers := by
  induction program generalizing past with
  | done value => rfl
  | raised error => rfl
  | ask call next induction => exact induction (answers call) _

theorem value_bind (program : Program I Error Value) (next : Value → Program I Error Result) :
    (program >>= next).value answers =
      (program.value answers).bind fun value => (next value).value answers := by
  induction program with
  | done value => rfl
  | raised error => rfl
  | ask call continuation induction => exact induction (answers call)

theorem value_of_except (result : Except Error Value) :
    (ofExcept result : Program I Error Value).value answers = result := by
  cases result <;> rfl

theorem value_catching (program : Program I Error Value)
    (handler : Error → Program I Error Value) :
    (program.catching handler).value answers =
      (program.value answers).tryCatch fun error => (handler error).value answers := by
  induction program with
  | done value => rfl
  | raised error => rfl
  | ask call continuation induction => exact induction (answers call)

/-- Nothing that a clean-up does can be seen later. -/
theorem value_ensuring (program : Program I Error Value) (cleanup : Program I Error Unit) :
    (program.ensuring cleanup).value answers =
      (cleanup.value answers).bind fun _ => program.value answers := by
  induction program with
  | done value => exact value_bind cleanup fun _ => .done value
  | raised error => exact value_bind cleanup fun _ => .raised error
  | ask call continuation induction => exact induction (answers call)

/-- The events of a run on a steady environment hold its answers. -/
theorem value_traces (program : Program I Error Value) :
    ∃ events, program.Traces events (program.value answers) ∧
      ∀ call reply, ⟨call, reply⟩ ∈ events → reply = answers call := by
  induction program with
  | done value => exact ⟨[], ⟨rfl, rfl⟩, fun _ _ member => absurd member List.not_mem_nil⟩
  | raised error => exact ⟨[], ⟨rfl, rfl⟩, fun _ _ member => absurd member List.not_mem_nil⟩
  | ask call next induction =>
      obtain ⟨events, traces, answered⟩ := induction (answers call)
      refine ⟨⟨call, answers call⟩ :: events, ⟨_, events, rfl, traces⟩, ?_⟩
      intro query reply member
      rcases List.mem_cons.mp member with first | later
      · cases first
        rfl
      · exact answered query reply later

/-- Two steady environments that agree on every call that the monitor lets pass. -/
theorem value_meets {State : Type} {monitor : State → Event I → Option State}
    (agree : ∀ state call reply after, monitor state ⟨call, reply⟩ = some after →
      answers call = other call)
    {program : Program I Error Value} {state : State}
    {post : Except Error Value → State → Prop} (met : program.Meets monitor state post) :
    program.value answers = program.value other := by
  induction program generalizing state with
  | done value => rfl
  | raised error => rfl
  | ask call next induction =>
      obtain ⟨after, allowed, rest⟩ := met (answers call)
      have same := agree state call (answers call) after allowed
      have later := induction (answers call) rest
      rw [value, value, ← same, later]

end Steady

section Related

variable {Other : Type}

/-- Two results with related values, or with the same exception. -/
inductive Related (relation : Value → Other → Prop) :
    Except Error Value → Except Error Other → Prop where
  | ok {first : Value} {second : Other} (related : relation first second) :
      Related relation (.ok first) (.ok second)
  | error (error : Error) : Related relation (.error error) (.error error)

theorem related_self (result : Except Error Value) : Related (fun first second => first = second)
    result result := by
  cases result with
  | ok value => exact .ok rfl
  | error error => exact .error error

theorem related_bind {Next Further : Type} {relation : Value → Other → Prop}
    {goal : Next → Further → Prop} {first : Except Error Value} {second : Except Error Other}
    {left : Value → Except Error Next} {right : Other → Except Error Further}
    (related : Related relation first second)
    (rest : ∀ value other, relation value other → Related goal (left value) (right other)) :
    Related goal (first.bind left) (second.bind right) := by
  cases related with
  | ok related => exact rest _ _ related
  | error error => exact .error error

end Related

end Program

end Sigmascope.Library
