import Mathlib

/-!
Programs that ask their environment, as trees of questions over any signature: how they are put
together, how they run against one that answers by itself, and what can be said of them whatever
the answers are.
-/

namespace Jitong.Lib

universe u v w x

inductive Program {Op : Type u} (Reply : Op → Type v) (Result : Type w)
  | done (result : Result)
  | ask (op : Op) (next : Reply op → Program Reply Result)

structure Monitor {Op : Type u} (Reply : Op → Type v) (Memory : Type x) where
  learn : Memory → (op : Op) → Reply op → Memory
  allows : Memory → Op → Prop

namespace Program

variable {Op : Type u} {Reply : Op → Type v} {Result Other : Type w} {Memory : Type x}

def bind {Result Other : Type w} :
    Program Reply Result → (Result → Program Reply Other) → Program Reply Other
  | .done result, next => next result
  | .ask op rest, next => .ask op fun reply => (rest reply).bind next

instance : Monad (Program Reply) where
  pure := .done
  bind := bind

def call (op : Op) : Program Reply (Reply op) := .ask op .done

def run {State : Type x} (answer : State → (op : Op) → Reply op × State) :
    State → Program Reply Result → Result × State
  | state, .done result => (result, state)
  | state, .ask op next => run answer (answer state op).2 (next (answer state op).1)

def Obeys (monitor : Monitor Reply Memory) (ends : Memory → Result → Prop) :
    Memory → Program Reply Result → Prop
  | memory, .done result => ends memory result
  | memory, .ask op next =>
      monitor.allows memory op ∧ ∀ reply, Obeys monitor ends (monitor.learn memory op reply) (next reply)

def All (kind : Op → Prop) : Program Reply Result → Prop
  | .done _ => True
  | .ask op next => kind op ∧ ∀ reply, All kind (next reply)

@[simp] theorem pure_eq (result : Result) : (pure result : Program Reply Result) = .done result := rfl

@[simp] theorem bind_eq (program : Program Reply Result) (next : Result → Program Reply Other) :
    program >>= next = program.bind next := rfl

@[simp] theorem done_bind (result : Result) (next : Result → Program Reply Other) :
    (Program.done result).bind next = next result := rfl

@[simp] theorem ask_bind (op : Op) (rest : Reply op → Program Reply Result)
    (next : Result → Program Reply Other) :
    (Program.ask op rest).bind next = .ask op fun reply => (rest reply).bind next := rfl

@[simp] theorem call_bind {Reply : Op → Type w} (op : Op) (next : Reply op → Program Reply Other) :
    (call op).bind next = .ask op next := rfl

section Run

variable {State : Type x} {answer : State → (op : Op) → Reply op × State} {state : State}

@[simp] theorem run_done (result : Result) : run answer state (.done result) = (result, state) := rfl

@[simp] theorem run_ask (op : Op) (next : Reply op → Program Reply Result) :
    run answer state (.ask op next) = run answer (answer state op).2 (next (answer state op).1) := rfl

theorem run_ask_eq {op : Op} {next : Reply op → Program Reply Result} {ended : Result × State}
    (runs : run answer state (.ask op next) = ended) :
    ∃ reply after, answer state op = (reply, after) ∧ run answer after (next reply) = ended :=
  ⟨_, _, rfl, runs⟩

theorem run_bind (program : Program Reply Result) (next : Result → Program Reply Other) :
    run answer state (program.bind next) =
      run answer (run answer state program).2 (next (run answer state program).1) := by
  induction program generalizing state with
  | done result => rfl
  | ask op rest ih => simp only [ask_bind, run_ask, ih]

end Run

variable {monitor : Monitor Reply Memory} {memory : Memory}

theorem Obeys.bind {middle : Memory → Result → Prop} {ends : Memory → Other → Prop}
    {program : Program Reply Result} {next : Result → Program Reply Other}
    (obeys : program.Obeys monitor middle memory)
    (goesOn : ∀ memory result, middle memory result → (next result).Obeys monitor ends memory) :
    (program.bind next).Obeys monitor ends memory := by
  induction program generalizing memory with
  | done result => exact goesOn memory result obeys
  | ask op rest ih => exact ⟨obeys.1, fun reply => ih reply (obeys.2 reply)⟩

theorem Obeys.mono {middle ends : Memory → Result → Prop} {program : Program Reply Result}
    (obeys : program.Obeys monitor middle memory)
    (weaker : ∀ memory result, middle memory result → ends memory result) :
    program.Obeys monitor ends memory := by
  induction program generalizing memory with
  | done result => exact weaker memory result obeys
  | ask op rest ih => exact ⟨obeys.1, fun reply => ih reply (obeys.2 reply)⟩

theorem All.bind {kind : Op → Prop} {program : Program Reply Result}
    {next : Result → Program Reply Other} (all : program.All kind)
    (goesOn : ∀ result, (next result).All kind) : (program.bind next).All kind := by
  induction program with
  | done result => exact goesOn result
  | ask op rest ih => exact ⟨all.1, fun reply => ih reply (all.2 reply)⟩

theorem All.obeys {kind : Op → Prop} {keeps : Memory → Prop} {program : Program Reply Result}
    (allowed : ∀ memory op, keeps memory → kind op → monitor.allows memory op)
    (kept : ∀ memory op reply, keeps memory → kind op → keeps (monitor.learn memory op reply))
    (all : program.All kind) (start : keeps memory) :
    program.Obeys monitor (fun memory _ => keeps memory) memory := by
  induction program generalizing memory with
  | done result => exact start
  | ask op rest ih =>
      exact ⟨allowed memory op start all.1, fun reply =>
        ih reply (all.2 reply) (kept memory op reply start all.1)⟩

end Program

end Jitong.Lib
