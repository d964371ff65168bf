import MethodRoutes.Http.Message

/-!
# Accessors and headers providers

Part of a request comes from code of the router's owner: accessors answer texts for the
destination, and a headers provider answers the headers of one method. What such a source
answers may depend on how often it has been asked before.

## Main definitions

* `Source` — answers by the number of earlier invocations
* `Bindings` — the accessors by name and the providers by signature
* `Invocations` — what has been invoked so far, in order
* `Accessor.invoke`, `HeadersProvider.invoke` — ask for the next answer
-/

namespace MethodRoutes

/-- Something that can be asked again and again. -/
structure Source (α : Type) where
  /-- The answer after a number of earlier invocations. -/
  answer : Nat → α

namespace Source

variable {α : Type}

/-- The source that always gives the same answer. -/
def constant (a : α) : Source α := ⟨fun _ => a⟩

/-- The source that goes through a list of answers over and over again; `default` is the answer
if there are none. -/
def cycle (default : α) (answers : List α) : Source α :=
  ⟨fun n => (answers[n % answers.length]?).getD default⟩

end Source

/-- Answers a text for the destination. -/
abbrev Accessor := Source String

/-- Answers the headers of a request. -/
abbrev HeadersProvider := Source Headers

/-- What a router lends to its routes. -/
structure Bindings where
  /-- The accessors by name. -/
  accessors : Table String Accessor
  /-- The headers providers by the signature of their method. -/
  providers : Table Signature HeadersProvider

namespace Bindings

/-- No bindings. -/
def empty : Bindings := ⟨.empty, .empty⟩

/-- Register an accessor; an earlier one of the name is replaced. -/
def withAccessor (b : Bindings) (name : String) (accessor : Accessor) : Bindings :=
  { b with accessors := b.accessors.insert name accessor }

/-- Attach a headers provider to a method; an earlier one of the method is replaced. -/
def withProvider (b : Bindings) (method : Signature) (provider : HeadersProvider) : Bindings :=
  { b with providers := b.providers.insert method provider }

end Bindings

/-- One time that code of the router's owner was asked. -/
inductive Invocation where
  /-- The accessor with a name was asked. -/
  | accessor (name : String)
  /-- The headers provider of a method was asked. -/
  | provider (method : Signature)
  deriving DecidableEq, Repr

/-- The invocations of the accessors and providers of a router. All routes share them, so an
accessor counts on wherever its name occurs. -/
structure Invocations where
  /-- All invocations, the earliest one first. -/
  log : List Invocation
  deriving DecidableEq, Repr

namespace Invocations

/-- Nothing has been invoked. -/
def none : Invocations := ⟨[]⟩

/-- Further invocations after those so far. -/
def after (i : Invocations) (more : List Invocation) : Invocations := ⟨i.log ++ more⟩

/-- How often an accessor has been invoked. -/
def accessors (i : Invocations) (name : String) : Nat := i.log.count (.accessor name)

/-- How often the provider of a method has been invoked. -/
def providers (i : Invocations) (method : Signature) : Nat := i.log.count (.provider method)

variable {i : Invocations} {more : List Invocation}

@[simp] theorem after_nil : i.after [] = i := by simp [after]

@[simp] theorem after_after (more' : List Invocation) :
    (i.after more).after more' = i.after (more ++ more') := by
  simp [after]

theorem accessors_after (name : String) :
    (i.after more).accessors name = i.accessors name + more.count (.accessor name) :=
  List.count_append

end Invocations

/-- Ask the accessor with a name for its next answer. -/
def Accessor.invoke (accessor : Accessor) (name : String) : StateM Invocations String :=
  fun i => (accessor.answer (i.accessors name), i.after [.accessor name])

/-- Ask the provider of a method for its next answer. -/
def HeadersProvider.invoke (provider : HeadersProvider) (method : Signature) :
    StateM Invocations Headers :=
  fun i => (provider.answer (i.providers method), i.after [.provider method])

end MethodRoutes
