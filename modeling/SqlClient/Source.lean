/-!
# Streams

A stream is a state and a step: polled in some world, it brings an item, or nothing this time, or its
end, and changes its own state and the world. Streams whose items may be errors can be mapped, filtered,
flattened and cut after their first error.

Functions that streams apply may remember what they were applied to. Of such a function only its answer
to a history of arguments matters, so it is kept as one, together with the history so far.
-/

namespace SqlClient

/-! ### Functions with a memory -/

/-- A function whose answer may depend on its earlier arguments, which come the latest first. -/
structure Stateful (α β : Type) where
  answer : List α → α → β
  seen : List α

namespace Stateful

variable {α β : Type}

/-- A function that has not been applied yet. -/
def ofAnswer (answer : List α → α → β) : Stateful α β := ⟨answer, []⟩

/-- A function that remembers nothing. -/
def ofFunction (f : α → β) : Stateful α β := ofAnswer fun _ => f

/-- What the function answers, in view of the arguments it remembers. -/
def apply (f : Stateful α β) (a : α) : β := f.answer f.seen a

/-- The function once it has been applied. -/
def remember (f : Stateful α β) (a : α) : Stateful α β := { f with seen := a :: f.seen }

/-- Asks each predicate in turn, up to the first that refuses; those that were asked remember it. -/
def accept : List (Stateful α Bool) → α → Bool × List (Stateful α Bool)
  | [], _ => (true, [])
  | p :: ps, a =>
    if p.apply a then
      let rest := accept ps a
      (rest.1, p.remember a :: rest.2)
    else (false, p.remember a :: ps)

end Stateful

/-! ### Polling -/

/-- What one poll of a stream brings. -/
inductive Poll (α : Type) where
  | item (a : α)
  /-- Nothing this time; the stream goes on. -/
  | skipped
  | ended
  deriving DecidableEq

/-- Applies a function to the item, if there is one. -/
def Poll.map {α β : Type} (f : α → β) : Poll α → Poll β
  | .item a => .item (f a)
  | .skipped => .skipped
  | .ended => .ended

/-- How streams in states `S` bring items from a world `W`. A stream makes its promises up to the
first poll that finds its end. Whoever polls it after that has left them behind: a stream is free to
abort then, and what the definitions here answer there stands for nothing. -/
structure Source (W S α : Type) where
  poll : S → W → Poll α × S × W

namespace Source

variable {W S α β ε : Type}

/-- Applies a function to every item. -/
def map (f : α → β) (src : Source W S α) : Source W S β where
  poll s w :=
    let r := src.poll s w
    (r.1.map f, r.2)

end Source

/-! ### Items at the end -/

/-- A stream, until it has ended, and the items that follow it. -/
structure Followed (S α : Type) where
  first : Option S
  rest : List α

namespace Source

variable {W S α β ε : Type}

/-- The items of a stream and then those that follow it. -/
def followed (src : Source W S α) : Source W (Followed S α) α where
  poll s w :=
    match s.first, s.rest with
    | some inner, rest =>
      match src.poll inner w with
      | (.item a, inner, w) => (.item a, ⟨some inner, rest⟩, w)
      | (.skipped, inner, w) => (.skipped, ⟨some inner, rest⟩, w)
      | (.ended, _, w) => (.skipped, ⟨none, rest⟩, w)
    | none, a :: rest => (.item a, ⟨none, rest⟩, w)
    | none, [] => (.ended, ⟨none, []⟩, w)

end Source

/-! ### Stopping after an error -/

/-- How far a stream is on the way to its end after an error. -/
inductive Progress where
  | running
  /-- The last item was an error. -/
  | failed
  | finished
  deriving DecidableEq, Repr

/-- A stream that is to end after its first error. -/
structure Guarded (S : Type) where
  inner : S
  progress : Progress

/-- A stream before its first item. -/
def Guarded.ofState {S : Type} (inner : S) : Guarded S := ⟨inner, .running⟩

namespace Source

variable {W S α β ε : Type}

/-- The items of a stream up to its first error. That nothing else is wanted shows only when another
item is asked for: what the inner stream brings then is thrown away. Polls behind the first end are
outside what a stream promises; here they find the end once more. -/
def stopAfterError (src : Source W S (Except ε α)) : Source W (Guarded S) (Except ε α) where
  poll s w :=
    match s.progress with
    | .finished => (.ended, s, w)
    | .running =>
      match src.poll s.inner w with
      | (.item (.ok a), inner, w) => (.item (.ok a), ⟨inner, .running⟩, w)
      | (.item (.error e), inner, w) => (.item (.error e), ⟨inner, .failed⟩, w)
      | (.skipped, inner, w) => (.skipped, ⟨inner, .running⟩, w)
      | (.ended, inner, w) => (.ended, ⟨inner, .finished⟩, w)
    | .failed =>
      match src.poll s.inner w with
      | (.skipped, inner, w) => (.skipped, ⟨inner, .failed⟩, w)
      | (_, inner, w) => (.ended, ⟨inner, .finished⟩, w)

end Source

/-! ### Mapping, filtering and flattening -/

/-- A stream and the function to apply to its items. -/
structure Mapped (S α β : Type) where
  inner : S
  function : Stateful α β

/-- A stream and the predicates that its items must satisfy. -/
structure Filtered (S α : Type) where
  inner : S
  predicates : List (Stateful α Bool)

/-- A stream, the function that maps its items to streams, and what is left of the latest of these. -/
structure Flattened (S α β : Type) where
  inner : S
  mapper : Stateful α (Option (List β))
  pending : List β

namespace Source

variable {W S α β ε : Type}

/-- Applies a function to every item that is no error. -/
def mapped (src : Source W S (Except ε α)) : Source W (Mapped S α β) (Except ε β) where
  poll s w :=
    match src.poll s.inner w with
    | (.item (.ok a), inner, w) =>
      (.item (.ok (s.function.apply a)), ⟨inner, s.function.remember a⟩, w)
    | (.item (.error e), inner, w) => (.item (.error e), { s with inner }, w)
    | (.skipped, inner, w) => (.skipped, { s with inner }, w)
    | (.ended, inner, w) => (.ended, { s with inner }, w)

/-- Keeps the items that all predicates accept. Errors are always kept. -/
def filtered (src : Source W S (Except ε α)) : Source W (Filtered S α) (Except ε α) where
  poll s w :=
    match src.poll s.inner w with
    | (.item (.ok a), inner, w) =>
      let verdict := Stateful.accept s.predicates a
      (if verdict.1 then .item (.ok a) else .skipped, ⟨inner, verdict.2⟩, w)
    | (.item (.error e), inner, w) => (.item (.error e), { s with inner }, w)
    | (.skipped, inner, w) => (.skipped, { s with inner }, w)
    | (.ended, inner, w) => (.ended, { s with inner }, w)

/-- Replaces every item that is no error by the stream that the mapper gives for it. If it gives none,
the error `missing` takes its place. -/
def flattened (missing : ε) (src : Source W S (Except ε α)) :
    Source W (Flattened S α β) (Except ε β) where
  poll s w :=
    match s.pending with
    | b :: rest => (.item (.ok b), { s with pending := rest }, w)
    | [] =>
      match src.poll s.inner w with
      | (.item (.ok a), inner, w) =>
        match s.mapper.apply a with
        | some bs => (.skipped, ⟨inner, s.mapper.remember a, bs⟩, w)
        | none => (.item (.error missing), ⟨inner, s.mapper.remember a, []⟩, w)
      | (.item (.error e), inner, w) => (.item (.error e), { s with inner }, w)
      | (.skipped, inner, w) => (.skipped, { s with inner }, w)
      | (.ended, inner, w) => (.ended, { s with inner }, w)

end Source

end SqlClient
