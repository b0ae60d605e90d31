/-
  WeblogDesk.Http.Conversation

  Computations that talk to a server.

  A `Conversation` is done with a value, or asks a request and goes on with the
  answer.  `run` holds it with a server and gives the value with all that was
  exchanged; `run_bind` says that one after the other is one run after the other.
-/

import WeblogDesk.Http.Exchange

namespace WeblogDesk
namespace Http

/-- A computation that may ask a server. -/
inductive Conversation (α : Type) where
  | done (value : α)
  | ask (request : Request) (next : Answer → Conversation α)

namespace Conversation

variable {α β : Type}

/-- One conversation after the other. -/
def bind : Conversation α → (α → Conversation β) → Conversation β
  | .done a, f => f a
  | .ask r next, f => .ask r fun answer => bind (next answer) f

instance : Monad Conversation where
  pure := .done
  bind := bind

/-- The answer to one request. -/
def send (r : Request) : Conversation Answer :=
  .ask r .done

/-- The value of a conversation with a server, and all that was exchanged, starting from
    what was exchanged before. -/
def run (server : Server) : List Exchange → Conversation α → α × List Exchange
  | past, .done a => (a, past)
  | past, .ask r next =>
    let answer := server past r
    run server (past ++ [⟨r, answer⟩]) (next answer)

@[simp] theorem run_pure (server : Server) (past : List Exchange) (a : α) :
    run server past (pure a) = (a, past) := rfl

@[simp] theorem run_send (server : Server) (past : List Exchange) (r : Request) :
    run server past (send r) = (server past r, past ++ [⟨r, server past r⟩]) := rfl

@[simp] theorem run_bind (server : Server) (past : List Exchange) (c : Conversation α)
    (f : α → Conversation β) :
    run server past (c >>= f) =
      run server (run server past c).2 (f (run server past c).1) := by
  show run server past (bind c f) = _
  induction c generalizing past with
  | done a => rfl
  | ask r next ih => exact ih _ _

/-- A conversation followed by nothing is itself. -/
theorem bind_done (c : Conversation α) : bind c .done = c := by
  induction c with
  | done a => rfl
  | ask r next ih => exact congrArg (ask r) (funext ih)

/-- Three conversations one after the other need no grouping. -/
theorem bind_bind {γ : Type} (c : Conversation α) (f : α → Conversation β)
    (g : β → Conversation γ) : bind (bind c f) g = bind c fun a => bind (f a) g := by
  induction c with
  | done a => rfl
  | ask r next ih => exact congrArg (ask r) (funext ih)

instance : LawfulMonad Conversation :=
  LawfulMonad.mk' Conversation bind_done (fun _ _ => rfl) bind_bind

end Conversation
end Http
end WeblogDesk
