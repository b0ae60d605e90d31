/-
  WeblogDesk.Proofs.Http.Transcript

  What a conversation adds to the record of exchanges.

  `exchanged` is the part of the record that belongs to one conversation, so a
  run can be told apart into the conversations it was made of: the record at its
  end is what was there before, followed by what each of them exchanged.
-/

import WeblogDesk.Http.Conversation

namespace WeblogDesk
namespace Http
namespace Conversation

variable {α β : Type}

/-- What is exchanged in a conversation with a server, after what was exchanged before. -/
def exchanged (server : Server) : List Exchange → Conversation α → List Exchange
  | _, .done _ => []
  | past, .ask r next =>
    ⟨r, server past r⟩ ::
      exchanged server (past ++ [⟨r, server past r⟩]) (next (server past r))

@[simp] theorem exchanged_pure (server : Server) (past : List Exchange) (a : α) :
    exchanged server past (pure a) = [] := rfl

@[simp] theorem exchanged_send (server : Server) (past : List Exchange) (r : Request) :
    exchanged server past (send r) = [⟨r, server past r⟩] := rfl

/-- The record at the end of a conversation. -/
theorem run_snd (server : Server) (past : List Exchange) (c : Conversation α) :
    (run server past c).2 = past ++ exchanged server past c := by
  induction c generalizing past with
  | done a => simp [run, exchanged]
  | ask r next ih =>
    show (run server (past ++ [_]) (next (server past r))).2 = _
    rw [ih, exchanged, List.append_assoc]
    rfl

@[simp] theorem exchanged_bind (server : Server) (past : List Exchange) (c : Conversation α)
    (f : α → Conversation β) :
    exchanged server past (c >>= f) =
      exchanged server past c ++
        exchanged server (run server past c).2 (f (run server past c).1) := by
  show exchanged server past (bind c f) = _
  induction c generalizing past with
  | done a => rfl
  | ask r next ih =>
    simp only [bind, exchanged, List.cons_append]
    rw [ih]
    rfl

/-- What is made of the value of a conversation is no part of the record. -/
theorem exchanged_bind_pure (server : Server) (past : List Exchange) (c : Conversation α)
    (f : α → β) :
    exchanged server past (c >>= fun a => pure (f a)) = exchanged server past c := by
  rw [exchanged_bind]
  exact List.append_nil _

/-- Changing the value of a conversation changes nothing else of its run. -/
@[simp] theorem run_map (server : Server) (past : List Exchange) (c : Conversation α)
    (f : α → β) :
    run server past (f <$> c) = (f (run server past c).1, (run server past c).2) := by
  rw [← bind_pure_comp, run_bind]
  rfl

@[simp] theorem exchanged_map (server : Server) (past : List Exchange) (c : Conversation α)
    (f : α → β) :
    exchanged server past (f <$> c) = exchanged server past c := by
  rw [← bind_pure_comp, exchanged_bind_pure]

end Conversation
end Http
end WeblogDesk
