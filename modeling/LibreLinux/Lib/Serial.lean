import LibreLinux.Lib.Runs

/-!
# Serial histories

A system with many parties may keep a store that only some of its steps touch. The serial
history of a run lists what those steps did, in the order in which they did it. Where each
step serves its command from the store and no other step changes it, the store of a state is
the one a server reaches that is given the history and nothing else, and what the steps
produced are the answers of that server.
-/

namespace LibreLinux.Serial

open Runs

universe u v
variable {σ : Type u} {ε κ α : Type v} {τ : Type u}

/-- The store of a server after it took the requests. -/
def after (serve : τ → κ → α × τ) (store : τ) (requests : List κ) : τ :=
  requests.foldl (fun reached request => (serve reached request).2) store

/-- One more request is served from the store the others leave. -/
theorem after_concat (serve : τ → κ → α × τ) (store : τ) (requests : List κ) (request : κ) :
    after serve store (requests ++ [request]) = (serve (after serve store requests) request).2 := by
  simp [after]

/-- The answer to one more request comes last, from the store the others leave. -/
theorem answers_concat (serve : τ → κ → α × τ) (store : τ) (requests : List κ) (request : κ) :
    answers serve store (requests ++ [request]) =
      answers serve store requests ++ [(serve (after serve store requests) request).1] := by
  induction requests generalizing store with
  | nil => rfl
  | cons first rest inductionHypothesis =>
    rw [List.cons_append, answers, inductionHypothesis]
    rfl

/-- The commands of the steps that touch the store, in the order of the steps. -/
def history (command : σ → ε → Option κ) (past : List (σ × ε)) : List κ :=
  past.filterMap (fun entry => command entry.1 entry.2)

/-- A step adds its command to the history. -/
theorem history_concat (command : σ → ε → Option κ) (past : List (σ × ε)) (state : σ) (event : ε) :
    history command (past ++ [(state, event)]) =
      history command past ++ (command state event).toList := by
  cases commanded : command state event <;> simp [history, commanded]

/-- A step without a command adds nothing to the history. -/
theorem history_concat_none (command : σ → ε → Option κ) (past : List (σ × ε)) (state : σ)
    (event : ε) (idle : command state event = none) :
    history command (past ++ [(state, event)]) = history command past := by
  simp [history_concat, idle]

/-- A step with a command ends the history with it. -/
theorem history_concat_some (command : σ → ε → Option κ) (past : List (σ × ε)) (state : σ)
    (event : ε) (request : κ) (commanded : command state event = some request) :
    history command (past ++ [(state, event)]) = history command past ++ [request] := by
  simp [history_concat, commanded]

end LibreLinux.Serial
