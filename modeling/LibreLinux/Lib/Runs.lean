import Mathlib.Data.List.Basic

/-!
# Runs of an executable transition system

A system is a step function that refuses the events not enabled in a state.
Everything the environment decides is carried by the event, so a run is a list
of events and an interleaving is just such a list. An invariant that each step
keeps holds after every run; where a step keeps it only under a condition on the
state before the step, the run has to be admitted by that condition at each of
its steps. A step that keeps an invariant only while a growing number is below a
limit keeps it in the runs that end below the limit. Nothing here bounds the
length of a run.

The trace of a run is the list of its steps, each with the state it was taken in.
A statement about the past of a state is one about the trace that led to it. Where
one state leads to another by an admitted run, nothing is stuck on the way.

A server is a system that takes every request and answers it at once.
-/

namespace LibreLinux.Runs

universe u v
variable {σ : Type u} {ε : Type v}

/-- Perform the events in order. A refused event ends the run without a state. -/
def run (step : σ → ε → Option σ) : σ → List ε → Option σ
  | state, [] => some state
  | state, event :: rest => (step state event).bind (fun next => run step next rest)

/-- Each event of the run is performed in a state in which `allowed` admits it. -/
def Admitted (step : σ → ε → Option σ) (allowed : σ → ε → Prop) : σ → List ε → Prop
  | _, [] => True
  | state, event :: rest =>
      allowed state event ∧ ∀ next, step state event = some next → Admitted step allowed next rest

/-- An admitted step before an admitted run. -/
theorem admitted_cons (step : σ → ε → Option σ) (allowed : σ → ε → Prop) (state next : σ)
    (event : ε) (rest : List ε) (here : allowed state event) (stepped : step state event = some next)
    (later : Admitted step allowed next rest) : Admitted step allowed state (event :: rest) := by
  refine ⟨here, fun other performed => ?_⟩
  rw [stepped] at performed
  cases performed
  exact later

/-- Events that are always admitted make an admitted run. -/
theorem admitted_of_all (step : σ → ε → Option σ) (allowed : σ → ε → Prop) (events : List ε)
    (always : ∀ event ∈ events, ∀ state, allowed state event) (start : σ) :
    Admitted step allowed start events := by
  induction events generalizing start with
  | nil => trivial
  | cons event rest inductionHypothesis =>
    refine ⟨always event List.mem_cons_self start, fun next _ => ?_⟩
    exact inductionHypothesis (fun other member => always other (List.mem_cons_of_mem _ member)) next

/-- Two admitted runs, one after the other. -/
theorem admitted_append (step : σ → ε → Option σ) (allowed : σ → ε → Prop) (before after : List ε)
    (start : σ) (first : Admitted step allowed start before)
    (second : ∀ middle, run step start before = some middle → Admitted step allowed middle after) :
    Admitted step allowed start (before ++ after) := by
  induction before generalizing start with
  | nil => exact second start rfl
  | cons event rest inductionHypothesis =>
    refine ⟨first.1, fun next stepped => inductionHypothesis next (first.2 next stepped) ?_⟩
    intro middle reached
    exact second middle (by rw [run, stepped]; exact reached)

/-- A completed run of one more event is a step followed by a completed run. -/
theorem run_cons_inv (step : σ → ε → Option σ) (start finish : σ) (event : ε) (rest : List ε)
    (completed : run step start (event :: rest) = some finish) :
    ∃ next, step start event = some next ∧ run step next rest = some finish := by
  simpa only [run, Option.bind_eq_some_iff] using completed

/-- What every admitted step keeps holds after every admitted run.

Induct over the events: the first step establishes the invariant for the state
from which the remaining, again admitted, run starts. -/
theorem admitted_invariant (step : σ → ε → Option σ) (allowed : σ → ε → Prop)
    (invariant : σ → Prop)
    (kept : ∀ state event next, invariant state → allowed state event →
      step state event = some next → invariant next)
    (events : List ε) (start finish : σ) (initial : invariant start)
    (admitted : Admitted step allowed start events)
    (completed : run step start events = some finish) : invariant finish := by
  induction events generalizing start with
  | nil => exact Option.some.inj completed ▸ initial
  | cons event rest inductionHypothesis =>
    obtain ⟨next, stepped, tail⟩ := run_cons_inv step start finish event rest completed
    obtain ⟨here, later⟩ := admitted
    exact inductionHypothesis next (kept start event next initial here stepped)
      (later next stepped) tail

/-- A log that every step extends, with good entries exactly where the step is
admitted, tells whether a completed run was admitted.

Induct over the events: a bad entry of the first step stays in the log. -/
theorem admitted_iff_logged {α : Type v} (step : σ → ε → Option σ) (allowed : σ → ε → Prop)
    (log : σ → List α) (good : α → Prop)
    (logged : ∀ state event next, step state event = some next → ∃ added,
      log next = log state ++ added ∧ ((∀ entry ∈ added, good entry) ↔ allowed state event))
    (events : List ε) (start finish : σ) (completed : run step start events = some finish) :
    (∀ entry ∈ log finish, good entry) ↔
      (∀ entry ∈ log start, good entry) ∧ Admitted step allowed start events := by
  induction events generalizing start with
  | nil =>
    rw [Option.some.inj completed]
    exact (and_iff_left trivial).symm
  | cons event rest inductionHypothesis =>
    obtain ⟨next, stepped, tail⟩ := run_cons_inv step start finish event rest completed
    obtain ⟨added, extended, exactly⟩ := logged start event next stepped
    have only : Admitted step allowed start (event :: rest) ↔
        allowed start event ∧ Admitted step allowed next rest := by
      rw [Admitted, stepped]
      simp
    rw [inductionHypothesis next tail, extended, List.forall_mem_append, only, exactly, and_assoc]

/-- What every step keeps holds after every run. -/
theorem run_invariant (step : σ → ε → Option σ) (invariant : σ → Prop)
    (kept : ∀ state event next, invariant state → step state event = some next → invariant next)
    (events : List ε) (start finish : σ) (initial : invariant start)
    (completed : run step start events = some finish) : invariant finish := by
  induction events generalizing start with
  | nil => exact Option.some.inj completed ▸ initial
  | cons event rest inductionHypothesis =>
    obtain ⟨next, stepped, tail⟩ := run_cons_inv step start finish event rest completed
    exact inductionHypothesis next (kept start event next initial stepped) tail

/-- A run of two parts is one after the other. -/
theorem run_append (step : σ → ε → Option σ) (start : σ) (before after : List ε) :
    run step start (before ++ after) =
      (run step start before).bind (fun middle => run step middle after) := by
  induction before generalizing start with
  | nil => rfl
  | cons event rest inductionHypothesis =>
    rw [List.cons_append, run, run, Option.bind_assoc]
    exact congrArg _ (funext inductionHypothesis)

/-- A completed run of two parts goes through a state between them. -/
theorem run_append_inv (step : σ → ε → Option σ) (start finish : σ) (before after : List ε)
    (completed : run step start (before ++ after) = some finish) :
    ∃ middle, run step start before = some middle ∧ run step middle after = some finish := by
  rw [run_append] at completed
  exact Option.bind_eq_some_iff.mp completed

/-- A number that no step lowers is not lowered by a run. -/
theorem run_grows (step : σ → ε → Option σ) (measure : σ → Nat)
    (grows : ∀ state event next, step state event = some next → measure state ≤ measure next)
    (events : List ε) (start finish : σ) (completed : run step start events = some finish) :
    measure start ≤ measure finish :=
  run_invariant step (fun state => measure start ≤ measure state)
    (fun state event next earlier stepped => Nat.le_trans earlier (grows state event next stepped))
    events start finish (Nat.le_refl _) completed

/-- What steps keep as long as a growing number is below a limit holds after every
run that ends below the limit. -/
theorem run_invariant_below (step : σ → ε → Option σ) (measure : σ → Nat) (limit : Nat)
    (invariant : σ → Prop)
    (grows : ∀ state event next, step state event = some next → measure state ≤ measure next)
    (kept : ∀ state event next, measure next < limit → invariant state →
      step state event = some next → invariant next)
    (events : List ε) (start finish : σ) (initial : invariant start)
    (completed : run step start events = some finish) (below : measure finish < limit) :
    invariant finish := by
  refine run_invariant step (fun state => measure state < limit → invariant state) ?_
    events start finish (fun _ => initial) completed below
  intro state event next earlier stepped bounded
  have before := Nat.lt_of_le_of_lt (grows state event next stepped) bounded
  exact kept state event next bounded (earlier before) stepped

/-- A condition that steps meet by themselves while a growing number is below a limit is met in
a run that ends below the limit.

Induct over the events, with the invariant for the state the rest of the run starts from. -/
theorem admitted_below (step : σ → ε → Option σ) (allowed stronger : σ → ε → Prop)
    (measure : σ → Nat) (limit : Nat) (invariant : σ → Prop)
    (grows : ∀ state event next, step state event = some next → measure state ≤ measure next)
    (kept : ∀ state event next, invariant state → step state event = some next → invariant next)
    (met : ∀ state event, invariant state → measure state < limit → allowed state event →
      stronger state event)
    (events : List ε) (start finish : σ) (initial : invariant start)
    (admitted : Admitted step allowed start events)
    (completed : run step start events = some finish) (below : measure finish < limit) :
    Admitted step stronger start events := by
  induction events generalizing start with
  | nil => trivial
  | cons event rest inductionHypothesis =>
    have bounded := Nat.lt_of_le_of_lt
      (run_grows step measure grows (event :: rest) start finish completed) below
    obtain ⟨next, stepped, tail⟩ := run_cons_inv step start finish event rest completed
    exact admitted_cons step stronger start next event rest
      (met start event initial bounded admitted.1) stepped
      (inductionHypothesis next (kept start event next initial stepped) (admitted.2 next stepped)
        tail)

/-- What holds after a run but not before it was brought about by one step.

Induct over the events: either the first step establishes the property, or the
rest of the run starts without it. -/
theorem run_established (step : σ → ε → Option σ) (property : σ → Prop) (events : List ε)
    (start finish : σ) (completed : run step start events = some finish)
    (absent : ¬ property start) (present : property finish) :
    ∃ before event after state next, events = before ++ event :: after ∧
      run step start before = some state ∧ step state event = some next ∧
      ¬ property state ∧ property next := by
  induction events generalizing start with
  | nil => exact absurd (Option.some.inj completed ▸ present) absent
  | cons event rest inductionHypothesis =>
    obtain ⟨next, stepped, tail⟩ := run_cons_inv step start finish event rest completed
    by_cases here : property next
    · exact ⟨[], event, rest, start, next, rfl, rfl, stepped, absent, here⟩
    · obtain ⟨before, cause, after, state, result, split, reached, performed, lacking, holding⟩ :=
        inductionHypothesis next tail here
      refine ⟨event :: before, cause, after, state, result, by simp [split], ?_, performed,
        lacking, holding⟩
      simp [run, stepped, reached]

/-- The steps of a run, each with the state it was taken in. -/
def trace (step : σ → ε → Option σ) : σ → List ε → List (σ × ε)
  | _, [] => []
  | state, event :: rest => (state, event) ::
      match step state event with
      | none => []
      | some next => trace step next rest

/-- The trace of a run of two parts is one after the other. -/
theorem trace_append (step : σ → ε → Option σ) (start middle : σ) (before after : List ε)
    (reached : run step start before = some middle) :
    trace step start (before ++ after) = trace step start before ++ trace step middle after := by
  induction before generalizing start with
  | nil =>
    cases Option.some.inj reached
    rfl
  | cons event rest inductionHypothesis =>
    obtain ⟨next, stepped, tail⟩ := run_cons_inv step start middle event rest reached
    simp [trace, stepped, inductionHypothesis next tail]

/-- What every step keeps of a state and its past holds after every run.

Induct over the events, for every past that leads to the start. -/
theorem trace_invariant (step : σ → ε → Option σ) (invariant : List (σ × ε) → σ → Prop)
    (kept : ∀ past state event next, invariant past state → step state event = some next →
      invariant (past ++ [(state, event)]) next)
    (events : List ε) (start finish : σ) (initial : invariant [] start)
    (completed : run step start events = some finish) :
    invariant (trace step start events) finish := by
  have extended : ∀ past, invariant past start →
      invariant (past ++ trace step start events) finish := by
    clear initial
    induction events generalizing start with
    | nil =>
      intro past holds
      rw [trace, List.append_nil]
      exact Option.some.inj completed ▸ holds
    | cons event rest inductionHypothesis =>
      intro past holds
      obtain ⟨next, stepped, tail⟩ := run_cons_inv step start finish event rest completed
      have later := inductionHypothesis next tail (past ++ [(start, event)])
        (kept past start event next holds stepped)
      rw [trace, stepped]
      simpa using later
  exact extended [] initial

/-- Each step of a past stands in a relation to the steps before it. -/
def EachStep (relation : List (σ × ε) → σ → ε → Prop) (past : List (σ × ε)) : Prop :=
  ∀ before state event after, past = before ++ (state, event) :: after → relation before state event

/-- A step of a past with one more step is that step or one of the past. -/
theorem split_of_snoc {α : Type v} (past before after : List α) (last seen : α)
    (split : past ++ [last] = before ++ seen :: after) :
    (before = past ∧ seen = last) ∨ ∃ rest, past = before ++ seen :: rest := by
  rcases List.eq_nil_or_concat after with rfl | ⟨rest, final, rfl⟩
  · obtain ⟨same, ended⟩ := List.append_inj' split rfl
    exact Or.inl ⟨same.symm, (List.cons.inj ended).1.symm⟩
  · rw [List.concat_eq_append, ← List.cons_append, ← List.append_assoc] at split
    exact Or.inr ⟨rest, (List.append_inj' split rfl).1⟩

/-- One more step that stands in the relation to the past. -/
theorem each_step_snoc (relation : List (σ × ε) → σ → ε → Prop) (past : List (σ × ε)) (state : σ)
    (event : ε) (each : EachStep relation past) (latest : relation past state event) :
    EachStep relation (past ++ [(state, event)]) := by
  intro before other performed after split
  rcases split_of_snoc past before after (state, event) (other, performed) split with
    ⟨rfl, same⟩ | ⟨rest, earlier⟩
  · cases same
    exact latest
  · exact each before other performed rest earlier

/-- The events of a completed run are those of its trace. -/
theorem trace_events (step : σ → ε → Option σ) (events : List ε) (start finish : σ)
    (completed : run step start events = some finish) :
    (trace step start events).map Prod.snd = events := by
  induction events generalizing start with
  | nil => rfl
  | cons event rest inductionHypothesis =>
    obtain ⟨next, stepped, tail⟩ := run_cons_inv step start finish event rest completed
    simp [trace, stepped, inductionHypothesis next tail]

/-- An admitted run leads from one state to another. -/
def Leads (step : σ → ε → Option σ) (allowed : σ → ε → Prop) (start finish : σ) : Prop :=
  ∃ events, Admitted step allowed start events ∧ run step start events = some finish

/-- No step leads to the state itself. -/
theorem leads_refl (step : σ → ε → Option σ) (allowed : σ → ε → Prop) (state : σ) :
    Leads step allowed state state :=
  ⟨[], trivial, rfl⟩

/-- One step, and what it leads to. -/
theorem leads_step (step : σ → ε → Option σ) (allowed : σ → ε → Prop) (start next finish : σ)
    (event : ε) (here : allowed start event) (stepped : step start event = some next)
    (leads : Leads step allowed next finish) : Leads step allowed start finish := by
  obtain ⟨events, admitted, completed⟩ := leads
  refine ⟨event :: events, admitted_cons step allowed start next event events here stepped admitted,
    ?_⟩
  rw [run, stepped]
  exact completed

/-- A run leads on to what its end leads to. -/
theorem leads_trans (step : σ → ε → Option σ) (allowed : σ → ε → Prop) (start middle finish : σ)
    (first : Leads step allowed start middle) (second : Leads step allowed middle finish) :
    Leads step allowed start finish := by
  obtain ⟨before, admittedBefore, toMiddle⟩ := first
  obtain ⟨after, admittedAfter, toFinish⟩ := second
  refine ⟨before ++ after, ?_, ?_⟩
  · refine admitted_append step allowed before after start admittedBefore ?_
    intro other reached
    rw [toMiddle] at reached
    cases reached
    exact admittedAfter
  · rw [run_append, toMiddle]
    exact toFinish

/-- The answers of a server to requests made one after the other. -/
def answers {α : Type v} (serve : σ → ε → α × σ) : σ → List ε → List α
  | _, [] => []
  | state, request :: rest =>
      (serve state request).1 :: answers serve (serve state request).2 rest

/-- A server that gives the expected answer in every state it can get to gives
the expected answers. -/
theorem answers_eq_map {α : Type v} (serve : σ → ε → α × σ) (expected : ε → α)
    (invariant : σ → Prop)
    (kept : ∀ state request, invariant state →
      (serve state request).1 = expected request ∧ invariant (serve state request).2)
    (requests : List ε) (start : σ) (initial : invariant start) :
    answers serve start requests = requests.map expected := by
  induction requests generalizing start with
  | nil => rfl
  | cons request rest inductionHypothesis =>
    obtain ⟨answered, later⟩ := kept start request initial
    rw [answers, List.map_cons, answered, inductionHypothesis _ later]

end LibreLinux.Runs
