import FamilyOrders.Creation.Collaborators
import FamilyOrders.Error
import FamilyOrders.Text.Characters

/-!
# Computations and their runs

Computations that may fail, step by step: when they succeed, how they compare
with one another, what they do to the state, and what they ask of the
collaborators.
-/

namespace FamilyOrders

open FamilyOrders.Text

/-! ## Success and failure

A sequence of steps that may fail succeeds exactly when each step does, and
fails with the error of the first step that does not.  What is needed has to be
there, and a text that is blank counts as absent. -/

theorem bind_eq_ok_iff
    {x : Except ε α} {next : α → Except ε β} {b : β} :
    x >>= next = .ok b ↔ ∃ a, x = .ok a ∧ next a = .ok b := by
  cases x <;> simp [bind, Except.bind]

theorem bind_eq_error_iff
    {x : Except ε α} {next : α → Except ε β} {error : ε} :
    x >>= next = .error error ↔
      x = .error error ∨ ∃ a, x = .ok a ∧ next a = .error error := by
  cases x <;> simp [bind, Except.bind]

@[simp] theorem need_some (requirement : Requirement) (a : α) :
    need requirement (some a) = .ok a :=
  rfl

@[simp] theorem need_none (requirement : Requirement) :
    (need requirement none : Except OrderError α) =
      .error (.missingField requirement) :=
  rfl

theorem need_eq_ok_iff
    {requirement : Requirement} {given : Option α} {a : α} :
    need requirement given = .ok a ↔ given = some a := by
  cases given <;> simp [need]

/-! ### Conditions of success -/

def Succeeds (x : Except ε α) : Prop :=
  ∃ a, x = .ok a

namespace Succeeds

@[simp] theorem of_ok (a : α) : Succeeds (.ok a : Except ε α) :=
  ⟨a, rfl⟩

@[simp] theorem of_pure (a : α) : Succeeds (pure a : Except ε α) :=
  ⟨a, rfl⟩

@[simp] theorem not_error (error : ε) :
    ¬Succeeds (.error error : Except ε α) := by
  simp [Succeeds]

@[simp] theorem not_throw (error : ε) : ¬Succeeds (throw error : Except ε α) :=
  not_error error

@[simp] theorem not_error_bind (error : ε) (next : α → Except ε β) :
    ¬Succeeds ((.error error : Except ε α) >>= next) :=
  not_error error

@[simp] theorem ok_bind_iff (a : α) (next : α → Except ε β) :
    Succeeds ((.ok a : Except ε α) >>= next) ↔ Succeeds (next a) :=
  Iff.rfl

theorem bind_iff
    {x : Except ε α} {next : α → Except ε β} {Condition : Prop}
    (hnext : ∀ a, x = .ok a → (Succeeds (next a) ↔ Condition)) :
    Succeeds (x >>= next) ↔ Succeeds x ∧ Condition := by
  cases x with
  | error error => simp
  | ok a => simp [hnext a rfl]

theorem of_bind_ok_iff
    {x : Except ε α} {next : α → Except ε β} (hnext : ∀ a, Succeeds (next a)) :
    Succeeds (x >>= next) ↔ Succeeds x := by
  have hbind : Succeeds (x >>= next) ↔ Succeeds x ∧ True :=
    bind_iff fun a _ => iff_of_true (hnext a) trivial
  rw [hbind, and_true]

theorem need_iff
    {requirement : Requirement} {given : Option α} :
    Succeeds (need requirement given) ↔ ∃ a, given = some a :=
  exists_congr fun _ => need_eq_ok_iff

end Succeeds

namespace Text

theorem nonBlank?_eq_some_iff
    {text : Option String} {s : String} :
    nonBlank? text = some s ↔ text = some s ∧ allBlank s = false := by
  cases text <;> simp [nonBlank?, Option.filter_eq_some_iff]

theorem allBlank_getD_iff
    {text : Option String} :
    allBlank (text.getD "") = true ↔ nonBlank? text = none := by
  cases text with
  | none => exact iff_of_true rfl rfl
  | some s => simp [nonBlank?, Option.filter_some]

@[simp] theorem allBlank_append (a b : String) :
    allBlank (a ++ b) = (allBlank a && allBlank b) := by
  rw [allBlank, String.toList_append, List.all_append]
  rfl

theorem filledOr_of_nonBlank
    {current : Option String} {s : String} (fallback : Option String)
    (hcurrent : nonBlank? current = some s) :
    filledOr current fallback = current := by
  rw [filledOr, hcurrent, Option.some_or]
  exact (nonBlank?_eq_some_iff.mp hcurrent).1.symm

theorem filledOr_of_blank
    {current : Option String} (fallback : Option String)
    (hcurrent : nonBlank? current = none) :
    filledOr current fallback = fallback := by
  rw [filledOr, hcurrent, Option.none_or]

end Text

/-! ## Accord of two computations

Two computations that may fail are in accord when they fail with the same error
or both succeed, with results that are alike.  Steps in accord, taken one after
the other, give computations in accord, so two runs of a long computation are
compared step by step. -/

/-- Both fail with the same error, or both succeed and what they give is alike.
-/
inductive Accord (Alike : α → β → Prop) : Except ε α → Except ε β → Prop
  | failed (error : ε) : Accord Alike (.error error) (.error error)
  | succeeded {a : α} {b : β} (halike : Alike a b) :
      Accord Alike (.ok a) (.ok b)

namespace Accord

variable {Alike : α → β → Prop} {x : Except ε α} {y : Except ε β}

theorem bind
    {Alike' : γ → δ → Prop} {f : α → Except ε γ} {g : β → Except ε δ}
    (haccord : Accord Alike x y)
    (hnext :
      ∀ a b, x = .ok a → y = .ok b → Alike a b → Accord Alike' (f a) (g b)) :
    Accord Alike' (x >>= f) (y >>= g) := by
  cases haccord with
  | failed error => exact .failed error
  | succeeded halike => exact hnext _ _ rfl rfl halike

/-- A step that both computations share. -/
theorem bind_same
    {Alike' : γ → δ → Prop} {f : α → Except ε γ} {g : α → Except ε δ}
    (x : Except ε α) (hnext : ∀ a, x = .ok a → Accord Alike' (f a) (g a)) :
    Accord Alike' (x >>= f) (x >>= g) := by
  cases x with
  | error error => exact .failed error
  | ok a => exact hnext a rfl

end Accord

/-! ## How actions move the state

An action may change the state however it ends.  Where each step of an action
leads from any state only to related ones, and the relation can be chained, so
does the whole action. -/

variable {σ ε α β : Type}

theorem run_bind
    (action : ExceptT ε (StateM σ) α) (next : α → ExceptT ε (StateM σ) β)
    (state : σ) :
    (action >>= next).run.run state =
      match action.run.run state with
      | (.ok a, middle) => (next a).run.run middle
      | (.error error, middle) => (.error error, middle) := by
  rw [ExceptT.run_bind, StateT.run_bind]
  rcases action.run.run state with ⟨outcome, middle⟩
  cases outcome with
  | ok a => rfl
  | error error => rfl

@[simp] theorem run_liftM
    (outcome : Except ε α) (state : σ) :
    (liftM outcome : ExceptT ε (StateM σ) α).run.run state =
      (outcome, state) := by
  cases outcome with
  | ok a => rfl
  | error error => rfl

theorem run_bind_eq_ok_iff
    {action : ExceptT ε (StateM σ) α} {next : α → ExceptT ε (StateM σ) β}
    {state after : σ} {b : β} :
    (action >>= next).run.run state = (.ok b, after) ↔
      ∃ a middle, action.run.run state = (.ok a, middle) ∧
        (next a).run.run middle = (.ok b, after) := by
  rw [run_bind]
  constructor
  · rcases action.run.run state with ⟨outcome, middle⟩
    cases outcome with
    | ok a =>
        intro hnext
        exact ⟨a, middle, rfl, hnext⟩
    | error error =>
        intro hfailed
        cases hfailed
  · rintro ⟨a, middle, hfirst, hnext⟩
    rw [hfirst]
    exact hnext

/-- Changes that can follow one another, and none at all, are such changes
again. -/
structure Chains (R : σ → σ → Prop) : Prop where
  refl : ∀ state, R state state
  trans :
    ∀ {before middle after}, R before middle → R middle after → R before after

/-- The action leads from each state to a related one, also when it fails. -/
def Moves (R : σ → σ → Prop) (action : ExceptT ε (StateM σ) α) : Prop :=
  ∀ state, R state (action.run.run state).2

namespace Moves

variable {R : σ → σ → Prop}

theorem of_run
    {action : ExceptT ε (StateM σ) α} {state after : σ} {outcome : Except ε α}
    (hmoves : Moves R action) (hrun : action.run.run state = (outcome, after)) :
    R state after := by
  have hstate := hmoves state
  rw [hrun] at hstate
  exact hstate

theorem weaken
    {S : σ → σ → Prop} {action : ExceptT ε (StateM σ) α}
    (hmoves : Moves R action)
    (hweaker : ∀ before after, R before after → S before after) :
    Moves S action :=
  fun state => hweaker _ _ (hmoves state)

theorem value
    (hchains : Chains R) (outcome : Except OrderError α) :
    Moves R (liftM outcome : Action σ α) := by
  intro state
  cases outcome with
  | ok a => exact hchains.refl state
  | error error => exact hchains.refl state

theorem bind
    (hchains : Chains R) {action : ExceptT ε (StateM σ) α}
    {next : α → ExceptT ε (StateM σ) β} (hfirst : Moves R action)
    (hnext : ∀ a, Moves R (next a)) : Moves R (action >>= next) := by
  intro state
  rw [run_bind]
  rcases hrun : action.run.run state with ⟨outcome, middle⟩
  have hmiddle := hfirst.of_run hrun
  cases outcome with
  | ok a => exact hchains.trans hmiddle (hnext a middle)
  | error error => exact hmiddle

theorem foldlM
    (hchains : Chains R) {step : β → α → ExceptT ε (StateM σ) β}
    (hstep : ∀ b a, Moves R (step b a)) (list : List α) (start : β) :
    Moves R (list.foldlM step start) := by
  induction list generalizing start with
  | nil => exact hchains.refl
  | cons a list ih =>
      rw [List.foldlM_cons]
      exact bind hchains (hstep start a) ih

end Moves

/-! ## Exchanges with collaborators

Watching changes neither what a task returns nor what the collaborators do, so
what a task does to others is told by its exchanges. -/

namespace Exchange

/-- The error that ended the call. -/
def failure? (exchange : Exchange) : Option OrderError :=
  match exchange.outcome with
  | .error error => some error
  | .ok _ => none

def Succeeded (exchange : Exchange) : Prop :=
  exchange.failure? = none

end Exchange

/-- How an action ends from the given state. -/
def outcomeFrom (state : σ) (action : Action σ α) : Except OrderError α :=
  (action.run.run state).1

/-- A document kept nowhere but under its name. -/
def DocumentReference.named (filename : String) : DocumentReference :=
  { url := filename, binaryUrl := filename, filename }

namespace Collaborators

/-- The exchanges of a task with collaborators in the given state. -/
def exchangesFrom (collaborators : Collaborators σ) (state : σ)
    (task : Collaborators (σ × List Exchange) → Action (σ × List Exchange) α) :
    List Exchange :=
  ((task collaborators.watched).run.run (state, [])).2.2

/-- Collaborators that never fail; what they seal becomes a PDF. -/
def obliging : Collaborators Unit where
  render _ _ format _ := pure ⟨[], format⟩
  download _ := pure []
  sealDocument bytes _ _ := pure ⟨1 :: bytes, .pdf⟩
  upload _ filename _ := pure (.named filename)

end Collaborators

/-- From one state to another, a task makes these exchanges and ends so, watched
or not. -/
structure Shows (plain : Action σ α) (watched : Action (σ × List Exchange) α)
    (state : σ) (exchanges : List Exchange) (outcome : Except OrderError α)
    (after : σ) : Prop where
  plain_run : plain.run.run state = (outcome, after)
  watched_run :
    ∀ seen, watched.run.run (state, seen) = (outcome, after, seen ++ exchanges)

namespace Shows

variable {plain : Action σ α} {watched : Action (σ × List Exchange) α}
  {state middle after : σ} {earlier later : List Exchange}

theorem value
    {given outcome : Except OrderError α} (hgiven : given = outcome)
    (state : σ) :
    Shows (liftM given : Action σ α) (liftM given) state [] outcome state where
  plain_run := by rw [hgiven]; rfl
  watched_run seen := by rw [hgiven, List.append_nil]; rfl

theorem exchange
    (call : Call) {action : Action σ call.Reply}
    {outcome : Except OrderError call.Reply}
    (hrun : action.run.run state = (outcome, after)) :
    Shows action (noted call action) state [⟨call, outcome⟩] outcome after where
  plain_run := hrun
  watched_run seen := by
    change ((action.run.run state).1, (action.run.run state).2,
      seen ++ [⟨call, (action.run.run state).1⟩]) = _
    rw [hrun]

theorem bind_ok
    {next : α → Action σ β} {watchedNext : α → Action (σ × List Exchange) β}
    {a : α} {outcome : Except OrderError β}
    (hfirst : Shows plain watched state earlier (.ok a) middle)
    (hrest : Shows (next a) (watchedNext a) middle later outcome after) :
    Shows (plain >>= next) (watched >>= watchedNext) state
      (earlier ++ later) outcome after where
  plain_run := by
    rw [ExceptT.run_bind, StateT.run_bind, hfirst.plain_run]
    exact hrest.plain_run
  watched_run seen := by
    rw [ExceptT.run_bind, StateT.run_bind, hfirst.watched_run,
      ← List.append_assoc]
    exact hrest.watched_run (seen ++ earlier)

theorem bind_error
    {next : α → Action σ β} {watchedNext : α → Action (σ × List Exchange) β}
    {error : OrderError}
    (hfirst : Shows plain watched state earlier (.error error) middle) :
    Shows (plain >>= next) (watched >>= watchedNext) state earlier
      (.error error) middle where
  plain_run := by
    rw [ExceptT.run_bind, StateT.run_bind, hfirst.plain_run]
    rfl
  watched_run seen := by
    rw [ExceptT.run_bind, StateT.run_bind, hfirst.watched_run]
    rfl

theorem outcomeFrom_eq
    {outcome : Except OrderError α} {exchanges : List Exchange}
    (hshows : Shows plain watched state exchanges outcome after) :
    outcomeFrom state plain = outcome := by
  rw [outcomeFrom, hshows.plain_run]

theorem exchangesFrom_eq
    {collaborators : Collaborators σ}
    {task : Collaborators (σ × List Exchange) → Action (σ × List Exchange) α}
    {outcome : Except OrderError α} {exchanges : List Exchange}
    (hshows :
      Shows plain (task collaborators.watched) state exchanges outcome after) :
    collaborators.exchangesFrom state task = exchanges := by
  rw [Collaborators.exchangesFrom, hshows.watched_run, List.nil_append]

end Shows

end FamilyOrders
