import Mathlib.Data.Option.Basic
import Mathlib.Logic.Basic

/-! Labelled transition systems given by a partial step function. An action
carries every choice its step leaves open, so a run is a list of actions and
"in every run" is a quantifier over lists. `run_invariant` and
`run_invariant_of_steps` are the induction rules for safety, `run_holds_iff` the
one for a property a step can lose for good and `throughout_iff` the one for a
property that can be regained; `stepsMeet_iff` turns a condition on the steps of
a run into one on the states the run passes through. `run_measure_le` bounds
what a run builds up by what its steps cost. -/
namespace EmissionsPlatform.Transition
set_option autoImplicit false

variable {State Action : Type*} {step : State → Action → Option State}
variable {start middle finish : State} {actions first rest : List Action}

/-- Perform the actions in order. A run ends in `none` when one of its actions
is not enabled in the state it meets. -/
def run (step : State → Action → Option State) : State → List Action → Option State
  | state, [] => some state
  | state, action :: rest => (step state action).bind fun next => run step next rest

theorem run_cons {action : Action} :
    run step start (action :: rest) = some finish ↔
      ∃ next, step start action = some next ∧ run step next rest = some finish :=
  Option.bind_eq_some_iff

theorem run_append :
    run step start (first ++ rest) = some finish ↔
      ∃ middle, run step start first = some middle ∧ run step middle rest = some finish := by
  induction first generalizing start with
  | nil => simp [run]
  | cons action first ih =>
    simp only [List.cons_append, run_cons, ih]
    constructor
    · rintro ⟨next, stepped, middle, ran, finished⟩
      exact ⟨middle, ⟨next, stepped, ran⟩, finished⟩
    · rintro ⟨middle, ⟨next, stepped, ran⟩, finished⟩
      exact ⟨next, stepped, middle, ran, finished⟩

theorem run_concat {action : Action} :
    run step start (first ++ [action]) = some finish ↔
      ∃ middle, run step start first = some middle ∧ step middle action = some finish := by
  simp [run_append, run]

/-- What every step preserves, every run preserves. -/
theorem run_invariant (Invariant : State → Prop)
    (preserved : ∀ {before after : State} {action : Action},
      Invariant before → step before action = some after → Invariant after)
    (initial : Invariant start) (ran : run step start actions = some finish) :
    Invariant finish := by
  induction actions generalizing start with
  | nil => cases ran; exact initial
  | cons action rest ih =>
    obtain ⟨next, stepped, ran⟩ := run_cons.mp ran
    exact ih (preserved initial stepped) ran

/-- The same where a run takes steps of some kind only. -/
theorem run_invariant_of_kind (Kind : Action → Prop) (Invariant : State → Prop)
    (preserved : ∀ {before after : State} {action : Action},
      Invariant before → Kind action → step before action = some after → Invariant after)
    (kinds : ∀ action ∈ actions, Kind action) (initial : Invariant start)
    (ran : run step start actions = some finish) : Invariant finish := by
  induction actions generalizing start with
  | nil => cases ran; exact initial
  | cons action rest ih =>
    obtain ⟨next, stepped, ran⟩ := run_cons.mp ran
    exact ih (fun other member => kinds other (List.mem_cons_of_mem _ member))
      (preserved initial (kinds action List.mem_cons_self) stepped) ran

/-- Every step of the run meets `Allowed` in the state it is taken from. -/
def StepsMeet (step : State → Action → Option State) (Allowed : State → Action → Prop) :
    State → List Action → Prop
  | _, [] => True
  | state, action :: rest =>
    Allowed state action ∧ ∀ next, step state action = some next → StepsMeet step Allowed next rest

variable {Allowed : State → Action → Prop}

theorem stepsMeet_cons {action : Action} :
    StepsMeet step Allowed start (action :: rest) ↔
      Allowed start action ∧ ∀ next ∈ step start action, StepsMeet step Allowed next rest :=
  Iff.rfl

instance instDecidableStepsMeet [∀ state action, Decidable (Allowed state action)] :
    ∀ start actions, Decidable (StepsMeet step Allowed start actions)
  | _, [] => inferInstanceAs (Decidable True)
  | start, action :: rest =>
    match stepped : step start action with
    | none => decidable_of_iff (Allowed start action) (by simp [stepsMeet_cons, stepped])
    | some next =>
      have := instDecidableStepsMeet next rest
      decidable_of_iff (Allowed start action ∧ StepsMeet step Allowed next rest)
        (by simp [stepsMeet_cons, stepped])

/-- A step condition is a statement about each position of the run: the state
before it and the action taken there. -/
theorem stepsMeet_iff :
    StepsMeet step Allowed start actions ↔
      ∀ before action after middle, actions = before ++ action :: after →
        run step start before = some middle → Allowed middle action := by
  induction actions generalizing start with
  | nil => simp [StepsMeet]
  | cons action rest ih =>
    simp only [StepsMeet, ih]
    constructor
    · rintro ⟨allowed, later⟩ before chosen after middle split ran
      cases before with
      | nil =>
        cases ran
        cases split
        exact allowed
      | cons head before =>
        cases split
        obtain ⟨next, stepped, ran⟩ := run_cons.mp ran
        exact later next stepped before chosen after middle rfl ran
    · intro every
      refine ⟨every [] action rest start rfl rfl, ?_⟩
      intro next stepped before chosen after middle split ran
      exact every (action :: before) chosen after middle (by rw [split]; rfl)
        (run_cons.mpr ⟨next, stepped, ran⟩)

/-- The same, of a run known to finish: at every position there is a step. -/
theorem stepsMeet_of_run (ran : run step start actions = some finish)
    (every : ∀ before action after middle next, actions = before ++ action :: after →
      run step start before = some middle → step middle action = some next →
        run step next after = some finish → Allowed middle action) :
    StepsMeet step Allowed start actions := by
  rw [stepsMeet_iff]
  intro before action after middle split reached
  rw [split, run_append] at ran
  obtain ⟨middle', reached', rest⟩ := ran
  cases reached.symm.trans reached'
  obtain ⟨next, stepped, finished⟩ := run_cons.mp rest
  exact every before action after middle next split reached stepped finished

/-- The induction rule for runs restricted by a step condition: a step need
only preserve the invariant where the condition allows it. -/
theorem run_invariant_of_steps (Invariant : State → Prop)
    (preserved : ∀ {before after : State} {action : Action},
      Invariant before → Allowed before action → step before action = some after →
        Invariant after)
    (initial : Invariant start) (allowed : StepsMeet step Allowed start actions)
    (ran : run step start actions = some finish) : Invariant finish := by
  induction actions generalizing start with
  | nil => cases ran; exact initial
  | cons action rest ih =>
    obtain ⟨next, stepped, ran⟩ := run_cons.mp ran
    exact ih (preserved initial allowed.1 stepped) (allowed.2 next stepped) ran

/-- What no step brings about held before the run if it holds after it. -/
theorem run_reflects (Holds : State → Prop)
    (reflected : ∀ {before after : State} {action : Action},
      step before action = some after → Holds after → Holds before)
    (ran : run step start actions = some finish) (holds : Holds finish) : Holds start := by
  induction actions generalizing start with
  | nil => cases ran; exact holds
  | cons action rest ih =>
    obtain ⟨next, stepped, ran⟩ := run_cons.mp ran
    exact reflected stepped (ih ran)

/-- The induction rule for restricted runs of which the end is known: a property
of the end that no step brings about may be used at every step. -/
theorem run_invariant_of_finish (Invariant Holds : State → Prop)
    (reflected : ∀ {before after : State} {action : Action},
      step before action = some after → Holds after → Holds before)
    (preserved : ∀ {before after : State} {action : Action},
      Invariant before → Allowed before action → step before action = some after → Holds after →
        Invariant after)
    (initial : Invariant start) (allowed : StepsMeet step Allowed start actions)
    (ran : run step start actions = some finish) (holds : Holds finish) : Invariant finish := by
  induction actions generalizing start with
  | nil => cases ran; exact initial
  | cons action rest ih =>
    obtain ⟨next, stepped, ran⟩ := run_cons.mp ran
    have later : Holds next := run_reflects Holds reflected ran holds
    exact ih (preserved initial allowed.1 stepped later) (allowed.2 next stepped) ran

/-- The rule for a property that a step keeps exactly when the condition allows
it, and that nothing brings back: it holds after a run that kept it at every
step, and after no other. Only steps of some kind need be considered, where a
run takes no other. -/
theorem run_holds_iff_of_kind (Kind : Action → Prop) (Invariant Holds : State → Prop)
    (preserved : ∀ {before after : State} {action : Action},
      Invariant before → Kind action → step before action = some after → Invariant after)
    (step_iff : ∀ {before after : State} {action : Action}, Invariant before → Kind action →
      step before action = some after → (Holds after ↔ Holds before ∧ Allowed before action))
    (kinds : ∀ action ∈ actions, Kind action) (initial : Invariant start)
    (ran : run step start actions = some finish) :
    Holds finish ↔ Holds start ∧ StepsMeet step Allowed start actions := by
  induction actions generalizing start with
  | nil =>
    cases ran
    exact (and_iff_left trivial).symm
  | cons action rest ih =>
    obtain ⟨next, stepped, ran⟩ := run_cons.mp ran
    have kind := kinds action List.mem_cons_self
    have rest_meets : (∀ other ∈ step start action, StepsMeet step Allowed other rest) ↔
        StepsMeet step Allowed next rest := by simp [stepped]
    rw [ih (fun other member => kinds other (List.mem_cons_of_mem _ member)) (preserved initial kind stepped) ran,
      step_iff initial kind stepped, stepsMeet_cons, rest_meets, and_assoc]

/-- The same, of any steps. -/
theorem run_holds_iff (Invariant Holds : State → Prop)
    (preserved : ∀ {before after : State} {action : Action},
      Invariant before → step before action = some after → Invariant after)
    (step_iff : ∀ {before after : State} {action : Action},
      Invariant before → step before action = some after → (Holds after ↔ Holds before ∧ Allowed before action))
    (initial : Invariant start) (ran : run step start actions = some finish) :
    Holds finish ↔ Holds start ∧ StepsMeet step Allowed start actions :=
  run_holds_iff_of_kind (fun _ => True) Invariant Holds (fun holds _ stepped => preserved holds stepped)
    (fun holds _ stepped => step_iff holds stepped) (fun _ _ => trivial) initial ran

/-- The property holds in every state the run passes through. -/
def Throughout (step : State → Action → Option State) (Holds : State → Prop) (start : State)
    (actions : List Action) : Prop :=
  ∀ taken, taken <+: actions → ∀ state, run step start taken = some state → Holds state

theorem throughout_cons {Holds : State → Prop} {action : Action} :
    Throughout step Holds start (action :: rest) ↔
      Holds start ∧ ∀ next ∈ step start action, Throughout step Holds next rest := by
  constructor
  · intro always
    refine ⟨always [] List.nil_prefix start rfl, fun next stepped taken isPrefix state ran => ?_⟩
    exact always (action :: taken) (List.cons_prefix_cons.mpr ⟨rfl, isPrefix⟩) state
      (run_cons.mpr ⟨next, stepped, ran⟩)
  · rintro ⟨first, later⟩ taken isPrefix state ran
    cases taken with
    | nil =>
      cases ran
      exact first
    | cons head taken =>
      obtain ⟨rfl, within⟩ := List.cons_prefix_cons.mp isPrefix
      obtain ⟨next, stepped, ran⟩ := run_cons.mp ran
      exact later next stepped taken within state ran

/-- The rule for a property that can be lost and regained: it holds throughout
a run exactly when no step loses it. -/
theorem throughout_iff {Holds : State → Prop}
    (step_iff : ∀ {before after : State} {action : Action}, Holds before →
      step before action = some after → (Holds after ↔ Allowed before action))
    (initial : Holds start) (ran : run step start actions = some finish) :
    Throughout step Holds start actions ↔ StepsMeet step Allowed start actions := by
  induction actions generalizing start with
  | nil =>
    refine ⟨fun _ => trivial, fun _ taken isPrefix state reached => ?_⟩
    obtain rfl := List.prefix_nil.mp isPrefix
    cases reached
    exact initial
  | cons action rest ih =>
    obtain ⟨next, stepped, ran⟩ := run_cons.mp ran
    simp only [throughout_cons, stepsMeet_cons, stepped, Option.mem_some_iff, forall_eq', initial, true_and]
    rw [← step_iff initial stepped]
    constructor
    · intro later
      have held : Holds next := later [] List.nil_prefix next rfl
      exact ⟨held, (ih held ran).mp later⟩
    · rintro ⟨held, allowed⟩
      exact (ih held ran).mpr allowed

/-- A prefix of a restricted run is restricted. -/
theorem StepsMeet.of_append (allowed : StepsMeet step Allowed start (first ++ rest)) :
    StepsMeet step Allowed start first := by
  rw [stepsMeet_iff] at allowed ⊢
  intro before action after middle split ran
  exact allowed before action (after ++ rest) middle (by rw [split]; simp) ran

/-- Two conditions on the steps are one. -/
theorem StepsMeet.and {Other : State → Action → Prop} (allowed : StepsMeet step Allowed start actions)
    (other : StepsMeet step Other start actions) :
    StepsMeet step (fun state action => Allowed state action ∧ Other state action) start actions := by
  induction actions generalizing start with
  | nil => trivial
  | cons action rest ih =>
    refine ⟨⟨allowed.1, other.1⟩, fun next stepped => ?_⟩
    exact ih (allowed.2 next stepped) (other.2 next stepped)

/-! ## Counting along a run -/

/-- The sum of what each step costs in the state it is taken from. -/
def runCost (step : State → Action → Option State) (cost : State → Action → Nat) :
    State → List Action → Nat
  | _, [] => 0
  | state, action :: rest =>
    cost state action + (step state action).elim 0 fun next => runCost step cost next rest

theorem runCost_add (cost other : State → Action → Nat) :
    runCost step (fun state action => cost state action + other state action) start actions =
      runCost step cost start actions + runCost step other start actions := by
  induction actions generalizing start with
  | nil => rfl
  | cons action rest ih =>
    cases stepped : step start action with
    | none => simp [runCost, stepped]
    | some next =>
      simp only [runCost, stepped, Option.elim_some, ih]
      omega

/-- What grows at each step by no more than the step costs grows over a run by
no more than the run costs. -/
theorem run_measure_le (measure : State → Nat) (cost : State → Action → Nat)
    (paid : ∀ before after action,
      step before action = some after → measure after ≤ measure before + cost before action)
    (ran : run step start actions = some finish) :
    measure finish ≤ measure start + runCost step cost start actions := by
  induction actions generalizing start with
  | nil =>
    cases ran
    exact Nat.le_add_right _ _
  | cons action rest ih =>
    obtain ⟨next, stepped, ran⟩ := run_cons.mp ran
    have first := paid _ _ _ stepped
    have later := ih ran
    simp only [runCost, stepped, Option.elim_some]
    omega

/-! ## Systems of parties

Several machines keep their parties in a list and move one of them by a step. -/

/-- Moving one party leaves every other in place. -/
theorem mem_set_of_mem {Party : Type*} {parties : List Party} {index : Nat} {party other : Party}
    (next : Party) (held : parties[index]? = some party) (member : other ∈ parties) :
    other = party ∨ other ∈ parties.set index next := by
  obtain ⟨position, found⟩ := List.mem_iff_getElem?.mp member
  by_cases same : index = position
  · subst same
    exact Or.inl (Option.some.inj (found.symm.trans held))
  · exact Or.inr (List.mem_iff_getElem?.mpr ⟨position, by rwa [List.getElem?_set_ne same]⟩)

/-- The party moved is there. -/
theorem mem_set_self {Party : Type*} {parties : List Party} {index : Nat} {party : Party}
    (next : Party) (held : parties[index]? = some party) : next ∈ parties.set index next :=
  List.mem_set (List.getElem?_eq_some_iff.mp held).1 next

/-- Moving one party changes a count by that party alone. -/
theorem countP_set_add {Party : Type*} {parties : List Party} {index : Nat} {party : Party}
    (counted : Party → Bool) (next : Party) (held : parties[index]? = some party) :
    (parties.set index next).countP counted + (counted party).toNat =
      parties.countP counted + (counted next).toNat := by
  induction parties generalizing index with
  | nil => cases held
  | cons head tail ih =>
    cases index with
    | zero =>
      cases held
      cases now : counted next <;> cases old : counted party <;> simp [now, old]
    | succ index =>
      have tailCount := ih (by simpa using held)
      simp only [List.set_cons_succ, List.countP_cons]
      omega

end EmissionsPlatform.Transition
