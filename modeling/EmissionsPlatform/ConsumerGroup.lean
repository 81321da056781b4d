import EmissionsPlatform.Foundation.InsertionMap
import EmissionsPlatform.Foundation.Transition

/-! The consumer group on the ingest topic: partition logs that grow, consumer
processes that start, crash and are assigned partitions, and the loop of
`eachBatch` that hands one message after another to `processMessage`.

`at_least_once_iff` is about restarts. No offset is ever committed, so every
process that takes a partition over begins at the end of its log, and what was
produced meanwhile is passed over. -/
namespace EmissionsPlatform.ConsumerGroup
open Transition
set_option autoImplicit false

/-- What `subscribe` is told. -/
structure Options where
  fromBeginning : Bool

/-- The options of `start`. -/
def options : Options where
  fromBeginning := false

/-- A consumer's hold on a partition: `position` is the offset it reads next. -/
structure Session where
  consumer : Nat
  partition : Nat
  position : Nat
  deriving DecidableEq

structure Group (Message : Type) where
  /-- The log of each partition of the ingest topic. -/
  topic : List (List Message)
  /-- The offsets the broker stores for the group, by partition. -/
  committed : InsertionMap Nat Nat
  /-- The number of processes ever started; the next one takes it as its name. -/
  started : Nat
  running : List Nat
  sessions : List Session
  /-- The ends of the logs when the group first positioned itself. -/
  joinedAt : Option (List Nat)
  /-- The calls of `processMessage`, by partition and offset. -/
  processed : List (Nat × Nat)
  deriving DecidableEq

/-- How a call of `processMessage` ends. A process that dies within the call,
or before `resolveOffset`, is one that threw and then crashed. -/
inductive Outcome
  | returned
  | threw
  deriving DecidableEq

inductive Action (Message : Type)
  | produce (partition : Nat) (message : Message)
  /-- A process starts and subscribes. -/
  | start
  | crash (consumer : Nat)
  /-- The group assigns a partition to a process, which positions itself on it. -/
  | position (consumer partition : Nat)
  /-- The group takes a partition away again. -/
  | revoke (consumer partition : Nat)
  /-- One turn of the loop over `batch.messages`. -/
  | consume (session : Nat) (outcome : Outcome)
  deriving DecidableEq

variable {Message : Type}

def Group.log (group : Group Message) (partition : Nat) : List Message := group.topic.getD partition []

/-- Where a consumer begins: at the committed offset, or else where
`fromBeginning` says. -/
def startPosition (options : Options) (group : Group Message) (partition : Nat) : Nat :=
  (group.committed.get? partition).getD
    (if options.fromBeginning then 0 else (group.log partition).length)

/-- `commitOffsetsIfNecessary()`, given no offsets: with `autoCommit: false` it
stores none, whatever has been resolved. -/
def commitOffsetsIfNecessary (committed : InsertionMap Nat Nat) : InsertionMap Nat Nat := committed

/-- The loop body of `eachBatch` on the message at the session's position. A
message that throws keeps its place and is fetched again. -/
def eachMessage (group : Group Message) (index : Nat) (session : Session) :
    Outcome → Group Message
  | .threw => { group with processed := group.processed ++ [(session.partition, session.position)] }
  | .returned =>
    let resolved := session.position + 1
    { group with
      processed := group.processed ++ [(session.partition, session.position)]
      sessions := group.sessions.set index { session with position := resolved }
      committed := commitOffsetsIfNecessary group.committed }

def step (group : Group Message) : Action Message → Option (Group Message)
  | .produce partition message =>
    match group.topic[partition]? with
    | none => none
    | some log => some { group with topic := group.topic.set partition (log ++ [message]) }
  | .start =>
    some { group with started := group.started + 1, running := group.running ++ [group.started] }
  | .crash consumer =>
    some { group with
      running := group.running.filter (· ≠ consumer)
      sessions := group.sessions.filter (·.consumer ≠ consumer) }
  | .position consumer partition =>
    if consumer ∈ group.running ∧ partition < group.topic.length then
      some { group with
        sessions := group.sessions ++ [⟨consumer, partition, startPosition options group partition⟩]
        joinedAt := group.joinedAt.or (some (group.topic.map List.length)) }
    else none
  | .revoke consumer partition =>
    some { group with
      sessions := group.sessions.filter fun session =>
        ¬(session.consumer = consumer ∧ session.partition = partition) }
  | .consume index outcome =>
    match group.sessions[index]? with
    | none => none
    | some session =>
      if session.position < (group.log session.partition).length then
        some (eachMessage group index session outcome)
      else none

/-- A topic with its messages of earlier days, and a group nobody has joined. -/
def initial (topic : List (List Message)) : Group Message :=
  ⟨topic, InsertionMap.empty, 0, [], [], none, []⟩

/-- Every message appended since the group first positioned itself and lying
behind the position of a running consumer was passed to `processMessage`. -/
def AtLeastOnce (group : Group Message) : Prop :=
  ∀ ends ∈ group.joinedAt, ∀ session ∈ group.sessions, ∀ offset < session.position,
    ends.getD session.partition 0 ≤ offset → (session.partition, offset) ∈ group.processed

/-- Nothing is waiting in the partition: whatever was appended since the group
first positioned itself has been passed to `processMessage`. -/
def NothingWaiting (group : Group Message) (partition : Nat) : Prop :=
  ∀ ends ∈ group.joinedAt, ∀ offset < (group.log partition).length,
    ends.getD partition 0 ≤ offset → (partition, offset) ∈ group.processed

instance (group : Group Message) (partition : Nat) : Decidable (NothingWaiting group partition) :=
  inferInstanceAs (Decidable (∀ ends ∈ _, ∀ offset < _, _))

/-- Partitions are taken over only when nothing is waiting in them. -/
def TakesOverDrained (group : Group Message) : Action Message → Prop
  | .position _ partition => NothingWaiting group partition
  | _ => True

instance (group : Group Message) : ∀ action, Decidable (TakesOverDrained group action)
  | .position _ _ => inferInstanceAs (Decidable (NothingWaiting _ _))
  | .produce _ _ | .start | .crash _ | .revoke _ _ | .consume _ _ => inferInstanceAs (Decidable True)

/-! ## What a step does -/

variable {group after : Group Message} {action : Action Message} {actions : List (Action Message)}
variable {consumer partition index : Nat} {outcome : Outcome}

theorem step_position :
    step group (.position consumer partition) = some after ↔
      (consumer ∈ group.running ∧ partition < group.topic.length) ∧
        after = { group with
          sessions := group.sessions ++ [⟨consumer, partition, startPosition options group partition⟩]
          joinedAt := group.joinedAt.or (some (group.topic.map List.length)) } := by
  simp only [step, Option.ite_none_right_eq_some, Option.some.injEq]
  exact and_congr_right fun _ => eq_comm

theorem step_consume :
    step group (.consume index outcome) = some after ↔
      ∃ session, group.sessions[index]? = some session ∧
        session.position < (group.log session.partition).length ∧
          after = eachMessage group index session outcome := by
  simp only [step]
  split
  · rename_i missing
    simp [missing]
  · rename_i session held
    simp only [Option.ite_none_right_eq_some, Option.some.injEq, held]
    constructor
    · rintro ⟨waiting, rfl⟩
      exact ⟨session, rfl, waiting, rfl⟩
    · rintro ⟨_, rfl, waiting, rfl⟩
      exact ⟨waiting, rfl⟩

theorem step_produce {message : Message} :
    step group (.produce partition message) = some after ↔
      ∃ log, group.topic[partition]? = some log ∧
        after = { group with topic := group.topic.set partition (log ++ [message]) } := by
  simp only [step]
  split
  · rename_i missing
    simp [missing]
  · rename_i log held
    simp [held, eq_comm]

/-- No offset is stored, whatever happens. -/
theorem step_committed (stepped : step group action = some after) :
    after.committed = group.committed := by
  cases action with
  | produce partition message =>
    obtain ⟨log, -, rfl⟩ := step_produce.mp stepped
    rfl
  | start => cases stepped; rfl
  | crash consumer => cases stepped; rfl
  | position consumer partition =>
    obtain ⟨-, rfl⟩ := step_position.mp stepped
    rfl
  | revoke consumer partition => cases stepped; rfl
  | consume index outcome =>
    obtain ⟨session, -, -, rfl⟩ := step_consume.mp stepped
    cases outcome <;> rfl

/-- Before the group first positions itself nobody has a position. -/
theorem step_unjoined (unjoined : group.joinedAt = none → group.sessions = [])
    (stepped : step group action = some after) : after.joinedAt = none → after.sessions = [] := by
  cases action with
  | produce partition message =>
    obtain ⟨log, -, rfl⟩ := step_produce.mp stepped
    exact unjoined
  | start => cases stepped; exact unjoined
  | crash consumer =>
    cases stepped
    intro none
    simp [unjoined none]
  | position consumer partition =>
    obtain ⟨-, rfl⟩ := step_position.mp stepped
    intro none
    simp at none
  | revoke consumer partition =>
    cases stepped
    intro none
    simp [unjoined none]
  | consume index outcome =>
    obtain ⟨session, held, -, rfl⟩ := step_consume.mp stepped
    intro none
    have joinedAt : group.joinedAt = Option.none := by cases outcome <;> exact none
    rw [unjoined joinedAt] at held
    cases held

/-- What holds in every run: no offset is stored, and positions are held only
after the group first positioned itself. -/
structure Sound (group : Group Message) : Prop where
  uncommitted : group.committed = InsertionMap.empty
  unjoined : group.joinedAt = none → group.sessions = []

theorem step_sound (sound : Sound group) (stepped : step group action = some after) : Sound after :=
  ⟨(step_committed stepped).trans sound.uncommitted, step_unjoined sound.unjoined stepped⟩

theorem initial_sound (topic : List (List Message)) : Sound (initial topic) := ⟨rfl, fun _ => rfl⟩

/-- With no offset stored, a consumer begins at the end of the log. -/
theorem startPosition_eq (sound : Sound group) (partition : Nat) :
    startPosition options group partition = (group.log partition).length := by
  simp [startPosition, sound.uncommitted, options]

theorem getD_ends (group : Group Message) (partition : Nat) :
    (group.topic.map List.length).getD partition 0 = (group.log partition).length := by
  simp only [List.getD_eq_getElem?_getD, List.getElem?_map, Group.log]
  cases group.topic[partition]? <;> rfl

/-! ## At least once -/

/-- Dropping positions and starting processes forgets no call. -/
theorem AtLeastOnce.of_sublist (atLeastOnce : AtLeastOnce group) (joinedAt : after.joinedAt = group.joinedAt)
    (processed : after.processed = group.processed) (sessions : after.sessions ⊆ group.sessions) :
    AtLeastOnce after := by
  intro ends joined session member offset behind appended
  rw [processed]
  exact atLeastOnce ends (joinedAt ▸ joined) session (sessions member) offset behind appended

/-- The loop resolves an offset only after its message was passed on. -/
theorem AtLeastOnce.eachMessage (atLeastOnce : AtLeastOnce group) {session : Session}
    (held : group.sessions[index]? = some session) :
    AtLeastOnce (eachMessage group index session outcome) := by
  have kept : ∀ ends ∈ group.joinedAt, ∀ other ∈ group.sessions, ∀ offset < other.position,
      ends.getD other.partition 0 ≤ offset →
        (other.partition, offset) ∈ group.processed ++ [(session.partition, session.position)] :=
    fun ends joined other member offset behind appended =>
      List.mem_append_left _ (atLeastOnce ends joined other member offset behind appended)
  cases outcome with
  | threw => exact kept
  | returned =>
    intro ends joined other member offset behind appended
    rcases List.mem_or_eq_of_mem_set member with old | rfl
    · exact kept ends joined other old offset behind appended
    · -- The position moved by one, over the message just passed on.
      rcases Nat.lt_succ_iff_lt_or_eq.mp behind with before | rfl
      · exact kept ends joined session (List.mem_of_getElem? held) offset before appended
      · exact List.mem_append_right _ (List.mem_singleton_self _)

/-- Taking a partition over at the end of its log passes over nothing exactly
when nothing is waiting in it. -/
theorem position_atLeastOnce_iff (sound : Sound group) (atLeastOnce : AtLeastOnce group)
    (stepped : step group (.position consumer partition) = some after) :
    AtLeastOnce after ↔ NothingWaiting group partition := by
  obtain ⟨-, rfl⟩ := step_position.mp stepped
  rw [startPosition_eq sound]
  cases joinedAt : group.joinedAt with
  | none =>
    refine iff_of_true ?_ (by simp [NothingWaiting, joinedAt])
    intro ends joined session member offset behind appended
    cases joined
    rw [sound.unjoined joinedAt, List.nil_append, List.mem_singleton] at member
    subst member
    rw [getD_ends] at appended
    exact absurd behind (Nat.not_lt.mpr appended)
  | some first =>
    have joined : ∀ ends, ends ∈ (some first).or (some (group.topic.map List.length)) ↔
        ends ∈ group.joinedAt := by simp [joinedAt]
    constructor
    · intro holds ends member offset behind appended
      exact holds ends ((joined ends).mpr member) _ (List.mem_append_right _ (List.mem_singleton_self _))
        offset behind appended
    · intro nothing ends member session held offset behind appended
      rcases List.mem_append.mp held with old | new
      · exact atLeastOnce ends ((joined ends).mp member) session old offset behind appended
      · cases List.mem_singleton.mp new
        exact nothing ends ((joined ends).mp member) offset behind appended

theorem step_atLeastOnce (sound : Sound group) (atLeastOnce : AtLeastOnce group)
    (allowed : TakesOverDrained group action) (stepped : step group action = some after) :
    AtLeastOnce after := by
  cases action with
  | produce partition message =>
    obtain ⟨log, -, rfl⟩ := step_produce.mp stepped
    exact atLeastOnce.of_sublist rfl rfl (List.Subset.refl _)
  | start => cases stepped; exact atLeastOnce.of_sublist rfl rfl (List.Subset.refl _)
  | crash consumer => cases stepped; exact atLeastOnce.of_sublist rfl rfl (List.filter_subset_self _)
  | position consumer partition => exact (position_atLeastOnce_iff sound atLeastOnce stepped).mpr allowed
  | revoke consumer partition =>
    cases stepped
    exact atLeastOnce.of_sublist rfl rfl (List.filter_subset_self _)
  | consume index outcome =>
    obtain ⟨session, held, -, rfl⟩ := step_consume.mp stepped
    exact atLeastOnce.eachMessage held

theorem initial_atLeastOnce (topic : List (List Message)) : AtLeastOnce (initial topic) := by
  intro ends joined
  cases joined

/-- **At-least-once across restarts.** Every message appended since the group
first positioned itself is passed to `processMessage` before a running
consumer's position moves past it, in every state of a run, exactly when the
run never positions a consumer on a partition where such a message waits. -/
theorem at_least_once_iff (topic : List (List Message)) (actions : List (Action Message))
    (finish : Group Message) (ran : run step (initial topic) actions = some finish) :
    (∀ before later group, actions = before ++ later →
        run step (initial topic) before = some group → AtLeastOnce group) ↔
      StepsMeet step TakesOverDrained (initial topic) actions := by
  constructor
  · intro holds
    apply stepsMeet_of_run ran
    intro before action later middle next split reached stepped _
    cases action with
    | position consumer partition =>
      have sound : Sound middle := run_invariant Sound step_sound (initial_sound topic) reached
      have beforehand := holds before (.position consumer partition :: later) middle split reached
      have afterwards := holds (before ++ [.position consumer partition]) later next
        (by rw [split, List.append_assoc]; rfl) (run_concat.mpr ⟨middle, reached, stepped⟩)
      exact (position_atLeastOnce_iff sound beforehand stepped).mp afterwards
    | produce | start | crash | revoke | consume => trivial
  · intro allowed before later group split reached
    subst split
    exact (run_invariant_of_steps (fun group => Sound group ∧ AtLeastOnce group)
      (fun holds allowed stepped =>
        ⟨step_sound holds.1 stepped, step_atLeastOnce holds.1 holds.2 allowed stepped⟩)
      ⟨initial_sound topic, initial_atLeastOnce topic⟩ allowed.of_append reached).2

/-- A consumer that reads what was produced before it is replaced. -/
def drained : List (Action String) :=
  [.start, .position 0 0, .produce 0 "batch", .consume 0 .threw, .consume 0 .returned, .crash 0,
    .start, .position 1 0]

private theorem drained_ran : (run step (initial [[]]) drained).isSome := by decide

theorem drained_restart_passes_over_nothing :
    AtLeastOnce ((run step (initial [[]]) drained).get drained_ran) :=
  (at_least_once_iff [[]] drained _ (Option.some_get drained_ran).symm).mpr (by decide)
    drained [] _ (List.append_nil _).symm (Option.some_get drained_ran).symm

/-- The consumer crashes, a batch is produced, and its successor begins behind it. -/
def outage : List (Action String) :=
  [.start, .position 0 0, .crash 0, .produce 0 "batch", .start, .position 1 0]

private theorem outage_ran : (run step (initial [[]]) outage).isSome := by decide

/-- At-least-once does not hold of every run. -/
theorem outage_skips_a_message :
    ¬∀ (topic : List (List String)) actions group, run step (initial topic) actions = some group →
      AtLeastOnce group := by
  intro every
  have processed := every [[]] outage _ (Option.some_get outage_ran).symm [0] (by decide) ⟨1, 0, 1⟩
    (by decide) 0 (by decide) (by decide)
  revert processed
  decide

end EmissionsPlatform.ConsumerGroup
