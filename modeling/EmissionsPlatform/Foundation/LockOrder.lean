import EmissionsPlatform.Foundation.Transition
import Mathlib.Data.List.Basic
import Mathlib.Data.List.Find
import Mathlib.Order.Defs.PartialOrder

/-! Two parties that take locks one by one and keep them. Each has a fixed
sequence of requests; a request for a lock the other party holds waits, and one
for a lock the party itself holds passes.

`deadlock_iff` says which pairs of sequences can deadlock: those whose first
shared lock is another one from each side. Sequences sorted by one order never
do, and a sequence may be taken apart where its halves share nothing. -/
namespace EmissionsPlatform.LockOrder
open Transition
set_option autoImplicit false

inductive Side
  | left
  | right
  deriving DecidableEq

def Side.other : Side → Side
  | .left => .right
  | .right => .left

theorem Side.eq_or_eq_other (side side' : Side) : side = side' ∨ side = side'.other := by
  cases side <;> cases side' <;> simp [other]

@[simp] theorem Side.other_other (side : Side) : side.other.other = side := by cases side <;> rfl

instance {property : Side → Prop} [decidable : DecidablePred property] : Decidable (∀ side, property side) :=
  decidable_of_iff (property .left ∧ property .right)
    ⟨fun ⟨left, right⟩ side => match side with | .left => left | .right => right,
      fun every => ⟨every .left, every .right⟩⟩

/-- A value for each side. -/
structure Sided (α : Type*) where
  left : α
  right : α
  deriving DecidableEq

namespace Sided

variable {α β : Type*} {pair : Sided α} {side : Side} {value other : α}

def get (pair : Sided α) : Side → α
  | .left => pair.left
  | .right => pair.right

def set (pair : Sided α) (side : Side) (value : α) : Sided α :=
  match side with
  | .left => { pair with left := value }
  | .right => { pair with right := value }

def map (f : α → β) (pair : Sided α) : Sided β := ⟨f pair.left, f pair.right⟩

@[simp] theorem get_set_same : (pair.set side value).get side = value := by cases side <;> rfl

@[simp] theorem get_set_other : (pair.set side value).get side.other = pair.get side.other := by cases side <;> rfl

@[simp] theorem get_other_set : (pair.set side.other value).get side = pair.get side := by cases side <;> rfl

@[simp] theorem get_map (f : α → β) : (pair.map f).get side = f (pair.get side) := by cases side <;> rfl

@[simp] theorem set_set : (pair.set side other).set side value = pair.set side value := by cases side <;> rfl

@[simp] theorem set_get : pair.set side (pair.get side) = pair := by cases side <;> rfl

end Sided

/-- The locks a party holds and those it is still to ask for, in order. -/
structure Party (Lock : Type*) where
  held : List Lock
  wanted : List Lock
  deriving DecidableEq

variable {Lock : Type*} [DecidableEq Lock]

/-- The next request of one side. -/
def acquire (parties : Sided (Party Lock)) (side : Side) : Option (Sided (Party Lock)) :=
  match (parties.get side).wanted with
  | [] => none
  | lock :: rest =>
    if lock ∈ (parties.get side.other).held then none
    else some (parties.set side ⟨(parties.get side).held ++ [lock], rest⟩)

/-- No lock is taken yet. -/
def started (requests : Sided (List Lock)) : Sided (Party Lock) := requests.map fun wanted => ⟨[], wanted⟩

def Waits (parties : Sided (Party Lock)) (side : Side) : Prop :=
  ∃ lock ∈ (parties.get side).wanted.head?, lock ∈ (parties.get side.other).held

def Deadlocked (parties : Sided (Party Lock)) : Prop := ∀ side, Waits parties side

/-- The first of the locks that the other sequence asks for too. -/
def firstShared (locks other : List Lock) : Option Lock := locks.find? fun lock => lock ∈ other

/-- Whichever side comes first, the two first collide at one lock. -/
def SameFirst (requests : Sided (List Lock)) : Prop :=
  firstShared requests.left requests.right = firstShared requests.right requests.left

instance (requests : Sided (List Lock)) : Decidable (SameFirst requests) :=
  inferInstanceAs (Decidable (_ = _))

variable {parties next : Sided (Party Lock)} {side : Side} {requests : Sided (List Lock)} {sides : List Side}
variable {locks other first rest : List Lock} {lock : Lock}

theorem SameFirst.get (same : SameFirst requests) (side : Side) :
    firstShared (requests.get side) (requests.get side.other) =
      firstShared (requests.get side.other) (requests.get side) := by
  cases side
  · exact same
  · exact same.symm

/-! ## First shared locks -/

theorem firstShared_eq_none : firstShared locks other = none ↔ ∀ lock ∈ locks, lock ∉ other := by
  simp [firstShared]

theorem firstShared_mem (found : firstShared locks other = some lock) : lock ∈ locks ∧ lock ∈ other :=
  ⟨List.mem_of_find?_eq_some found, by simpa using List.find?_some found⟩

theorem firstShared_split (found : firstShared locks other = some lock) :
    ∃ before after, locks = before ++ lock :: after ∧ ∀ earlier ∈ before, earlier ∉ other := by
  obtain ⟨_, before, after, split, earlier⟩ := List.find?_eq_some_iff_append.mp found
  exact ⟨before, after, split, fun lock member => by simpa using earlier lock member⟩

theorem firstShared_eq_none_comm : firstShared locks other = none ↔ firstShared other locks = none := by
  rw [firstShared_eq_none, firstShared_eq_none]
  exact ⟨fun apart lock member known => apart lock known member, fun apart lock member known => apart lock known member⟩

theorem firstShared_congr {other' : List Lock} (same : ∀ lock ∈ locks, (lock ∈ other ↔ lock ∈ other')) :
    firstShared locks other = firstShared locks other' :=
  List.find?_congr fun lock member => decide_eq_decide.mpr (same lock member)

theorem firstShared_map {α : Type*} [DecidableEq α] {f : α → Lock} (injective : Function.Injective f)
    {locks other : List α} : firstShared (locks.map f) (other.map f) = (firstShared locks other).map f := by
  rw [firstShared, List.find?_map]
  refine congrArg (Option.map f) (List.find?_congr fun lock _ => ?_)
  simp [injective.eq_iff]

/-- Sequences sorted by one order collide at the least lock they share. -/
theorem firstShared_comm_of_sorted {α : Type*} [PartialOrder α] [DecidableEq α] {locks other : List α}
    (sorted : locks.Pairwise (· ≤ ·)) (sortedOther : other.Pairwise (· ≤ ·)) :
    firstShared locks other = firstShared other locks := by
  have least : ∀ {locks other : List α} {lock : α}, locks.Pairwise (· ≤ ·) →
      firstShared locks other = some lock → ∀ shared ∈ locks, shared ∈ other → lock ≤ shared := by
    intro locks other lock sorted found shared member known
    obtain ⟨before, after, rfl, earlier⟩ := firstShared_split found
    have later := (List.pairwise_append.mp sorted).2.1
    rcases List.mem_append.mp member with old | new
    · exact absurd known (earlier shared old)
    · rcases List.mem_cons.mp new with rfl | new
      · exact le_rfl
      · exact List.rel_of_pairwise_cons later new
  cases found : firstShared locks other with
  | none => exact (firstShared_eq_none_comm.mp found).symm
  | some lock =>
    cases found' : firstShared other locks with
    | none => simp [firstShared_eq_none_comm.mp found'] at found
    | some lock' =>
      obtain ⟨member, known⟩ := firstShared_mem found
      obtain ⟨member', known'⟩ := firstShared_mem found'
      exact congrArg some
        (le_antisymm (least sorted found lock' known' member') (least sortedOther found' lock known member))

/-- The first halves decide when they share nothing with the second ones and
the second ones collide at one lock. -/
theorem firstShared_append_comm_iff {first' rest' : List Lock} (apart : ∀ lock ∈ first, lock ∉ rest')
    (apart' : ∀ lock ∈ first', lock ∉ rest) (together : firstShared rest rest' = firstShared rest' rest) :
    firstShared (first ++ rest) (first' ++ rest') = firstShared (first' ++ rest') (first ++ rest) ↔
      firstShared first first' = firstShared first' first := by
  have append : ∀ {first first' rest rest' : List Lock}, (∀ lock ∈ first, lock ∉ rest') →
      (∀ lock ∈ first', lock ∉ rest) →
        firstShared (first ++ rest) (first' ++ rest') = (firstShared first first').or (firstShared rest rest') := by
    intro first first' rest rest' apart apart'
    rw [firstShared, List.find?_append]
    congr 1
    · exact firstShared_congr fun lock member => by simp [apart lock member]
    · apply firstShared_congr
      intro lock member
      rw [List.mem_append]
      exact or_iff_right fun known => apart' lock known member
  rw [append apart apart', append apart' apart, together]
  cases found : firstShared first first' with
  | none => simp [firstShared_eq_none_comm.mp found]
  | some lock =>
    cases found' : firstShared first' first with
    | none => simp [firstShared_eq_none_comm.mp found'] at found
    | some lock' => rfl

/-! ## Runs -/

omit [DecidableEq Lock]

/-- What a party has taken and what it still wants is what it asked for, and no
lock is held by both. -/
structure Taking (requests : Sided (List Lock)) (parties : Sided (Party Lock)) : Prop where
  sequence : ∀ side, (parties.get side).held ++ (parties.get side).wanted = requests.get side
  exclusive : ∀ side, ∀ lock ∈ (parties.get side).held, lock ∉ (parties.get side.other).held

theorem started_taking (requests : Sided (List Lock)) : Taking requests (started requests) :=
  ⟨fun side => by simp [started], fun side lock member => by simp [started] at member⟩

variable [DecidableEq Lock]

theorem acquire_eq_some :
    acquire parties side = some next ↔ ∃ lock rest, (parties.get side).wanted = lock :: rest ∧
      lock ∉ (parties.get side.other).held ∧ next = parties.set side ⟨(parties.get side).held ++ [lock], rest⟩ := by
  unfold acquire
  split
  · rename_i nothing
    simp [nothing]
  · rename_i lock rest wanted
    rw [Option.ite_none_left_eq_some]
    simp [wanted, eq_comm]

/-- The step lemma. -/
theorem acquire_taking (taking : Taking requests parties) (acquired : acquire parties side = some next) :
    Taking requests next := by
  obtain ⟨lock, rest, wanted, free, rfl⟩ := acquire_eq_some.mp acquired
  refine ⟨fun side' => ?_, fun side' => ?_⟩
  · rcases side'.eq_or_eq_other side with rfl | rfl
    · have sequence := taking.sequence side'
      rw [wanted] at sequence
      simpa using sequence
    · simpa using taking.sequence side.other
  · have apart := taking.exclusive side
    rcases side'.eq_or_eq_other side with rfl | rfl
    · simpa [or_imp, forall_and] using ⟨apart, free⟩
    · intro known held again
      simp only [Sided.get_set_other, Side.other_other, Sided.get_set_same, List.mem_append,
        List.mem_singleton] at held again
      rcases again with old | rfl
      · exact apart known old held
      · exact free held

theorem run_taking (ran : run acquire (started requests) sides = some parties) : Taking requests parties :=
  run_invariant (Taking requests) (fun taking acquired => acquire_taking taking acquired) (started_taking requests) ran

/-- A party that waits finds the other at the lock the other's sequence shares
first. -/
theorem Waits.collides (taking : Taking requests parties) (waits : Waits parties side) :
    ∃ lock ∈ (parties.get side.other).held,
      firstShared (requests.get side.other) (requests.get side) = some lock := by
  obtain ⟨lock, asked, held⟩ := waits
  have shared : lock ∈ requests.get side := by
    rw [← taking.sequence side]
    exact List.mem_append_right _ (List.mem_of_mem_head? asked)
  rw [firstShared, ← taking.sequence side.other, List.find?_append]
  cases found : (parties.get side.other).held.find? fun lock => lock ∈ requests.get side with
  | none => exact absurd shared (by simpa using List.find?_eq_none.mp found lock held)
  | some first => exact ⟨first, List.mem_of_find?_eq_some found, rfl⟩

/-- Sequences that collide at one lock never deadlock: only one party holds it. -/
theorem not_deadlocked (same : SameFirst requests) (taking : Taking requests parties) : ¬Deadlocked parties := by
  intro deadlocked
  obtain ⟨lock, held, first⟩ := (deadlocked .left).collides taking
  obtain ⟨lock', held', first'⟩ := (deadlocked .right).collides taking
  cases Option.some.inj ((first'.symm.trans (SameFirst.get same .left)).trans first)
  exact taking.exclusive .right lock held held'

/-! ## The deadlock -/

/-- A party takes what the other does not hold. -/
theorem acquire_all (wanted : (parties.get side).wanted = first ++ rest)
    (free : ∀ lock ∈ first, lock ∉ (parties.get side.other).held) :
    run acquire parties (List.replicate first.length side) =
      some (parties.set side ⟨(parties.get side).held ++ first, rest⟩) := by
  induction first generalizing parties with
  | nil =>
    have same : (⟨(parties.get side).held ++ [], rest⟩ : Party Lock) = parties.get side := by
      rw [List.append_nil, ← (show _ = rest from wanted)]
    rw [same, Sided.set_get]
    rfl
  | cons lock first ih =>
    refine run_cons.mpr ⟨parties.set side ⟨(parties.get side).held ++ [lock], first ++ rest⟩, ?_, ?_⟩
    · exact acquire_eq_some.mpr ⟨lock, _, wanted, free lock List.mem_cons_self, rfl⟩
    · rw [ih (by simp) fun other member => by simpa using free other (List.mem_cons_of_mem _ member)]
      simp

/-- A party that wants something the other holds goes on until it waits. -/
theorem acquire_until_waiting (wanted : lock ∈ (parties.get side).wanted)
    (held : lock ∈ (parties.get side.other).held) :
    ∃ steps own, run acquire parties (List.replicate steps side) = some (parties.set side own) ∧
      Waits (parties.set side own) side ∧ (parties.get side).held ⊆ own.held := by
  have shared : ∃ blocked, firstShared (parties.get side).wanted (parties.get side.other).held = some blocked := by
    apply Option.isSome_iff_exists.mp
    rw [Option.isSome_iff_ne_none]
    exact fun none => firstShared_eq_none.mp none lock wanted held
  obtain ⟨blocked, found⟩ := shared
  obtain ⟨before, after, split, free⟩ := firstShared_split found
  refine ⟨before.length, _, acquire_all split free, ⟨blocked, by simp, ?_⟩, List.subset_append_left _ _⟩
  simpa using (firstShared_mem found).2

/-- Each party can go as far as the first lock it shares, if the two are
different. -/
theorem both_collide {mine theirs : Lock} (found : firstShared requests.left requests.right = some mine)
    (found' : firstShared requests.right requests.left = some theirs) (distinct : mine ≠ theirs) :
    ∃ sides parties, run acquire (started requests) sides = some parties ∧
      mine ∈ parties.left.held ∧ theirs ∈ parties.left.wanted ∧ theirs ∈ parties.right.held ∧
        mine ∈ parties.right.wanted := by
  obtain ⟨before, after, split, earlier⟩ := firstShared_split found
  obtain ⟨before', after', split', earlier'⟩ := firstShared_split found'
  obtain ⟨shared, sharedRight⟩ := firstShared_mem found
  obtain ⟨shared', sharedLeft⟩ := firstShared_mem found'
  have ahead : theirs ∈ after := by
    rw [split, List.mem_append, List.mem_cons] at sharedLeft
    exact (sharedLeft.resolve_left fun known => earlier theirs known shared').resolve_left distinct.symm
  have ahead' : mine ∈ after' := by
    rw [split', List.mem_append, List.mem_cons] at sharedRight
    exact (sharedRight.resolve_left fun known => earlier' mine known shared).resolve_left distinct
  have wanted : ((started requests).get .left).wanted = (before ++ [mine]) ++ after := by
    rw [List.append_assoc]
    exact split
  have ranLeft := acquire_all wanted fun lock _ => List.not_mem_nil
  have wanted' : (((started requests).set .left ⟨before ++ [mine], after⟩).get .right).wanted =
      (before' ++ [theirs]) ++ after' := by
    rw [List.append_assoc]
    exact split'
  have ranRight := acquire_all wanted' <| by
    intro lock taken held
    rcases List.mem_append.mp taken with known | known
    · apply earlier' lock known
      rw [split]
      rcases List.mem_append.mp held with old | new
      · exact List.mem_append_left _ old
      · rw [List.mem_singleton.mp new]
        simp
    · cases List.mem_singleton.mp known
      rcases List.mem_append.mp held with old | new
      · exact earlier theirs old shared'
      · exact distinct (List.mem_singleton.mp new).symm
  refine ⟨_, _, run_append.mpr ⟨_, ranLeft, ranRight⟩, ?_, ahead, ?_, ahead'⟩
  · exact List.mem_append_right before List.mem_cons_self
  · exact List.mem_append_right before' List.mem_cons_self

/-- Sequences that collide at different locks can deadlock: each party goes as
far as its own, and then on until it waits. -/
theorem exists_deadlock (different : ¬SameFirst requests) :
    ∃ sides parties, run acquire (started requests) sides = some parties ∧ Deadlocked parties := by
  cases found : firstShared requests.left requests.right with
  | none => exact absurd (found.trans (firstShared_eq_none_comm.mp found).symm) different
  | some mine =>
    cases found' : firstShared requests.right requests.left with
    | none => simp [firstShared_eq_none_comm.mp found'] at found
    | some theirs =>
      have distinct : mine ≠ theirs := fun same => different (by rw [SameFirst, found, found', same])
      obtain ⟨sides, parties, ran, held, wanted, held', wanted'⟩ := both_collide found found' distinct
      obtain ⟨steps, own, ranLeft, waits, keeps⟩ :=
        acquire_until_waiting (show theirs ∈ (parties.get .left).wanted from wanted) held'
      obtain ⟨steps', own', ranRight, waits', keeps'⟩ :=
        acquire_until_waiting (show mine ∈ ((parties.set .left own).get .right).wanted from wanted') (keeps held)
      refine ⟨sides ++ (List.replicate steps .left ++ List.replicate steps' .right), _,
        run_append.mpr ⟨parties, ran, run_append.mpr ⟨_, ranLeft, ranRight⟩⟩, ?_⟩
      intro side
      cases side with
      | right => exact waits'
      | left =>
        obtain ⟨blocked, asked, taken⟩ := waits
        exact ⟨blocked, asked, keeps' taken⟩

/-- **Which sequences can deadlock**: those that collide at different locks. -/
theorem deadlock_iff :
    (∃ sides parties, run acquire (started requests) sides = some parties ∧ Deadlocked parties) ↔
      ¬SameFirst requests := by
  refine ⟨?_, exists_deadlock⟩
  rintro ⟨sides, parties, ran, deadlocked⟩ same
  exact not_deadlocked same (run_taking ran) deadlocked

end EmissionsPlatform.LockOrder
