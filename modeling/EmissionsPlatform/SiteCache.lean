import EmissionsPlatform.IngestEdge
import Mathlib.Data.List.Lattice

/-! The Redis set `sites:valid` as the authority for `POST /ingest`. Two writers
fill it: `SitesService.create`, inside the transaction that inserts the site,
and `BootstrapService.warmSitesCache`, from the table. A creation fails with
its `SADD`; a boot logs the failure and completes. Any number of creations and
boots are under way at once, each moves by one call at a time, any of them can
die, and Redis can lose members of the set at any moment.

`every_site_ingests_iff` says which steps leave a committed site that `/ingest`
turns away after a boot, and `separated_runs_serve_every_site` that there are
none where boots get through and Redis loses nothing while a creation or a boot
is under way. -/
namespace EmissionsPlatform.SiteCache
open IngestEdge (Shared Call assertSiteValid)
open Transition
set_option autoImplicit false

/-- What `POST /sites` answers. -/
inductive Answer
  /-- 201. -/
  | created (slug : String)
  /-- 409: a site with this slug already exists. -/
  | conflict (slug : String)
  /-- 500: a call threw. -/
  | internal
  deriving DecidableEq

/-- Where a creation is: before one of the statements of its transaction,
answered, or gone with its process. -/
inductive CreationStage
  | insert
  | sadd
  | commit
  | rollback
  | answered (answer : Answer)
  | died
  deriving DecidableEq

structure Creation where
  slug : String
  stage : CreationStage
  deriving DecidableEq

/-- Where `warmSitesCache` is: before its query, before the `SADD` of what it
selected, done, or gone with its process. -/
inductive Boot
  | select
  | sadd (slugs : List String)
  | completed
  | died
  deriving DecidableEq

/-- The set and the table, and every creation and boot so far. -/
structure Platform where
  shared : Shared
  creations : List Creation
  boots : List Boot
  /-- A boot has completed since the set last lost a member. -/
  warmed : Bool
  deriving DecidableEq

inductive Action
  | create (slug : String)
  /-- The next call of a creation. -/
  | advance (index : Nat) (call : Call)
  | creationDies (index : Nat)
  | boot
  /-- The next call of a boot. -/
  | warm (index : Nat) (call : Call)
  | bootDies (index : Nat)
  /-- Redis comes back with these members of the set. -/
  | lose (kept : List String)
  deriving DecidableEq

/-- `SADD sites:valid`: the command may have run although the call threw. -/
def sadd (shared : Shared) (call : Call) (slugs : List String) : Shared :=
  if call = .threw false then shared else { shared with sitesValid := slugs ∪ shared.sitesValid }

/-- `COMMIT`: so may this one. -/
def commit (shared : Shared) (call : Call) (slug : String) : Shared :=
  if call = .threw false then shared else { shared with sites := shared.sites ++ [slug] }

/-- The transaction has inserted its row and not ended. -/
def Creation.Holds (creation : Creation) : Prop :=
  creation.stage = .sadd ∨ creation.stage = .commit ∨ creation.stage = .rollback

instance (creation : Creation) : Decidable creation.Holds := inferInstanceAs (Decidable (_ ∨ _))

/-- One call of `create` and the code up to the next one. -/
def proceed (platform : Platform) (creation : Creation) (call : Call) : Option (Shared × CreationStage) :=
  match creation.stage with
  | .insert =>
    if call ≠ .replied then some (platform.shared, .answered .internal)
    else if creation.slug ∈ platform.shared.sites then
      some (platform.shared, .answered (.conflict creation.slug))
    -- The unique index waits for a transaction that inserted the same slug.
    else if ∃ other ∈ platform.creations, other.slug = creation.slug ∧ other.Holds then none
    else some (platform.shared, .sadd)
  | .sadd =>
    some (sadd platform.shared call [creation.slug], if call = .replied then .commit else .rollback)
  | .commit =>
    some (commit platform.shared call creation.slug,
      .answered (if call = .replied then .created creation.slug else .internal))
  | .rollback => some (platform.shared, .answered .internal)
  | .answered _ => none
  | .died => none

/-- One call of `warmSitesCache`. Whatever it throws is caught. -/
def warmSitesCache (shared : Shared) (boot : Boot) (call : Call) : Option (Shared × Boot) :=
  match boot with
  | .select =>
    some (shared, if call = .replied ∧ shared.sites ≠ [] then .sadd shared.sites else .completed)
  | .sadd slugs => some (sadd shared call slugs, .completed)
  | .completed => none
  | .died => none

def step (platform : Platform) : Action → Option Platform
  | .create slug => some { platform with creations := platform.creations ++ [⟨slug, .insert⟩] }
  | .advance index call =>
    (platform.creations[index]?).bind fun creation =>
      (proceed platform creation call).map fun (shared, stage) =>
        { platform with shared, creations := platform.creations.set index { creation with stage } }
  | .creationDies index =>
    (platform.creations[index]?).map fun creation =>
      { platform with creations := platform.creations.set index { creation with stage := .died } }
  | .boot => some { platform with boots := platform.boots ++ [.select] }
  | .warm index call =>
    (platform.boots[index]?).bind fun boot =>
      (warmSitesCache platform.shared boot call).map fun (shared, after) =>
        { platform with shared, boots := platform.boots.set index after,
                        warmed := platform.warmed || decide (after = .completed) }
  | .bootDies index =>
    (platform.boots[index]?).map fun _ => { platform with boots := platform.boots.set index .died }
  | .lose kept =>
    some { platform with
      shared := { platform.shared with sitesValid := platform.shared.sitesValid.filter (· ∈ kept) }
      warmed := platform.warmed && platform.shared.sitesValid.all (· ∈ kept) }

/-- Nothing under way, and no boot yet. -/
def initial (sitesValid sites : List String) : Platform := ⟨⟨sitesValid, [], sites, []⟩, [], [], false⟩

/-- `/ingest` lets every committed site through, whether Redis answers or throws. -/
def AcceptsEverySite (shared : Shared) : Prop :=
  ∀ slug ∈ shared.sites, ∀ sismember, assertSiteValid shared sismember .replied slug = .dedupe

/-- After a boot, every existing site can ingest. -/
def EverySiteIngests (platform : Platform) : Prop :=
  platform.warmed = true → AcceptsEverySite platform.shared

/-- The boot's next call completes it only if each committed slug is in the set
already or put there by that call. -/
def Boot.Covers (shared : Shared) (call : Call) : Boot → Prop
  | .select => call = .replied ∨ shared.sites ⊆ shared.sitesValid
  | .sadd slugs => ∀ slug ∈ shared.sites, slug ∈ shared.sitesValid ∨ (call ≠ .threw false ∧ slug ∈ slugs)
  | .completed => True
  | .died => True

/-- The steps that leave no site out: a boot completes only with every committed
slug in the set, and after a boot a creation commits only while the set holds
its slug. -/
def LeavesNoneOut (platform : Platform) : Action → Prop
  | .warm index call => ∀ boot ∈ platform.boots[index]?, boot.Covers platform.shared call
  | .advance index call =>
    ∀ creation ∈ platform.creations[index]?, platform.warmed = true → creation.stage = .commit →
      call ≠ .threw false → creation.slug ∈ platform.shared.sitesValid
  | _ => True

instance (shared : Shared) (call : Call) : ∀ boot : Boot, Decidable (boot.Covers shared call)
  | .select => inferInstanceAs (Decidable (call = .replied ∨ ∀ slug ∈ shared.sites, slug ∈ shared.sitesValid))
  | .sadd _ => inferInstanceAs (Decidable (∀ slug ∈ _, _ ∨ (_ ∧ _)))
  | .completed => inferInstanceAs (Decidable True)
  | .died => inferInstanceAs (Decidable True)

instance (platform : Platform) : ∀ action, Decidable (LeavesNoneOut platform action)
  | .warm _ _ => inferInstanceAs (Decidable (∀ boot ∈ _, Boot.Covers _ _ boot))
  | .advance _ _ => inferInstanceAs (Decidable (∀ creation ∈ _, _ → _ → _ → _))
  | .create _ => inferInstanceAs (Decidable True)
  | .creationDies _ => inferInstanceAs (Decidable True)
  | .boot => inferInstanceAs (Decidable True)
  | .bootDies _ => inferInstanceAs (Decidable True)
  | .lose _ => inferInstanceAs (Decidable True)

variable {shared : Shared} {call : Call} {slugs sitesValid sites : List String} {slug : String}
variable {platform next finish : Platform} {action : Action} {actions : List Action}

/-- With the database up, acceptance is decided by the set alone: only Redis
answering can turn a site away. -/
theorem accepts_iff : AcceptsEverySite shared ↔ shared.sites ⊆ shared.sitesValid := by
  constructor
  · intro accepts slug committed
    by_contra missing
    have accepted := accepts slug committed .replied
    simp [assertSiteValid, missing] at accepted
  · intro within slug committed sismember
    cases sismember with
    | replied => simp [assertSiteValid, within committed]
    | threw ran => simp [assertSiteValid, committed]

/-! ## What one call does -/

@[simp] theorem sadd_sites : (sadd shared call slugs).sites = shared.sites := by
  unfold sadd
  split <;> rfl

theorem mem_sadd :
    slug ∈ (sadd shared call slugs).sitesValid ↔
      slug ∈ shared.sitesValid ∨ (call ≠ .threw false ∧ slug ∈ slugs) := by
  unfold sadd
  split
  · rename_i failed
    simp [failed]
  · rename_i ran
    simp [ran, List.mem_union_iff, or_comm]

@[simp] theorem commit_sitesValid : (commit shared call slug).sitesValid = shared.sitesValid := by
  unfold commit
  split <;> rfl

theorem commit_within :
    (commit shared call slug).sites ⊆ shared.sitesValid ↔
      shared.sites ⊆ shared.sitesValid ∧ (call ≠ .threw false → slug ∈ shared.sitesValid) := by
  unfold commit
  split
  · rename_i failed
    simp [failed]
  · rename_i ran
    simp [ran, List.append_subset]

/-- What one call of a creation can be: its `SADD`, its commit, or a call that
touches neither the set nor the table. -/
theorem proceed_cases {creation : Creation} {stage : CreationStage}
    (proceeded : proceed platform creation call = some (shared, stage)) :
    (creation.stage = .sadd ∧ shared = sadd platform.shared call [creation.slug] ∧
        stage = if call = .replied then .commit else .rollback) ∨
      (creation.stage = .commit ∧ shared = commit platform.shared call creation.slug ∧ stage ≠ .commit) ∨
      (creation.stage ≠ .commit ∧ shared = platform.shared ∧ stage ≠ .commit) := by
  unfold proceed at proceeded
  cases at_stage : creation.stage with
  | insert =>
    simp only [at_stage] at proceeded
    split_ifs at proceeded <;> cases proceeded <;> exact Or.inr (Or.inr ⟨nofun, rfl, nofun⟩)
  | sadd =>
    simp only [at_stage] at proceeded
    cases proceeded
    exact Or.inl ⟨rfl, rfl, rfl⟩
  | commit =>
    simp only [at_stage] at proceeded
    cases proceeded
    exact Or.inr (Or.inl ⟨rfl, rfl, nofun⟩)
  | rollback =>
    simp only [at_stage] at proceeded
    cases proceeded
    exact Or.inr (Or.inr ⟨nofun, rfl, nofun⟩)
  | answered answer => simp [at_stage] at proceeded
  | died => simp [at_stage] at proceeded

/-- A call of a creation adds to the set, or it is the commit. -/
theorem proceed_shared {creation : Creation} {stage : CreationStage}
    (proceeded : proceed platform creation call = some (shared, stage)) :
    (creation.stage ≠ .commit ∧ shared.sites = platform.shared.sites ∧
        platform.shared.sitesValid ⊆ shared.sitesValid) ∨
      (creation.stage = .commit ∧ shared = commit platform.shared call creation.slug) := by
  rcases proceed_cases proceeded with ⟨adds, rfl, -⟩ | ⟨commits, rfl, -⟩ | ⟨neither, rfl, -⟩
  · exact Or.inl ⟨adds ▸ nofun, sadd_sites, fun _ member => mem_sadd.mpr (Or.inl member)⟩
  · exact Or.inr ⟨commits, rfl⟩
  · exact Or.inl ⟨neither, rfl, List.Subset.refl _⟩

/-- A creation comes to its commit by adding its slug. -/
theorem proceed_to_commit {creation : Creation}
    (proceeded : proceed platform creation call = some (shared, .commit)) : creation.slug ∈ shared.sitesValid := by
  rcases proceed_cases proceeded with ⟨-, rfl, reached⟩ | ⟨-, -, other⟩ | ⟨-, -, other⟩
  · split_ifs at reached with replied
    exact mem_sadd.mpr (Or.inr ⟨replied ▸ nofun, List.mem_singleton_self _⟩)
  · exact absurd rfl other
  · exact absurd rfl other

theorem step_advance {index : Nat} (stepped : step platform (.advance index call) = some next) :
    ∃ creation shared stage, platform.creations[index]? = some creation ∧
      proceed platform creation call = some (shared, stage) ∧
        next = { platform with shared, creations := platform.creations.set index { creation with stage } } := by
  obtain ⟨creation, held, moved⟩ := Option.bind_eq_some_iff.mp stepped
  obtain ⟨⟨shared, stage⟩, proceeded, rfl⟩ := Option.map_eq_some_iff.mp moved
  exact ⟨creation, shared, stage, held, proceeded, rfl⟩

theorem step_warm {index : Nat} (stepped : step platform (.warm index call) = some next) :
    ∃ boot shared after, platform.boots[index]? = some boot ∧
      warmSitesCache platform.shared boot call = some (shared, after) ∧
        next = { platform with shared, boots := platform.boots.set index after,
                               warmed := platform.warmed || decide (after = .completed) } := by
  obtain ⟨boot, held, moved⟩ := Option.bind_eq_some_iff.mp stepped
  obtain ⟨⟨shared, after⟩, warmed, rfl⟩ := Option.map_eq_some_iff.mp moved
  exact ⟨boot, shared, after, held, warmed, rfl⟩

theorem accepts_of_grows {after : Shared} (accepts : AcceptsEverySite shared) (sites : after.sites = shared.sites)
    (grows : shared.sitesValid ⊆ after.sitesValid) : AcceptsEverySite after := by
  rw [accepts_iff] at accepts ⊢
  rw [sites]
  exact List.Subset.trans accepts grows

/-- A call of a creation leaves a site out only by committing it. -/
theorem advance_keeps_iff {creation : Creation} {stage : CreationStage} (holds : EverySiteIngests platform)
    (proceeded : proceed platform creation call = some (shared, stage)) :
    (platform.warmed = true → AcceptsEverySite shared) ↔
      (platform.warmed = true → creation.stage = .commit → call ≠ .threw false →
        creation.slug ∈ platform.shared.sitesValid) := by
  apply imp_congr_right
  intro warm
  rcases proceed_shared proceeded with ⟨notCommit, sites, grows⟩ | ⟨commits, rfl⟩
  · exact iff_of_true (accepts_of_grows (holds warm) sites grows) fun commits => absurd commits notCommit
  · have within := accepts_iff.mp (holds warm)
    rw [accepts_iff, commit_sitesValid, commit_within]
    exact ⟨fun both _ => both.2, fun added => ⟨within, added commits⟩⟩

/-- A call of a boot leaves a site out only by completing without it. -/
theorem warm_keeps_iff {boot after : Boot} (holds : EverySiteIngests platform)
    (warmed : warmSitesCache platform.shared boot call = some (shared, after)) :
    ((platform.warmed || decide (after = .completed)) = true → AcceptsEverySite shared) ↔
      boot.Covers platform.shared call := by
  cases boot with
  | select =>
    cases warmed
    by_cases more : call = .replied ∧ platform.shared.sites ≠ []
    · simp only [if_pos more, reduceCtorEq, decide_false, Bool.or_false]
      exact iff_of_true holds (Or.inl more.1)
    · simp only [if_neg more, decide_true, Bool.or_true, forall_const, accepts_iff, Boot.Covers]
      refine ⟨Or.inr, fun either => either.elim (fun replied => ?_) id⟩
      have empty : platform.shared.sites = [] := by_contra fun some => more ⟨replied, some⟩
      rw [empty]
      exact List.nil_subset _
  | sadd slugs =>
    cases warmed
    simp only [decide_true, Bool.or_true, forall_const, accepts_iff, sadd_sites, Boot.Covers]
    exact forall₂_congr fun slug _ => mem_sadd
  | completed => cases warmed
  | died => cases warmed

/-- A loss of members ends what the last boot established. -/
theorem lose_keeps {kept : List String} (holds : EverySiteIngests platform)
    (stepped : step platform (.lose kept) = some next) : EverySiteIngests next := by
  cases stepped
  intro warm
  obtain ⟨wasWarm, all⟩ := Bool.and_eq_true_iff.mp warm
  have nothing : platform.shared.sitesValid.filter (· ∈ kept) = platform.shared.sitesValid :=
    List.filter_eq_self.mpr (List.all_eq_true.mp all)
  simp only [nothing]
  exact accepts_of_grows (holds wasWarm) rfl (List.Subset.refl _)

theorem step_keeps_iff (holds : EverySiteIngests platform) (stepped : step platform action = some next) :
    EverySiteIngests next ↔ LeavesNoneOut platform action := by
  cases action with
  | create slug =>
    cases stepped
    exact iff_of_true holds trivial
  | advance index call =>
    obtain ⟨creation, shared, stage, held, proceeded, rfl⟩ := step_advance stepped
    simp only [LeavesNoneOut, held, Option.mem_some_iff, forall_eq']
    exact advance_keeps_iff holds proceeded
  | creationDies index =>
    obtain ⟨creation, held, rfl⟩ := Option.map_eq_some_iff.mp stepped
    exact iff_of_true holds trivial
  | boot =>
    cases stepped
    exact iff_of_true holds trivial
  | warm index call =>
    obtain ⟨boot, shared, after, held, warmed, rfl⟩ := step_warm stepped
    simp only [LeavesNoneOut, held, Option.mem_some_iff, forall_eq']
    exact warm_keeps_iff holds warmed
  | bootDies index =>
    obtain ⟨boot, held, rfl⟩ := Option.map_eq_some_iff.mp stepped
    exact iff_of_true holds trivial
  | lose kept => exact iff_of_true (lose_keeps holds stepped) trivial

theorem initial_ingests : EverySiteIngests (initial sitesValid sites) := fun warm => by cases warm

/-- **Every existing site can ingest after a boot, throughout a run, exactly
when no boot completes with a committed slug missing from the set and no
creation commits, after a boot, a slug the set has lost.** -/
theorem every_site_ingests_iff (ran : run step (initial sitesValid sites) actions = some finish) :
    Throughout step EverySiteIngests (initial sitesValid sites) actions ↔
      StepsMeet step LeavesNoneOut (initial sitesValid sites) actions :=
  throughout_iff step_keeps_iff initial_ingests ran

/-- A site is created, Redis loses the set, and the API boots. -/
private def createdLostBooted (warms : List Call) : List Action :=
  [.create "north-plant", .advance 0 .replied, .advance 0 .replied, .advance 0 .replied, .lose [], .boot] ++
    warms.map (.warm 0)

private theorem rewarmed_ran : (run step (initial [] []) (createdLostBooted [.replied, .replied])).isSome := by
  decide

/-- A boot that reaches Redis brings the set back. -/
theorem rewarmed_site_ingests :
    Throughout step EverySiteIngests (initial [] []) (createdLostBooted [.replied, .replied]) :=
  (every_site_ingests_iff (Option.some_get rewarmed_ran).symm).mpr (by decide)

private theorem swallowed_ran :
    (run step (initial [] []) (createdLostBooted [.replied, .threw false])).isSome := by
  decide

/-- A boot whose `SADD` fails completes all the same, and once Redis answers
again every site is turned away. -/
theorem swallowed_warm_turns_sites_away :
    ¬ ∀ (actions : List Action) (finish : Platform),
      run step (initial [] []) actions = some finish → EverySiteIngests finish := by
  intro always
  have accepts := always _ _ (Option.some_get swallowed_ran).symm (by decide)
  have refused := accepts "north-plant" (by decide) .replied
  revert refused
  decide

/-! ## Where nothing is lost under way -/

/-- Boots get through, and Redis loses nothing between a creation's `SADD` and
its commit, or between a boot's query and its `SADD`. -/
def Separated (platform : Platform) : Action → Prop
  | .warm _ call => call = .replied
  | .lose _ =>
    (∀ creation ∈ platform.creations, creation.stage ≠ .commit) ∧ ∀ slugs, Boot.sadd slugs ∉ platform.boots
  | _ => True

/-- What is about to be committed is in the set, and what a boot has not
selected is as well. -/
structure Prepared (platform : Platform) : Prop where
  committing : ∀ creation ∈ platform.creations, creation.stage = .commit →
    creation.slug ∈ platform.shared.sitesValid
  selected : ∀ slugs, Boot.sadd slugs ∈ platform.boots → ∀ slug ∈ platform.shared.sites,
    slug ∈ slugs ∨ slug ∈ platform.shared.sitesValid

theorem Prepared.advance {index : Nat} {creation : Creation} {stage : CreationStage} (prepared : Prepared platform)
    (held : platform.creations[index]? = some creation)
    (proceeded : proceed platform creation call = some (shared, stage)) :
    Prepared { platform with shared, creations := platform.creations.set index { creation with stage } } := by
  have member := List.mem_of_getElem? held
  have grows : platform.shared.sitesValid ⊆ shared.sitesValid := by
    rcases proceed_shared proceeded with ⟨-, -, grows⟩ | ⟨-, rfl⟩
    · exact grows
    · rw [commit_sitesValid]
      exact List.Subset.refl _
  have committed : ∀ slug ∈ shared.sites, slug ∈ platform.shared.sites ∨ slug ∈ platform.shared.sitesValid := by
    rcases proceed_shared proceeded with ⟨-, sites, -⟩ | ⟨commits, rfl⟩
    · exact fun slug => sites ▸ Or.inl
    · intro slug stored
      unfold commit at stored
      split at stored
      · exact Or.inl stored
      · rcases List.mem_append.mp stored with old | new
        · exact Or.inl old
        · rw [List.mem_singleton.mp new]
          exact Or.inr (prepared.committing creation member commits)
  constructor
  · intro other otherMember commits
    rcases List.mem_or_eq_of_mem_set otherMember with old | rfl
    · exact grows (prepared.committing other old commits)
    · cases commits
      have added : creation.slug ∈ shared.sitesValid := proceed_to_commit proceeded
      exact added
  · intro slugs selecting slug stored
    rcases committed slug stored with old | inSet
    · exact (prepared.selected slugs selecting slug old).imp_right fun inSet => grows inSet
    · exact Or.inr (grows inSet)

theorem Prepared.warm {index : Nat} {boot after : Boot} (prepared : Prepared platform)
    (warmed : warmSitesCache platform.shared boot call = some (shared, after)) :
    Prepared { platform with shared, boots := platform.boots.set index after,
                             warmed := platform.warmed || decide (after = .completed) } := by
  have sites : shared.sites = platform.shared.sites := by
    cases boot <;> cases warmed
    · rfl
    · exact sadd_sites
  have grows : platform.shared.sitesValid ⊆ shared.sitesValid := by
    cases boot <;> cases warmed
    · exact List.Subset.refl _
    · exact fun _ member => mem_sadd.mpr (Or.inl member)
  constructor
  · exact fun creation member commits => grows (prepared.committing creation member commits)
  · intro slugs selecting slug stored
    rw [sites] at stored
    rcases List.mem_or_eq_of_mem_set selecting with old | moved
    · exact (prepared.selected slugs old slug stored).imp_right fun inSet => grows inSet
    · cases boot with
      | select =>
        simp only [warmSitesCache, Option.some.injEq, Prod.mk.injEq] at warmed
        obtain ⟨-, selects⟩ := warmed
        rw [← moved] at selects
        split_ifs at selects
        cases selects
        exact Or.inl stored
      | sadd earlier =>
        cases warmed
        cases moved
      | completed => cases warmed
      | died => cases warmed

theorem step_prepared (prepared : Prepared platform) (separated : Separated platform action)
    (stepped : step platform action = some next) : Prepared next := by
  cases action with
  | create slug =>
    cases stepped
    refine ⟨fun creation member commits => ?_, prepared.selected⟩
    rcases List.mem_append.mp member with old | new
    · exact prepared.committing creation old commits
    · rw [List.mem_singleton.mp new] at commits
      cases commits
  | advance index call =>
    obtain ⟨creation, shared, stage, held, proceeded, rfl⟩ := step_advance stepped
    exact prepared.advance held proceeded
  | creationDies index =>
    obtain ⟨creation, held, rfl⟩ := Option.map_eq_some_iff.mp stepped
    refine ⟨fun other member commits => ?_, prepared.selected⟩
    rcases List.mem_or_eq_of_mem_set member with old | rfl
    · exact prepared.committing other old commits
    · cases commits
  | boot =>
    cases stepped
    refine ⟨prepared.committing, fun slugs selecting => ?_⟩
    rcases List.mem_append.mp selecting with old | new
    · exact prepared.selected slugs old
    · cases List.mem_singleton.mp new
  | warm index call =>
    obtain ⟨boot, shared, after, held, warmed, rfl⟩ := step_warm stepped
    exact prepared.warm warmed
  | bootDies index =>
    obtain ⟨boot, held, rfl⟩ := Option.map_eq_some_iff.mp stepped
    refine ⟨prepared.committing, fun slugs selecting => ?_⟩
    rcases List.mem_or_eq_of_mem_set selecting with old | died
    · exact prepared.selected slugs old
    · cases died
  | lose kept =>
    cases stepped
    exact ⟨fun creation member commits => absurd commits (separated.1 creation member),
      fun slugs selecting => absurd selecting (separated.2 slugs)⟩

/-- What is prepared leaves no site out. -/
theorem Prepared.leavesNoneOut (prepared : Prepared platform) (separated : Separated platform action) :
    LeavesNoneOut platform action := by
  cases action with
  | advance index call =>
    intro creation held warm commits ran
    exact prepared.committing creation (List.mem_of_getElem? held) commits
  | warm index call =>
    intro boot held
    cases boot with
    | select => exact Or.inl separated
    | sadd slugs =>
      intro slug stored
      have replied : call = .replied := separated
      rcases prepared.selected slugs (List.mem_of_getElem? held) slug stored with selected | inSet
      · exact Or.inr ⟨replied ▸ nofun, selected⟩
      · exact Or.inl inSet
    | completed => trivial
    | died => trivial
  | create slug => trivial
  | creationDies index => trivial
  | boot => trivial
  | bootDies index => trivial
  | lose kept => trivial

/-- **Where boots get through and losses fall between the writers, every
existing site can ingest after a boot.** -/
theorem separated_runs_serve_every_site (separated : StepsMeet step Separated (initial sitesValid sites) actions)
    (ran : run step (initial sitesValid sites) actions = some finish) : EverySiteIngests finish := by
  have start : Prepared (initial sitesValid sites) := ⟨nofun, nofun⟩
  refine (run_invariant_of_steps (fun platform => Prepared platform ∧ EverySiteIngests platform) ?_
    ⟨start, initial_ingests⟩ separated ran).2
  rintro before after action ⟨prepared, holds⟩ allowed stepped
  exact ⟨step_prepared prepared allowed stepped,
    (step_keeps_iff holds stepped).mpr (prepared.leavesNoneOut allowed)⟩

end EmissionsPlatform.SiteCache
