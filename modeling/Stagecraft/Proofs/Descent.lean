import Stagecraft.Proofs.Program

/-!
# Descending into scripts

While an action is performed further scripts may be run below it: those of conditions, of verbs that
it runs inside its own, and of scenes that it enters.  Each way down leaves less to descend: fewer
verbs that are not being driven, or verbs of lower rank, or lighter actions.  So from some depth on
it makes no difference how far down one may go.
-/

namespace Stagecraft

/-- Perform one action, going down through at most `depth` levels of scripts to a bottom. -/
def Action.performAbove (bottom : Performer) : Nat → Performer
  | 0 => bottom
  | depth + 1 => Action.performWith (some (Action.performAbove bottom depth))

/-- At the usual bottom no script can be started. -/
theorem Action.perform_eq_performAbove (depth : Nat) :
    Action.perform depth = Action.performAbove (Action.performWith none) depth := by
  induction depth with
  | zero => rfl
  | succ depth ih => rw [Action.perform, Action.performAbove, ih]

namespace Program

variable {p : Program} {rank : String → Nat} {room height weight : Nat}
  {first second : Performer} {s : Stage} {f : Frame} {h : Handle}

/-! ## What is left to descend -/

/-- The handles that the verbs of a program may have. -/
def handles (p : Program) : List Handle :=
  p.owners.flatMap fun owner => p.verbs.map fun verb => ⟨owner, verb.key⟩

/-- How many verbs of a program are not being driven. -/
def spare (p : Program) (s : Stage) : Nat := (p.handles.filter (· ∉ s.executing)).length

/-- A depth that suffices for an action: with so much room left, below verbs of so high a rank, and
if it has no more than a weight. -/
def need (p : Program) (room height weight : Nat) : Nat :=
  room * ((p.verbs.length + 1) * (p.weight + 1)) + height * (p.weight + 1) + weight + 1

/-- Whether an action is permitted, no heavier than a weight when it is written, and runs inside its
own only verbs of ranks below a height. -/
structure Fits (p : Program) (rank : String → Nat) (height weight : Nat) (action : Action) :
    Prop where
  through : action.Throughout p.Permits
  light : action.reset.weight ≤ weight
  low : ∀ verb ∈ p.verbs, verb.key.id ∈ action.calls → rank verb.key.id < height

/-- Whether a stage keeps to a program, with no more than some verbs of it that are not being
driven. -/
structure Admits (p : Program) (room : Nat) (s : Stage) : Prop where
  upheld : p.upkeep.Upheld s.world
  roomy : p.spare s ≤ room

/-- Whether it makes no difference which of two performers carries out an action that fits. -/
def Agree (p : Program) (rank : String → Nat) (room height weight : Nat)
    (first second : Performer) : Prop :=
  ∀ action f, p.Fits rank height weight action → p.Admits room f.stage →
    first action f = second action f

/-- Whatever keeps to a program fits below all its ranks. -/
theorem Ranks.fits (ranks : p.Ranks rank) {action : Action}
    (through : action.Throughout p.Permits) : p.Fits rank p.verbs.length p.weight action where
  through := through
  light := through.own.1
  low _ member _ := ranks.bounded member

theorem Fits.reset {action : Action} (fits : p.Fits rank height weight action) :
    p.Fits rank height weight action.reset where
  through := fits.through.reset
  light := by
    rw [Action.reset_reset]
    exact fits.light
  low := by
    rw [Action.calls_reset]
    exact fits.low

/-- Actions fit that are no heavier than a script that fits. -/
theorem fits_inside {script : Script Action} (through : script.Throughout p.Permits)
    (light : script.reset.weight ≤ weight + 1)
    (low : ∀ verb ∈ p.verbs, verb.key.id ∈ script.calls → rank verb.key.id < height) :
    ∀ action ∈ script.actions, p.Fits rank height weight action := by
  intro action member
  constructor
  · exact through action member
  · have isWritten : action.reset ∈ script.reset.actions := by
      rw [Script.reset_eq, Script.ofActions, Action.resetAll_eq_map]
      exact List.mem_map_of_mem member
    have lighter := Action.weight_le_weightAll isWritten
    rw [Script.weight_eq] at light
    omega
  · intro verb inProgram calls
    apply low verb inProgram
    rw [Script.calls_eq]
    exact Action.mem_callsAll.mpr ⟨action, member, calls⟩

/-- A verb that is in a table of a stage that keeps to a program is one of the program. -/
theorem Admits.exists_verb (admits : p.Admits room s) {script : Script Action}
    (found : s.world.script? h = some script) :
    h ∈ p.handles ∧ script.Throughout p.Permits ∧
      ∃ verb ∈ p.verbs, verb.key = h.key ∧ verb.script.reset = script.reset := by
  rcases admits.upheld.scripts h script found with ⟨through, verb, member, sameKey, sameScript⟩
  have owned : h.owner ∈ p.owners := admits.upheld.world h.owner
    (World.isSome_verbs?_of_script? (Option.isSome_of_eq_some found))
  constructor
  · refine List.mem_flatMap.mpr ⟨h.owner, owned, List.mem_map.mpr ⟨verb, member, ?_⟩⟩
    rw [sameKey]
  · exact ⟨through, verb, member, sameKey, sameScript⟩

/-- A stage goes on keeping to a program while the same verbs are driven. -/
theorem Admits.of_executing_eq {t : Stage} (admits : p.Admits room s)
    (upheld : p.upkeep.Upheld t.world) (same : t.executing = s.executing) : p.Admits room t where
  upheld := upheld
  roomy := by
    unfold spare
    rw [same]
    exact admits.roomy

/-- Driving a verb takes up room. -/
theorem spare_lend (member : h ∈ p.handles) (idle : h ∉ s.executing) :
    p.spare (s.lend h) < p.spare s := by
  have fewer : p.handles.filter (· ∉ (s.lend h).executing) =
      (p.handles.filter (· ∉ s.executing)).filter (· ≠ h) := by
    rw [List.filter_filter]
    apply List.filter_congr
    intro other _
    simp [Stage.lend]
  unfold spare
  rw [fewer, List.length_filter_lt_length_iff_exists]
  exact ⟨h, List.mem_filter.mpr ⟨member, by simpa using idle⟩, by simp⟩

/-- Below verbs of the same rank, lighter actions need less. -/
theorem need_lt_of_weight {lighter : Nat} (less : lighter < weight) :
    p.need room height lighter < p.need room height weight := by
  unfold need
  omega

/-- Below verbs of lower rank all actions of the program need less. -/
theorem need_lt_of_height {lower : Nat} (less : lower < height) :
    p.need room lower p.weight < p.need room height weight := by
  have below : (lower + 1) * (p.weight + 1) ≤ height * (p.weight + 1) :=
    Nat.mul_le_mul_right _ less
  rw [Nat.succ_mul] at below
  unfold need
  omega

/-- With less room all actions of the program need less. -/
theorem need_lt_of_room {fewer : Nat} (less : fewer < room) :
    p.need fewer p.verbs.length p.weight < p.need room height weight := by
  have below : (fewer + 1) * ((p.verbs.length + 1) * (p.weight + 1)) ≤
      room * ((p.verbs.length + 1) * (p.weight + 1)) := Nat.mul_le_mul_right _ less
  rw [Nat.succ_mul, Nat.succ_mul p.verbs.length] at below
  unfold need
  rw [Nat.succ_mul p.verbs.length]
  omega

/-! ## Scripts -/

namespace Agree

/-- Performers that agree sweep alike. -/
theorem sweep (agree : p.Agree rank room height weight first second)
    (kept : p.upkeep.KeptBy first) (runs : first.Runs) (ip : Nat) {actions : List Action}
    (fits : ∀ action ∈ actions, p.Fits rank height weight action) (admits : p.Admits room f.stage) :
    Action.sweep first ip actions f = Action.sweep second ip actions f := by
  induction actions generalizing ip f with
  | nil => rfl
  | cons action rest ih =>
    unfold Action.sweep
    cases requested : f.cancelRequested with
    | true => rfl
    | false =>
      rw [List.forall_mem_cons] at fits
      rw [← agree action f fits.1 admits]
      rcases performed : first action f with ⟨done, outcome, f₁⟩
      have upheld := (kept action f admits.upheld fits.1.through).1
      rcases runs action f done outcome f₁ requested performed with ⟨_, ran⟩
      rw [performed] at upheld
      have admitsAfter := admits.of_executing_eq upheld ran.course.executing_eq
      cases outcome with
      | park => rfl
      | proceed => simp only [Bool.false_eq_true, if_false, ih (ip + 1) fits.2 admitsAfter]
      | fault reason =>
        have noted : p.Admits room (f₁.error
            s!"{f₁.handle.key.text} step {ip} ({done.name}) failed: {reason.message}").stage :=
          ⟨admitsAfter.upheld, admitsAfter.roomy⟩
        simp only [Bool.false_eq_true, if_false, ih (ip + 1) fits.2 noted]

theorem stepFrom (agree : p.Agree rank room height weight first second)
    (kept : p.upkeep.KeptBy first) (runs : first.Runs) (ip : Nat) {actions : List Action}
    (fits : ∀ action ∈ actions, p.Fits rank height weight action) (admits : p.Admits room f.stage) :
    Script.stepFrom first ip actions f = Script.stepFrom second ip actions f := by
  unfold Script.stepFrom
  rw [agree.sweep kept runs ip _ admits]
  exact fun action member => fits action (List.mem_of_mem_drop member)

/-- Performers that agree start scripts alike. -/
theorem start (agree : p.Agree rank room height weight first second)
    (kept : p.upkeep.KeptBy first) (runs : first.Runs) {script : Script Action}
    (fits : ∀ action ∈ script.actions, p.Fits rank height weight action)
    (admits : p.Admits room f.stage) : script.start first f = script.start second f := by
  have released : p.Admits room (script.release f).stage := by
    rcases script.release_givesUp f with ⟨_, ran, _⟩
    apply admits.of_executing_eq _ ran.course.executing_eq
    exact admits.upheld.release fun action member => (fits action member).through
  apply agree.stepFrom kept runs 0 _ released
  intro action member
  rw [Script.reset_eq, Script.ofActions, Action.resetAll_eq_map] at member
  rcases List.mem_map.mp member with ⟨original, inScript, rfl⟩
  exact (fits original inScript).reset

end Agree

/-- Performers that agree on all that keeps to the program run verbs alike. -/
theorem Ranks.runHandle (ranks : p.Ranks rank)
    (agree : ∀ below < room, p.Agree rank below p.verbs.length p.weight first second)
    (kept : p.upkeep.KeptBy first) (runs : first.Runs) (admits : p.Admits room s)
    (h : Handle) : s.runHandle first h = s.runHandle second h := by
  unfold Stage.runHandle
  by_cases executing : h ∈ s.executing
  · simp only [Stage.withVerb, executing, if_true]
  · cases found : s.world.script? h with
    | none => simp only [Stage.withVerb, executing, if_false, found]
    | some script =>
      rcases admits.exists_verb found with ⟨member, through, _⟩
      have less : p.spare (s.lend h) < room :=
        (spare_lend member executing).trans_le admits.roomy
      have fits : ∀ action ∈ script.actions, p.Fits rank p.verbs.length p.weight action :=
        fun action inScript => ranks.fits (through action inScript)
      have sameStart := (agree _ less).start kept runs
        (f := (Frame.enter h (s.lend h)).info s!">>> running verb {h.key.text}") fits
        ⟨admits.upheld.lend h, Nat.le_refl _⟩
      have sameRun : (Frame.enter h (s.lend h)).run first script =
          (Frame.enter h (s.lend h)).run second script := by
        unfold Frame.run
        simp only [Frame.enter] at sameStart ⊢
        rw [sameStart]
      apply Stage.withVerb_congr executing rfl found found
      simp only [sameRun]

theorem Ranks.runNamed (ranks : p.Ranks rank)
    (agree : ∀ below < room, p.Agree rank below p.verbs.length p.weight first second)
    (kept : p.upkeep.KeptBy first) (runs : first.Runs) (admits : p.Admits room s)
    (owner : Owner) (id : String) (target : Option String) :
    s.runNamed first owner id target = s.runNamed second owner id target := by
  unfold Stage.runNamed
  split
  · exact ranks.runHandle agree kept runs admits _
  · rfl

/-- Scenes are entered alike if their verbs are run alike. -/
theorem goToScene_congr (upheld : p.upkeep.Upheld s.world) {id : String}
    (run : ∀ t : Stage, p.upkeep.Upheld t.world → t.executing = s.executing →
      t.runNamed first (.scene id) "init" none = t.runNamed second (.scene id) "init" none) :
    s.goToScene first id = s.goToScene second id := by
  unfold Stage.goToScene
  split
  · next present =>
    have allowed : (Deed.goTo id).Allowed none s := present
    have sameRun := run
      ((((Deed.goTo id).apply s).info s!"current scene is now '{id}'").emit (.sceneChanged id))
      (upheld.apply allowed (by simp)) rfl
    exact congrArg (fun result => Except.ok result.2) sameRun
  · rfl

/-! ## Performing -/

/-- The actions of a verb fit below its rank when they are written. -/
theorem Ranks.fits_verb (ranks : p.Ranks rank) {verb : Verb} (member : verb ∈ p.verbs)
    {script : Script Action} (through : script.Throughout p.Permits)
    (same : verb.script.reset = script.reset) :
    ∀ action ∈ script.actions, p.Fits rank (rank verb.key.id) p.weight action := by
  intro action inScript
  constructor
  · exact through action inScript
  · exact (through action inScript).own.1
  · intro other isVerb calls
    apply ranks.descends isVerb
    refine ⟨verb, member, rfl, ?_⟩
    rw [← Script.calls_reset, same, Script.calls_reset, Script.calls_eq]
    exact Action.mem_callsAll.mpr ⟨action, inScript, calls⟩

/-- Performers agree on an action if their inner performers agree on whatever leaves less to
descend. -/
theorem Ranks.performWith (ranks : p.Ranks rank) (kept : p.upkeep.KeptBy first) (runs : first.Runs)
    (inside : ∀ room' height' weight', p.need room' height' weight' < p.need room height weight →
      p.Agree rank room' height' weight' first second) :
    p.Agree rank room height weight (Action.performWith (some first))
      (Action.performWith (some second)) := by
  intro action f fits admits
  cases action with
  | conditional condition script =>
    have light : script.reset.weight + 1 ≤ weight := fits.light
    have less : weight - 1 < weight := by omega
    have fitsInside : ∀ action ∈ script.actions, p.Fits rank height (weight - 1) action := by
      apply fits_inside (fits.through.inside rfl) _ fits.low
      omega
    have sameStart := (inside _ _ _ (need_lt_of_weight less)).start kept runs (f := f.info
      s!"└─ action: Conditional(true), entering {script.length} action(s)") fitsInside
      ⟨admits.upheld, admits.roomy⟩
    simp only [Action.performWith, sameStart]
  | runVerb whose verb target bound script =>
    simp only [Action.performWith]
    split
    · rfl
    · rfl
    · next owner actions f₁ some_ =>
      rcases Frame.inlineVerb_eq_ok some_ with ⟨text, rfl⟩
      rcases Frame.inlineVerb_eq_some some_ with ⟨h, definition, _, named, _, found, rfl⟩
      rcases admits.exists_verb found with ⟨_, through, written, member, sameKey, same⟩
      have sameId : written.key.id = verb := by
        rw [sameKey]
        exact Stage.id_of_resolve? named
      have lower : rank written.key.id < height := by
        apply fits.low written member
        rw [sameId]
        exact List.mem_cons_self ..
      have fitsInside : ∀ action ∈ definition.reset.actions,
          p.Fits rank (rank written.key.id) p.weight action :=
        ranks.fits_verb member through.reset (same.trans definition.reset_reset.symm)
      have sameStart :
          (Script.ofActions definition.reset.actions).start first
            ((f.info text).enterScope (some owner)) =
          (Script.ofActions definition.reset.actions).start second
            ((f.info text).enterScope (some owner)) :=
        (inside _ _ _ (need_lt_of_height lower)).start kept runs fitsInside
          ⟨admits.upheld, admits.roomy⟩
      simp only [sameStart]
  | changeScene scene =>
    have agree : ∀ below < room, p.Agree rank below p.verbs.length p.weight first second :=
      fun below less => inside _ _ _ (need_lt_of_room less)
    have sameScene : (f.info s!"└─ action: ChangeScene({scene})").stage.goToScene first scene =
        (f.info s!"└─ action: ChangeScene({scene})").stage.goToScene second scene := by
      have noted : p.upkeep.Upheld
          (f.info s!"└─ action: ChangeScene({scene})").stage.world := admits.upheld
      apply goToScene_congr noted
      intro t upheld same
      exact ranks.runNamed agree kept runs (admits.of_executing_eq upheld same) _ _ _
    simp only [Action.performWith, sameScene]
  | _ => rfl

/-- Depths that suffice make no difference, whatever is at the bottom. -/
theorem Ranks.perform (ranks : p.Ranks rank) (bottom : Performer) {depth more : Nat}
    (deep : p.need room height weight ≤ depth) (deeper : p.need room height weight ≤ more) :
    p.Agree rank room height weight (Action.perform depth) (Action.performAbove bottom more) := by
  induction depth generalizing more room height weight with
  | zero => exact absurd deep (Nat.not_succ_le_zero _)
  | succ depth ih =>
    cases more with
    | zero => exact absurd deeper (Nat.not_succ_le_zero _)
    | succ more =>
      apply ranks.performWith (p.upkeep.keptBy_perform depth) (Action.perform_runs depth)
      intro room' height' weight' less
      apply ih
      · exact Nat.le_of_lt_succ (less.trans_le deep)
      · exact Nat.le_of_lt_succ (less.trans_le deeper)

end Program

end Stagecraft
