import TreeLint.Proofs.Independence

/-!
# Checks that record their calls

Which hooks of a check a walk calls can be asked of the walk itself: give every
check a log beside its state, in which each hook writes the moment of its call.
A recording check answers as the check does, so the walk takes the same course
and reports the same.  What it leaves in a log is the part of the moments of
the tree that the check hears.
-/

namespace TreeLint

section Recording

variable {σ : Type}

/-- The answer with a log beside the new state. -/
def Outcome.noting (outcome : Outcome σ) (log : List Moment) : Outcome (σ × List Moment) where
  state := (outcome.state, log)
  findings := outcome.findings
  failure := outcome.failure

/-- The check with a log of its calls, oldest first. -/
def Check.recording (check : Check σ) : Check (σ × List Moment) where
  rule := check.rule
  name := check.name
  description := check.description
  kinds := check.kinds
  visitFile tree state := (check.visitFile tree state.1).noting (state.2 ++ [.opening])
  visitNode tree id state := (check.visitNode tree id state.1).noting (state.2 ++ [.enter id])
  leaveNode tree id state := (check.leaveNode tree id state.1).noting (state.2 ++ [.leave id])
  leaveFile tree state := (check.leaveFile tree state.1).noting (state.2 ++ [.closing])

theorem Moment.hook_recording (moment : Moment) (tree : Tree) (check : Check σ)
    (state : σ × List Moment) :
    moment.hook tree check.recording state =
      (moment.hook tree check state.1).noting (state.2 ++ [moment]) := by
  cases moment <;> rfl

def HookCall.recording (call : HookCall σ) : HookCall (σ × List Moment) where
  number := call.number
  check := call.check.recording
  moment := call.moment

namespace Registry

def recording (registry : Registry σ) : Registry (σ × List Moment) where
  checks := registry.checks.map Check.recording
  subscriptions := registry.subscriptions

@[simp]
theorem size_recording (registry : Registry σ) : registry.recording.size = registry.size := by
  simp [size, recording]

theorem entries_recording (registry : Registry σ) :
    registry.recording.entries = registry.entries.map (Prod.map id Check.recording) := by
  rw [entries, recording, Array.toList_map, List.zipIdx_map, List.map_map, entries,
    List.map_map]
  rfl

theorem checksFor_recording (registry : Registry σ) (kind : Kind) :
    registry.recording.checksFor kind =
      (registry.checksFor kind).map (Prod.map id Check.recording) := by
  rw [checksFor, checksFor, List.map_filterMap]
  refine List.filterMap_congr ?_
  intro number _
  simp [recording, Function.comp_def]

theorem listeners_recording (registry : Registry σ) (tree : Tree) (moment : Moment) :
    registry.recording.listeners tree moment =
      (registry.listeners tree moment).map (Prod.map id Check.recording) := by
  cases moment with
  | opening | closing => exact registry.entries_recording
  | enter node | leave node => exact registry.checksFor_recording _

theorem schedule_recording (registry : Registry σ) (tree : Tree) :
    registry.recording.schedule tree = (registry.schedule tree).map HookCall.recording := by
  have calls : ∀ moment, registry.recording.hookCalls tree moment =
      (registry.hookCalls tree moment).map HookCall.recording := by
    intro moment
    rw [hookCalls, listeners_recording, hookCalls, List.map_map, List.map_map]
    rfl
  rw [schedule, funext calls, schedule, List.map_flatMap]

end Registry

/-! ## Sessions with logs -/

/-- The moments of the calls that go to the check with a number. -/
def calledAt (id : Nat) (calls : List (HookCall σ)) : List Moment :=
  (soloPart id calls).map HookCall.moment

theorem calledAt_cons (id : Nat) (call : HookCall σ) (rest : List (HookCall σ)) :
    calledAt id (call :: rest) =
      (if id = call.number then [call.moment] else []) ++ calledAt id rest := by
  split
  · rename_i own
    rw [calledAt, soloPart_cons_own own.symm]
    rfl
  · rename_i other
    rw [calledAt, soloPart_cons_other (Ne.symm other)]
    rfl

namespace Session

def withLogs (session : Session σ) (logs : Nat → List Moment) :
    Session (σ × List Moment) where
  slot number := (session.slot number, logs number)
  sink := session.sink
  nodes := session.nodes
  invocations := session.invocations

theorem withLogs_start (fresh : σ) (sink : List Violation) :
    (start fresh sink).withLogs (fun _ => []) = start (fresh, []) sink := rfl

theorem answer_recording (session : Session σ) (logs : Nat → List Moment) (tree : Tree)
    (call : HookCall σ) :
    (session.withLogs logs).answer tree call.recording =
      (session.answer tree call).noting (logs call.number ++ [call.moment]) :=
  call.moment.hook_recording tree call.check _

/-- A recording call does what the call does, and adds its moment to the log of
its check. -/
theorem next_recording (session : Session σ) (logs : Nat → List Moment) (tree : Tree)
    (call : HookCall σ) :
    (session.withLogs logs).next tree call.recording =
      (session.next tree call).withLogs fun number =>
        logs number ++ calledAt number [call] := by
  rw [next, answer_recording, next, record, record, withLogs, withLogs]
  congr 1
  funext number
  rw [calledAt_cons]
  by_cases own : number = call.number
  · subst own
    simp [HookCall.recording, Outcome.noting, calledAt, soloPart]
  · simp [HookCall.recording, own, calledAt, soloPart]

theorem play_recording {session ended : Session σ} {tree : Tree} {calls : List (HookCall σ)}
    (played : session.after (play tree calls) = (.ok (), ended)) (logs : Nat → List Moment) :
    (session.withLogs logs).after (play tree (calls.map HookCall.recording)) =
      (.ok (), ended.withLogs fun number => logs number ++ calledAt number calls) := by
  -- over all logs, since every call leaves other logs for the calls after it
  induction calls generalizing session logs with
  | nil =>
      cases played
      simp [play, calledAt, soloPart]
  | cons call rest ih =>
      rw [List.map_cons, after_play_cons, answer_recording, next_recording]
      rw [after_play_cons] at played
      cases failure : (session.answer tree call).failure with
      | some error =>
          rw [failure] at played
          cases played
      | none =>
          rw [failure] at played
          simp only [Outcome.noting, failure]
          rw [ih played]
          congr 2
          funext number
          rw [calledAt_cons number call rest, calledAt_cons number call [], List.append_assoc]
          simp [calledAt, soloPart]

end Session

/-! ## Walks with logs -/

namespace Registry

theorem run_agrees_play (registry : Registry σ) (fresh : σ) (tree : Tree)
    (sink : Array Violation) :
    ∃ ended, Agrees registry.size (registry.run fresh tree sink) ended ∧
      ended.map id Session.uncounted =
        (Session.start fresh sink.toList).after
          (Session.play tree (registry.schedule tree)) :=
  ⟨_, registry.refines_run tree _ _ (mirrors_start registry fresh sink),
    Session.plays_walkFile registry tree (Session.start fresh sink.toList)⟩

/-- A walk in which no hook fails plays its schedule to the end. -/
theorem play_of_run {registry : Registry σ} {fresh : σ} {tree : Tree}
    {sink : Array Violation} {walk : Walk σ} (ran : registry.run fresh tree sink = .ok walk) :
    ∃ session, (Session.start fresh sink.toList).after
        (Session.play tree (registry.schedule tree)) = (.ok (), session) ∧
      walk.sink.toList = session.sink ∧
      ∀ id < registry.size, walk.states[id]? = some (session.slot id) := by
  obtain ⟨ended, agrees, plays⟩ := registry.run_agrees_play fresh tree sink
  rcases agrees.cases with ⟨_, session, isOk, rfl, mirrors⟩ | ⟨_, _, isError, -, -⟩
  · cases ran.symm.trans isOk
    exact ⟨session.uncounted, plays.symm, mirrors.sink, mirrors.states⟩
  · cases ran.symm.trans isError

theorem run_of_play {registry : Registry σ} {fresh : σ} {tree : Tree}
    {sink : Array Violation} {session : Session σ}
    (played : (Session.start fresh sink.toList).after
      (Session.play tree (registry.schedule tree)) = (.ok (), session)) :
    ∃ walk, registry.run fresh tree sink = .ok walk ∧
      walk.sink.toList = session.sink ∧
      ∀ id < registry.size, walk.states[id]? = some (session.slot id) := by
  obtain ⟨ended, agrees, plays⟩ := registry.run_agrees_play fresh tree sink
  rw [played] at plays
  rcases agrees.cases with ⟨walk, final, ran, rfl, mirrors⟩ | ⟨_, _, -, rfl, -⟩
  · obtain ⟨-, rfl⟩ := Prod.mk.inj plays
    exact ⟨walk, ran, mirrors.sink, mirrors.states⟩
  · cases (Prod.mk.inj plays).1

/-- A check is called at the moments that it hears, in the order of the tree. -/
theorem calledAt_schedule {registry : Registry σ} (orderly : Orderly registry) (tree : Tree)
    {id : Nat} (inside : id < registry.size) :
    calledAt id (registry.schedule tree) = tree.moments.filter (registry.hears tree id) := by
  have found : registry.checks[id]? = some registry.checks[id] :=
    Array.getElem?_eq_getElem inside
  rw [calledAt, schedule, soloPart_flatMap, List.map_flatMap]
  induction tree.moments with
  | nil => rfl
  | cons moment rest ih =>
      rw [List.flatMap_cons, ih, soloPart_hookCalls orderly tree found, List.filter_cons]
      split <;> rfl

/-- Recording changes nothing in a walk in which no hook fails, and the log of a
check holds the moments that it hears. -/
theorem recording_run {registry : Registry σ} (orderly : Orderly registry) {fresh : σ}
    {tree : Tree} {sink : Array Violation} {walk : Walk σ}
    (ran : registry.run fresh tree sink = .ok walk) :
    ∃ recorded, registry.recording.run (fresh, []) tree sink = .ok recorded ∧
      recorded.sink = walk.sink ∧
      ∀ id < registry.size, ∃ state, walk.states[id]? = some state ∧
        recorded.states[id]? =
          some (state, tree.moments.filter (registry.hears tree id)) := by
  obtain ⟨session, played, reported, states⟩ := play_of_run ran
  have recordedPlay := Session.play_recording played fun _ => []
  rw [← schedule_recording, Session.withLogs_start] at recordedPlay
  obtain ⟨recorded, recordedRan, recordedReports, recordedStates⟩ := run_of_play recordedPlay
  refine ⟨recorded, recordedRan, ?_, ?_⟩
  · exact Array.toList_inj.mp (recordedReports.trans reported.symm)
  · intro id inside
    refine ⟨session.slot id, states id inside, ?_⟩
    rw [recordedStates id (by simpa using inside), ← calledAt_schedule orderly tree inside]
    rfl

end Registry

end Recording

end TreeLint
