import EngineGateway.Proofs.Gateway.Scene
import EngineGateway.Rehearsal.Machine
import Mathlib.Tactic.ByContra

/-!
# When the poller connects again

From the notes of an observer alone it follows what a turn without a session does
when it finds the port file.  If the stamp is that of the last success, the turn
connects exactly if the last session ended with a broken pipe and the file has not
been found since the session was withdrawn, and then to the port of that session.
If the stamp is another one, the file is read again.

The invariant relates the notes to the flags of the programs.  While an engine is
attached, the flag of the session is the one that counts and the policy has none
set; when the session is withdrawn, it passes to the policy together with the port,
which the finder still knows.
-/

namespace EngineGateway

open Engine Discovery Socket

/-! ## The invariant -/

/-- No engine is attached.  The policy has one more attempt due exactly if the
notes have, and the port for it is the known one. -/
structure Searching {ω : Type} (scene : Scene ω) (finder : Finder) : Prop where
  alone : scene.gateway.session = none
  idle : scene.probed = none
  armed : scene.poller.policy.armed = true ↔ scene.notes.due.isSome = true
  known : ∀ port, scene.notes.due = some port → finder.knownPort = some port

/-- An engine is attached.  Whether its session is over and how it ended is what
the notes say, and so is what a probe has found. -/
structure Attached {ω : Type} (scene : Scene ω) (finder : Finder)
    (session : Session Link) : Prop where
  present : scene.gateway.session = some (Mailbox.ofSession session)
  disarmed : scene.poller.policy.armed = false
  known : finder.knownPort = some session.transport.endpoint.port
  coherent : Coherent session
  going : session.closed = false →
    session.reconnect = false ∧ scene.notes.ended = none
  ended : session.closed = true → ∃ fault,
    scene.notes.ended = some (session.transport.endpoint.port, fault) ∧
      (session.reconnect = true ↔ fault = .brokenPipe)
  found : ∀ probed, scene.probed = some probed → probed.1.closed = true →
    session.closed = true ∧ probed.1.reconnect = session.reconnect

/-- The notes agree with what the programs remember. -/
structure Agreed {ω : Type} (scene : Scene ω) (finder : Finder) : Prop where
  connectors : scene.poller.connectors = [finder]
  last : scene.poller.policy.last = scene.notes.lastSuccess
  phase : Searching scene finder ∨ ∃ session, Attached scene finder session

variable {κ ω : Type} {finder : Finder}

theorem Agreed.start (finder : Finder) (probeCommand : String)
    (pollInterval retryInterval : Nat) (registry : Peer.Registry) (world : ω) :
    Agreed (.start finder probeCommand pollInterval retryInterval registry world)
      finder where
  connectors := rfl
  last := rfl
  phase := by
    refine .inl ⟨rfl, rfl, ?_, ?_⟩
    · simp [Scene.start, Poller.start, Policy.start, Notes.due, Notes.blank]
    · simp [Scene.start, Notes.due, Notes.blank]

/-! ## While an engine is attached -/

section Attached

variable {scene next : Scene ω} {session after : Session Link}

/-- An errand keeps the notes and the session together. -/
theorem Attached.hear {fault : Option Fault} (attached : Attached scene finder session)
    (sent : Sent session after fault) (poller : next.poller = scene.poller)
    (present : next.gateway.session = some (Mailbox.ofSession after))
    (notes : next.notes = scene.notes.hear session after fault)
    (found : ∀ probed, next.probed = some probed → probed.1.closed = true →
      after.closed = true ∧ probed.1.reconnect = after.reconnect) :
    Attached next finder after := by
  suffices standing : (after.closed = false →
      after.reconnect = false ∧ next.notes.ended = none) ∧
      (after.closed = true → ∃ fault,
        next.notes.ended = some (after.transport.endpoint.port, fault) ∧
          (after.reconnect = true ↔ fault = .brokenPipe)) from
    ⟨present, poller ▸ attached.disarmed, sent.endpoint ▸ attached.known,
      sent.coherent, standing.1, standing.2, found⟩
  rw [notes, sent.endpoint]
  cases fault with
  | none =>
      rcases sent.unharmed rfl with ⟨closed, reconnect⟩
      rw [Notes.hear_same closed, closed, reconnect]
      exact ⟨attached.going, attached.ended⟩
  | some met =>
      rcases sent.harmed met rfl with ⟨going, closed, reconnects⟩
      rcases attached.going going with ⟨waits, noneEnded⟩
      -- The session is over exactly if the fault is fatal, as a broken pipe always is.
      cases fatal : met.isFatal with
      | true =>
          rw [fatal] at closed
          rw [Notes.hear_ended going closed]
          refine ⟨fun still => ?_, fun _ => ⟨met, rfl, reconnects waits⟩⟩
          rw [closed] at still
          cases still
      | false =>
          rw [fatal] at closed
          rw [Notes.hear_same (closed.trans going.symm)]
          refine ⟨fun _ => ⟨Bool.eq_false_iff.mpr fun again => ?_, noneEnded⟩, fun gone => ?_⟩
          · rw [(reconnects waits).mp again] at fatal
            cases fatal
          · rw [closed] at gone
            cases gone

variable [Network κ ω]

theorem Agreed.perform (agreed : Agreed scene finder)
    (attached : Attached scene finder session) (text : String) :
    Agreed (scene.perform text).2 finder := by
  have sent := sent_send attached.coherent text scene.unrecorded
  have present : (scene.perform text).2.gateway.session =
      some (Mailbox.ofSession ((session.send text).run scene.unrecorded).1.2) := by
    simp only [Scene.perform, Gateway.handleText, attached.present]
    rfl
  have notes : (scene.perform text).2.notes =
      scene.notes.hear session ((session.send text).run scene.unrecorded).1.2
        (session.faultOf text scene.unrecorded) := by
    simp only [Scene.perform, Gateway.handleText, attached.present]
    rfl
  refine ⟨agreed.connectors, ?_, .inr ⟨_, attached.hear sent rfl present notes ?_⟩⟩
  · rw [notes, Notes.hear_lastSuccess]
    exact agreed.last
  · intro probed asked closed
    rcases attached.found probed asked closed with ⟨gone, reconnect⟩
    rcases sent.ended gone with ⟨still, same⟩
    exact ⟨still, reconnect.trans same.symm⟩

variable [Host ω]

theorem Agreed.ask (agreed : Agreed scene finder)
    (attached : Attached scene finder session) (idle : scene.probed = none) :
    Agreed scene.stride.2 finder := by
  obtain ⟨sent, closed, reconnect⟩ := sent_probe attached.coherent
    (scene.poller.probePlan session.identity).1 scene.unrecorded
  have strides : scene.stride.2.poller = scene.poller ∧
      scene.stride.2.notes.lastSuccess = scene.notes.lastSuccess := by
    simp only [Scene.stride, idle, attached.present]
    exact ⟨trivial, Notes.hear_lastSuccess _ _ _ _⟩
  refine ⟨?_, ?_, .inr ⟨_, attached.hear sent strides.1 ?_ ?_ ?_⟩⟩
  · rw [strides.1]
    exact agreed.connectors
  · rw [strides.1, strides.2]
    exact agreed.last
  all_goals simp only [Scene.stride, idle, attached.present]
  · rfl
  · rfl
  · intro probed asked gone
    obtain rfl := Option.some.inj asked
    exact ⟨closed ▸ gone, reconnect⟩

/-- After the poller has acted on a probe, the engine is withdrawn or still there. -/
theorem Agreed.act (agreed : Agreed scene finder)
    (attached : Attached scene finder session) {probed : ProbeOutcome × Nat}
    (asked : scene.probed = some probed) : Agreed scene.stride.2 finder := by
  have strides : scene.stride.2 =
      let acted := (scene.poller.act scene.gateway probed).run scene.unrecorded
      { poller := acted.1.poller
        gateway := acted.1.gateway
        probed := none
        world := acted.2.world
        notes := if probed.1.closed then scene.notes.withdrawn else scene.notes } := by
    simp only [Scene.stride, asked]
  rw [strides, Poller.act]
  cases gone : probed.1.closed with
  | true =>
      -- The flag that the probe has brought is still that of the session.
      rcases attached.found probed asked gone with ⟨closed, reconnect⟩
      rcases attached.ended closed with ⟨fault, ended, pipe⟩
      obtain ⟨alone, poller⟩ := scene.poller.withdraw_run scene.gateway
        session.reconnect scene.unrecorded
      have due := Notes.due_withdrawn ended
      simp only [if_true, reconnect]
      refine ⟨?_, ?_, .inl ⟨alone, rfl, ?_, ?_⟩⟩
      · simp only [poller, agreed.connectors]
      · have last : (if session.reconnect then scene.poller.policy.arm
            else scene.poller.policy).last = scene.poller.policy.last := by
          split <;> rfl
        simp only [poller, last]
        exact agreed.last
      · simp only [poller, due]
        by_cases broken : fault = .brokenPipe
        · simp [broken, pipe.mpr broken, Policy.arm]
        · have content : session.reconnect = false :=
            Bool.eq_false_iff.mpr fun again => broken (pipe.mp again)
          simp [broken, content, attached.disarmed]
      · intro port
        simp only [due]
        split
        · intro same
          exact Option.some.inj same ▸ attached.known
        · simp
  | false =>
      simp only [Bool.false_eq_true, if_false, run_pure]
      exact ⟨agreed.connectors, agreed.last, .inr ⟨session, attached.present,
        attached.disarmed, attached.known, attached.coherent, attached.going,
        attached.ended, by simp⟩⟩

end Attached

/-! ## While no engine is attached -/

section Searching

variable {scene next : Scene ω} {calls : List Call} {stamp : Stamp}

/-- The port file has been found, but no engine. -/
theorem Agreed.inVain (agreed : Agreed scene finder) {tried : Finder}
    (seen : Notes.stampIn calls = some stamp)
    (connectors : next.poller.connectors = [tried])
    (policy : next.poller.policy = (scene.poller.policy.judge stamp).2)
    (alone : next.gateway.session = none) (idle : next.probed = none)
    (notes : next.notes = scene.notes.look calls false) : Agreed next tried := by
  have nothingDue : next.notes.due = none := by
    rw [notes, Notes.look, seen]
    simp only [Notes.due, Option.isSome_some, Bool.or_true, if_true]
    split <;> rfl
  refine ⟨connectors, ?_, .inl ⟨alone, idle, ?_, ?_⟩⟩
  · rw [policy, notes]
    exact agreed.last
  · rw [policy, nothingDue]
    simp [Policy.judge]
  · rw [nothingDue]
    simp

/-- An engine has been found. -/
theorem Agreed.found {session : Session Link} {endpoint : Endpoint} {tried : Finder}
    (seen : Notes.stampIn calls = some stamp) (fresh : Fresh session endpoint)
    (known : tried.knownPort = some endpoint.port)
    (connectors : next.poller.connectors = [tried])
    (policy : next.poller.policy =
      (scene.poller.policy.judge stamp).2.recordSuccess stamp)
    (present : next.gateway.session = some (Mailbox.ofSession session))
    (idle : next.probed = none)
    (notes : next.notes = scene.notes.look calls true) : Agreed next tried where
  connectors := connectors
  last := by
    rw [policy, notes, Notes.look, seen]
    rfl
  phase := by
    refine .inr ⟨session, present, ?_, ?_, ?_, fun _ => ⟨fresh.content, ?_⟩, ?_, ?_⟩
    · rw [policy]
      rfl
    · rw [fresh.endpoint]
      exact known
    · intro gone
      rw [fresh.connected] at gone
      cases gone
    · rw [notes]
      rfl
    · intro gone
      rw [fresh.going] at gone
      cases gone
    · simp [idle]

/-- The session that an attempt leads to, if it leads to one. -/
def sessionOf : Attempt Link → Option (Session Link)
  | .ok found => found
  | .error _ => none

theorem sessionOf_eq_none {attempt : Attempt Link}
    (failed : ∀ session, attempt ≠ .ok (some session)) : sessionOf attempt = none := by
  cases attempt with
  | error error => rfl
  | ok found =>
      cases found with
      | none => rfl
      | some session => exact absurd rfl (failed session)

/-- The attempt has tried an endpoint and left the finder with its port. -/
theorem Agreed.tried (agreed : Agreed scene finder) {attempt : Attempt Link}
    {endpoint : Endpoint} {tried : Finder} (leads : LeadsTo attempt endpoint)
    (seen : Notes.stampIn calls = some stamp)
    (known : tried.knownPort = some endpoint.port)
    (connectors : next.poller.connectors = [tried])
    (policy : next.poller.policy = settle scene.poller.policy stamp attempt)
    (session : next.gateway.session = (sessionOf attempt).map Mailbox.ofSession)
    (idle : next.probed = none)
    (notes : next.notes = scene.notes.look calls (sessionOf attempt).isSome) :
    Agreed next tried := by
  cases attempt with
  | error error => exact agreed.inVain seen connectors policy session idle notes
  | ok outcome =>
      cases outcome with
      | none => exact agreed.inVain seen connectors policy session idle notes
      | some found =>
          exact .found seen (leads found rfl) known connectors policy session idle notes

variable [Network κ ω] [Host ω]

/-- A turn without a session is one attempt of the finder. -/
theorem Scene.stride_search (connectors : scene.poller.connectors = [finder])
    (alone : scene.gateway.session = none) (idle : scene.probed = none) :
    let attempt := (finder.discover scene.poller.policy).run scene.unrecorded
    scene.stride.1 = attempt.2.calls ∧
      scene.stride.2.poller.connectors = [attempt.1.2.1] ∧
      scene.stride.2.poller.policy = attempt.1.2.2 ∧
      scene.stride.2.gateway.session =
        (sessionOf attempt.1.1).map Mailbox.ofSession ∧
      scene.stride.2.probed = none ∧
      scene.stride.2.notes =
        scene.notes.look scene.stride.1 (sessionOf attempt.1.1).isSome := by
  simp only [Scene.stride, idle, alone, Poller.turn, Poller.discover, connectors,
    discoverAny, Connector.discover, run_bind]
  cases attempted : ((finder.discover scene.poller.policy).run scene.unrecorded).1.1 with
  | error error =>
      simp only [run_bind, run_pure, sessionOf, alone]
      exact ⟨trivial, trivial, trivial, rfl, trivial, rfl⟩
  | ok outcome =>
      cases outcome with
      | none =>
          simp only [run_bind, run_pure, sessionOf, alone]
          exact ⟨trivial, trivial, trivial, rfl, trivial, rfl⟩
      | some session => exact ⟨rfl, rfl, rfl, rfl, trivial, rfl⟩

/-- What a turn without a session leaves behind agrees again. -/
theorem Agreed.search (agreed : Agreed scene finder) (searching : Searching scene finder) :
    ∃ tried : Finder, tried.file = finder.file ∧ tried.host = finder.host ∧
      Agreed scene.stride.2 tried := by
  obtain ⟨calls, recorded, attempted⟩ :=
    finder.attempted scene.poller.policy scene.unrecorded
  obtain ⟨made, connectors, policy, session, idle, notes⟩ :=
    scene.stride_search agreed.connectors searching.alone searching.idle
  rw [made, recorded] at notes
  generalize (finder.discover scene.poller.policy).run scene.unrecorded = attempt at *
  rcases attempt with ⟨⟨outcome, tried, judged⟩, after⟩
  simp only at attempted connectors policy session notes
  cases attempted with
  | @unseen error _ failed =>
      rw [sessionOf_eq_none failed] at session notes
      have unnoted : scene.stride.2.notes = scene.notes := by
        rw [notes, Notes.look]
        simp [Notes.stampIn, Scene.unrecorded]
      refine ⟨finder, rfl, rfl, connectors, ?_, .inl ⟨session, idle, ?_, ?_⟩⟩
      · rw [policy, unnoted]
        exact agreed.last
      · rw [policy, unnoted]
        exact searching.armed
      · rw [unnoted]
        exact searching.known
  | @skipped stamp skips =>
      exact ⟨finder, rfl, rfl, agreed.inVain rfl connectors policy session idle notes⟩
  | @again stamp port _ forced known leads =>
      exact ⟨finder, rfl, rfl, agreed.tried leads rfl known connectors policy session
        idle notes⟩
  | @unread stamp content error unknown tries names =>
      exact ⟨finder, rfl, rfl, agreed.inVain rfl connectors policy session idle notes⟩
  | @read stamp content port _ unknown tries names leads =>
      exact ⟨{ finder with knownPort := some port }, rfl, rfl,
        agreed.tried leads rfl rfl connectors policy session idle notes⟩

end Searching

/-! ## Every course of things -/

section Run

variable [Network κ ω] [Host ω] {scene : Scene ω}

/-- The notes agree with the programs after everything that may happen. -/
theorem Agreed.step (agreed : Agreed scene finder) (happening : Happening ω) :
    ∃ tried : Finder, tried.file = finder.file ∧ tried.host = finder.host ∧
      Agreed (scene.step happening).2 tried := by
  rcases agreed.phase with searching | ⟨session, attached⟩
  · cases happening with
    | stride => exact agreed.search searching
    | text content =>
        have same : (scene.perform content).2 = scene := by
          simp only [Scene.perform, Gateway.handleText, searching.alone]
          rfl
        refine ⟨finder, rfl, rfl, ?_⟩
        simpa only [Scene.step, same] using agreed
    | peers registry =>
        exact ⟨finder, rfl, rfl, agreed.connectors, agreed.last,
          .inl ⟨searching.alone, searching.idle, searching.armed, searching.known⟩⟩
    | elsewhere change =>
        exact ⟨finder, rfl, rfl, agreed.connectors, agreed.last,
          .inl ⟨searching.alone, searching.idle, searching.armed, searching.known⟩⟩
  · cases happening with
    | stride =>
        refine ⟨finder, rfl, rfl, ?_⟩
        cases asked : scene.probed with
        | none => exact agreed.ask attached asked
        | some probed => exact agreed.act attached asked
    | text content => exact ⟨finder, rfl, rfl, agreed.perform attached content⟩
    | peers registry =>
        exact ⟨finder, rfl, rfl, agreed.connectors, agreed.last,
          .inr ⟨session, attached.present, attached.disarmed, attached.known,
            attached.coherent, attached.going, attached.ended, attached.found⟩⟩
    | elsewhere change =>
        exact ⟨finder, rfl, rfl, agreed.connectors, agreed.last,
          .inr ⟨session, attached.present, attached.disarmed, attached.known,
            attached.coherent, attached.going, attached.ended, attached.found⟩⟩

theorem Agreed.run (agreed : Agreed scene finder) (happenings : List (Happening ω)) :
    ∃ tried : Finder, tried.file = finder.file ∧ tried.host = finder.host ∧
      Agreed (scene.run happenings) tried := by
  induction happenings generalizing scene finder with
  | nil => exact ⟨finder, rfl, rfl, agreed⟩
  | cons happening rest ih =>
      rcases agreed.step happening with ⟨tried, file, host, next⟩
      rcases ih next with ⟨last, lastFile, lastHost, after⟩
      exact ⟨last, lastFile.trans file, lastHost.trans host, after⟩

end Run

/-! ## What a turn without a session does -/

/-- What the calls of a turn without a session are expected to be, behind the one
that found the port file with a stamp.  If the stamp is that of the last success,
the turn makes the attempt that is due, if one is.  Otherwise it reads the file and
tries the port that the file names. -/
def Expected (notes : Notes) (finder : Finder) (stamp : Stamp) (later : List Call) :
    Prop :=
  (notes.lastSuccess = some stamp →
    later = notes.due.toList.map fun port => .connect ⟨finder.host, port⟩) ∧
  (notes.lastSuccess ≠ some stamp →
    ∃ content, later = .content finder.file content ::
      (portOfContent content).toOption.toList.map fun port =>
        .connect ⟨finder.host, port⟩)

section Calls

variable {scene : Scene ω} {stamp : Stamp}

/-- An attempt that the policy forces is due and has a known port. -/
theorem Searching.due_of_forced (searching : Searching scene finder)
    (forced : (scene.poller.policy.judge stamp).1 = .forcedReconnect) :
    ∃ port, scene.notes.due = some port ∧ finder.knownPort = some port := by
  have armed : scene.poller.policy.armed = true := by
    by_cases same : scene.poller.policy.last = some stamp
    · rw [judge_of_same same] at forced
      by_contra disarmed
      simp [disarmed] at forced
    · rw [judge_of_changed same] at forced
      cases forced
  rcases Option.isSome_iff_exists.mp (searching.armed.mp armed) with ⟨port, due⟩
  exact ⟨port, due, searching.known port due⟩

/-- The port file is read only because its stamp has changed. -/
theorem Searching.changed_of_read (searching : Searching scene finder)
    (unknown : (scene.poller.policy.judge stamp).1 = .forcedReconnect →
      finder.knownPort = none)
    (tries : (scene.poller.policy.judge stamp).1 ≠ .skip) :
    scene.poller.policy.last ≠ some stamp := by
  intro same
  rw [judge_of_same same] at unknown tries
  have armed : scene.poller.policy.armed = true := by
    by_contra disarmed
    simp [disarmed] at tries
  have forced : (scene.poller.policy.judge stamp).1 = .forcedReconnect := by
    rw [judge_of_same same, if_pos armed]
  rcases searching.due_of_forced forced with ⟨port, _, known⟩
  rw [unknown (if_pos armed)] at known
  cases known

/-- Every attempt while no engine is attached makes the expected calls. -/
theorem Agreed.expected (agreed : Agreed scene finder)
    (searching : Searching scene finder) {calls : List Call} {outcome : Attempt Link}
    {tried : Finder} {policy : Policy}
    (attempted : finder.Attempted scene.poller.policy calls outcome tried policy) :
    ∃ seen later, calls = .stamp finder.file seen :: later ∧
      (∀ error, seen = .error error → later = []) ∧
      ∀ stamp, seen = .ok stamp → Expected scene.notes finder stamp later := by
  have last := agreed.last
  cases attempted with
  | @unseen error _ _ => exact ⟨_, [], rfl, fun _ _ => rfl, by simp⟩
  | @skipped stamp skips =>
      refine ⟨_, [], rfl, by simp, ?_⟩
      rintro _ ⟨rfl⟩
      have same : scene.poller.policy.last = some stamp := by
        by_contra changed
        rw [judge_of_changed changed] at skips
        cases skips
      have disarmed : scene.poller.policy.armed = false := by
        rw [judge_of_same same] at skips
        by_contra armed
        simp [armed] at skips
      have nothing : scene.notes.due = none := by
        have := searching.armed.not.mp (by simp [disarmed])
        simpa using this
      exact ⟨fun _ => by rw [nothing]; rfl, fun changed => absurd (last ▸ same) changed⟩
  | @again stamp port _ forced known leads =>
      refine ⟨_, [_], rfl, by simp, ?_⟩
      rintro _ ⟨rfl⟩
      rcases searching.due_of_forced forced with ⟨same, due, knownToo⟩
      obtain rfl := Option.some.inj (known.symm.trans knownToo)
      refine ⟨fun _ => by rw [due]; rfl, fun changed => ?_⟩
      rw [judge_of_changed (last ▸ changed)] at forced
      cases forced
  | @unread stamp content error unknown tries names =>
      refine ⟨_, [_], rfl, by simp, ?_⟩
      rintro _ ⟨rfl⟩
      have changed := searching.changed_of_read unknown tries
      refine ⟨fun same => absurd (last.trans same) changed, fun _ => ⟨content, ?_⟩⟩
      rw [names]
      rfl
  | @read stamp content port _ unknown tries names leads =>
      refine ⟨_, [_, _], rfl, by simp, ?_⟩
      rintro _ ⟨rfl⟩
      have changed := searching.changed_of_read unknown tries
      refine ⟨fun same => absurd (last.trans same) changed, fun _ => ⟨content, ?_⟩⟩
      rw [names]
      rfl

/-- Every turn while no engine is attached makes the expected calls. -/
theorem Agreed.turn [Network κ ω] [Host ω] (agreed : Agreed scene finder)
    (searching : Searching scene finder) :
    let turn := (scene.poller.turn scene.gateway).run scene.unrecorded
    ∃ seen later, turn.2.calls = .stamp finder.file seen :: later ∧
      (∀ error, seen = .error error → later = []) ∧
      ∀ stamp, seen = .ok stamp → Expected scene.notes finder stamp later := by
  obtain ⟨calls, recorded, attempted⟩ :=
    finder.attempted scene.poller.policy scene.unrecorded
  obtain ⟨made, _⟩ :=
    scene.stride_search agreed.connectors searching.alone searching.idle
  simp only [Scene.stride, searching.alone, searching.idle] at made
  simp only [made, recorded]
  exact agreed.expected searching attempted

/-- One more attempt is made exactly after a broken pipe.  Whatever has happened,
if no engine is attached now, then a turn begins with the stamp of the port file.
If the file is not found, that is all.  If it is found, then with the stamp of the
last success the turn connects only to the port of the last session, and only if
that session ended with a broken pipe and the file has not been found since; with
another stamp it reads the file instead.  The policy never forces an attempt for
which no port is known. -/
theorem reconnects_after_broken_pipe [Network κ ω] [Host ω] (finder : Finder)
    (probeCommand : String) (pollInterval retryInterval : Nat)
    (registry : Peer.Registry) (world : ω) (happenings : List (Happening ω))
    {scene : Scene ω}
    (reached : (Scene.start finder probeCommand pollInterval retryInterval registry
      world).run happenings = scene)
    (alone : scene.gateway.session = none) :
    (let turn := (scene.poller.turn scene.gateway).run scene.unrecorded
      ∃ seen later, turn.2.calls = .stamp finder.file seen :: later ∧
        (∀ error, seen = .error error → later = []) ∧
        ∀ stamp, seen = .ok stamp → Expected scene.notes finder stamp later) ∧
    ∀ stamp, (scene.poller.policy.judge stamp).1 = .forcedReconnect →
      ∀ tried ∈ scene.poller.connectors, tried.knownPort.isSome = true := by
  obtain ⟨tried, file, host, agreed⟩ := (Agreed.start finder probeCommand pollInterval
    retryInterval registry world).run happenings
  rw [reached] at agreed
  rcases agreed.phase with searching | ⟨session, attached⟩
  · refine ⟨?_, fun stamp forced other listed => ?_⟩
    · have turned := agreed.turn searching
      simp only [Expected, file, host] at turned ⊢
      exact turned
    · rw [agreed.connectors] at listed
      obtain rfl := List.mem_singleton.mp listed
      rcases searching.due_of_forced forced with ⟨port, _, known⟩
      simp [known]
  · rw [attached.present] at alone
    cases alone

end Calls

/-! ## A broken pipe -/

open Rehearsal in
/-- An engine is found, the pipe breaks under the script of a peer, and a probe
finds out. -/
def brokenPipe : List (Happening Machine) :=
  [.stride, .text "outs", .stride, .stride]

open Rehearsal in
/-- An engine behind the port that its port file names.  The second connection to it
breaks. -/
def fragile : Machine where
  port := 5
  version := Text.Utf8.encode "2 286 \"Norn\""
  lines := [.sound, .broken]
  portFile := .content ⟨7, 0⟩ (Text.Utf8.encode "5")

/-- What has become of the fragile engine after its pipe has broken. -/
def afterBreak : Scene Rehearsal.Machine :=
  (Scene.start ⟨"port", .localhost, ⟨1, 1⟩, none⟩ "" 1 1 (Peer.Registry.empty 4)
    fragile).run brokenPipe

theorem reconnects_afterBreak :
    afterBreak.gateway.session = none ∧ afterBreak.notes.due = some 5 ∧
    let turn := (afterBreak.poller.turn afterBreak.gateway).run afterBreak.unrecorded
    ∃ seen later, turn.2.calls = .stamp "port" seen :: later ∧
      ∀ stamp, seen = .ok stamp →
        Expected afterBreak.notes ⟨"port", .localhost, ⟨1, 1⟩, none⟩ stamp later := by
  have alone : afterBreak.gateway.session = none :=
    Option.isNone_iff_eq_none.mp (by decide +kernel)
  obtain ⟨seen, later, calls, _, expected⟩ :=
    (reconnects_after_broken_pipe _ _ _ _ _ _ _ rfl alone).1
  exact ⟨alone, by decide +kernel, seen, later, calls, expected⟩

end EngineGateway
