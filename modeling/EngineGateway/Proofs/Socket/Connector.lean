import EngineGateway.Proofs.Socket.Recording
import EngineGateway.Proofs.Socket.Session

/-!
# One attempt to find an engine

Everything that an attempt of a finder can come to, with the calls that it makes
to the world.  An attempt always begins with the modification time of the port
file.  It connects at most once, and a session that comes out of it is open and
leads to the port that was tried.
-/

namespace EngineGateway.Socket

open Engine Discovery Recorded

/-! ## Fresh sessions -/

/-- The session has just been attached to an endpoint. -/
structure Fresh (session : Session Link) (endpoint : Endpoint) : Prop where
  going : session.closed = false
  content : session.reconnect = false
  endpoint : session.transport.endpoint = endpoint
  connected : session.transport.closed = false

variable {κ ω : Type} [Network κ ω]

theorem fresh_of_attach {link : Link} {session : Session Link} {world : ω}
    (connected : link.closed = false)
    (attached : ((Session.attach link).run world).1 = .ok session) :
    Fresh session link.endpoint := by
  have after := link.sendUnits_snd [Text.CodePage.ofText versionQuery] world
  rw [connected, Bool.false_or] at after
  simp only [Session.attach, Transport.handshake, askVersion, run_bind] at attached
  cases replied : ((link.sendUnits [Text.CodePage.ofText versionQuery]).run world).1.1 with
  | error fault =>
      rw [replied] at attached
      cases attached
  | ok reply =>
      rw [replied] at attached after
      simp only [run_bind, run_pure, after] at attached
      cases identified : Identity.ofVersionReply .socket
          (Text.CodePage.toText reply.content) link.directory with
      | error error =>
          rw [identified] at attached
          cases attached
      | ok identity =>
          rw [identified] at attached
          obtain rfl := Except.ok.inj attached
          exact ⟨rfl, rfl, rfl, rfl⟩

theorem Finder.fresh_of_attach [Host ω] {finder : Finder} {port : Nat} {world : ω}
    {session : Session Link}
    (found : ((finder.attach port).run world).1 = .ok (some session)) :
    Fresh session ⟨finder.host, port⟩ := by
  simp only [Finder.attach, run_bind] at found
  generalize ((directoryOf port).run world) = looked at found
  cases attached : ((Session.attach (⟨⟨finder.host, port⟩, finder.patience, looked.1,
      false⟩ : Link)).run looked.2).1 with
  | ok other =>
      rw [attached] at found
      obtain rfl : other = session := Option.some.inj (Except.ok.inj found)
      exact Socket.fresh_of_attach rfl attached
  | error error =>
      rw [attached] at found
      split at found
      · rename_i contradictory
        cases contradictory
      · cases found
      · cases found
      · cases found

/-! ## The calls of an attempt to attach -/

theorem adds_sendUnit {link : Link} (connected : link.closed = false) (unit : Bytes) :
    Adds (ω := ω) (link.sendUnits [unit]) [.connect link.endpoint] := by
  rw [Link.sendUnits, if_neg (by simp [connected])]
  refine Adds.bind_silent (adds_exchange link.endpoint link.patience unit) fun reply => ?_
  cases reply with
  | error fault => exact .pure _
  | ok content => exact .pure _

theorem adds_sessionAttach {link : Link} (connected : link.closed = false) :
    Adds (ω := ω) (Session.attach link) [.connect link.endpoint] := by
  refine Adds.bind_silent (Adds.bind_silent
    (adds_sendUnit (κ := κ) (ω := ω) connected _) ?_) ?_
  · rintro ⟨reply, after⟩
    cases reply with
    | error fault => exact .pure _
    | ok content => exact .pure _
  · rintro ⟨identity, after⟩
    exact .pure _

variable [Host ω]

theorem adds_directoryOf (port : Nat) : Adds (ω := ω) (directoryOf port) [] := by
  refine Adds.silent_bind (Adds.noting _ _) fun listing => ?_
  cases listing with
  | none => exact .pure _
  | some content =>
      simp only
      split
      · exact .pure _
      · exact Adds.noting _ _

theorem Finder.adds_attach (finder : Finder) (port : Nat) :
    Adds (ω := ω) (finder.attach port) [.connect ⟨finder.host, port⟩] := by
  refine Adds.silent_bind (adds_directoryOf port) fun directory => ?_
  refine Adds.bind_silent (adds_sessionAttach rfl) fun attached => ?_
  cases attached with
  | ok session => exact .pure _
  | error error => split <;> exact .pure _

/-! ## Whole attempts -/

/-- The policy after an attempt that found the port file with a given stamp. -/
def settle (policy : Policy) (stamp : Stamp) : Attempt Link → Policy
  | .ok (some _) => (policy.judge stamp).2.recordSuccess stamp
  | .ok none | .error _ => (policy.judge stamp).2

/-- The sessions that an attempt leads to have just been attached. -/
def LeadsTo (attempt : Attempt Link) (endpoint : Endpoint) : Prop :=
  ∀ session, attempt = .ok (some session) → Fresh session endpoint

/-- What an attempt of a finder can come to: the calls that it makes, its outcome,
and the finder and the policy after it. -/
inductive Finder.Attempted (finder : Finder) (policy : Policy) :
    List Call → Attempt Link → Finder → Policy → Prop where
  /-- The port file has no stamp. -/
  | unseen {error : SystemError} {attempt : Attempt Link} :
      (∀ session, attempt ≠ .ok (some session)) →
      Attempted finder policy [.stamp finder.file (.error error)] attempt finder policy
  /-- Nothing has changed. -/
  | skipped {stamp : Stamp} :
      (policy.judge stamp).1 = .skip →
      Attempted finder policy [.stamp finder.file (.ok stamp)] (.ok none) finder
        (policy.judge stamp).2
  /-- The known port is tried once more. -/
  | again {stamp : Stamp} {port : Nat} {attempt : Attempt Link} :
      (policy.judge stamp).1 = .forcedReconnect → finder.knownPort = some port →
      LeadsTo attempt ⟨finder.host, port⟩ →
      Attempted finder policy
        [.stamp finder.file (.ok stamp), .connect ⟨finder.host, port⟩] attempt finder
        (settle policy stamp attempt)
  /-- The port file is read and names no port. -/
  | unread {stamp : Stamp} {content : Except SystemError Bytes} {error : DiscoveryError} :
      ((policy.judge stamp).1 = .forcedReconnect → finder.knownPort = none) →
      (policy.judge stamp).1 ≠ .skip → portOfContent content = .error error →
      Attempted finder policy
        [.stamp finder.file (.ok stamp), .content finder.file content] (.error error)
        finder (policy.judge stamp).2
  /-- The port file is read, and the port that it names is tried. -/
  | read {stamp : Stamp} {content : Except SystemError Bytes} {port : Nat}
      {attempt : Attempt Link} :
      ((policy.judge stamp).1 = .forcedReconnect → finder.knownPort = none) →
      (policy.judge stamp).1 ≠ .skip → portOfContent content = .ok port →
      LeadsTo attempt ⟨finder.host, port⟩ →
      Attempted finder policy
        [.stamp finder.file (.ok stamp), .content finder.file content,
          .connect ⟨finder.host, port⟩] attempt
        { finder with knownPort := some port } (settle policy stamp attempt)

section Choose

variable {finder : Finder} {recorded : Recorded ω}

theorem Finder.choosePort_again {port : Nat} (known : finder.knownPort = some port) :
    (finder.choosePort .forcedReconnect).run recorded =
      ((.ok (some port), finder), recorded) := by
  simp only [choosePort, known]
  rfl

/-- Reading the port file for the port to try. -/
theorem Finder.choosePort_read {decision : Decision} (tries : decision ≠ .skip)
    (unknown : decision = .forcedReconnect → finder.knownPort = none) :
    (finder.choosePort decision).run recorded =
      let content := (Host.fileContent finder.file).run recorded.world
      ((match portOfContent content.1 with
        | .error error => (.error error, finder)
        | .ok port => (.ok (some port), { finder with knownPort := some port })),
        ⟨content.2, recorded.calls ++ [.content finder.file content.1]⟩) := by
  have reads : finder.choosePort decision = (do
      match portOfContent (← Host.fileContent finder.file) with
      | .error error => return (.error error, finder)
      | .ok port => return (.ok (some port), { finder with knownPort := some port })
      : StateM (Recorded ω) _) := by
    cases decision with
    | skip => exact absurd rfl tries
    | fresh => rfl
    | forcedReconnect =>
        rcases finder with ⟨file, host, patience, known⟩
        obtain rfl : known = none := unknown rfl
        rfl
  rw [reads]
  simp only [run_bind, Host.fileContent, noting_run]
  cases portOfContent ((Host.fileContent finder.file).run recorded.world).1 with
  | error error => rfl
  | ok port => rfl

end Choose

/-- An attempt that ends with trying a port.  The finder that tries the port may
have read it before. -/
theorem Finder.attempted_of_tries {before finder : Finder} {policy : Policy}
    {stamp : Stamp} {port : Nat} {earlier calls : List Call} {recorded : Recorded ω}
    (recent : recorded.calls = earlier ++ calls)
    (attempted : ∀ attempt, LeadsTo attempt ⟨finder.host, port⟩ →
      before.Attempted policy (calls ++ [.connect ⟨finder.host, port⟩]) attempt finder
        (settle policy stamp attempt)) :
    let tried := (do
      match ← finder.attach port with
      | .ok (some session) =>
          return (.ok (some session), finder, (policy.judge stamp).2.recordSuccess stamp)
      | other => return (other, finder, (policy.judge stamp).2)
      : StateM (Recorded ω) (Attempt Link × Finder × Policy)).run recorded
    ∃ calls, tried.2.calls = earlier ++ calls ∧
      before.Attempted policy calls tried.1.1 tried.1.2.1 tried.1.2.2 := by
  have after : ((finder.attach port).run recorded).2.calls =
      earlier ++ (calls ++ [.connect ⟨finder.host, port⟩]) := by
    rw [finder.adds_attach port recorded, recent, List.append_assoc]
  have leads := attempted ((finder.attach port).run recorded).1
    fun session found => Finder.fresh_of_attach found
  simp only [run_bind]
  cases attempt : ((finder.attach port).run recorded).1 with
  | error error =>
      rw [attempt] at leads
      exact ⟨_, after, leads⟩
  | ok found =>
      rw [attempt] at leads
      cases found with
      | none => exact ⟨_, after, leads⟩
      | some session => exact ⟨_, after, leads⟩

/-- Every attempt of a finder is one of those listed. -/
theorem Finder.attempted (finder : Finder) (policy : Policy) (recorded : Recorded ω) :
    let attempt := (finder.discover policy).run recorded
    ∃ calls, attempt.2.calls = recorded.calls ++ calls ∧
      finder.Attempted policy calls attempt.1.1 attempt.1.2.1 attempt.1.2.2 := by
  simp only [Finder.discover, run_bind, Host.fileStamp, noting_run]
  cases ((Host.fileStamp finder.file).run recorded.world).1 with
  | error error =>
      refine ⟨[.stamp finder.file (.error error)], rfl, .unseen fun session => ?_⟩
      simp only [run_pure]
      split <;> simp
  | ok stamp =>
      simp only [run_bind]
      by_cases skips : (policy.judge stamp).1 = .skip
      · simp only [skips]
        exact ⟨[.stamp finder.file (.ok stamp)], rfl, .skipped skips⟩
      by_cases unknown : (policy.judge stamp).1 = .forcedReconnect → finder.knownPort = none
      · rw [Finder.choosePort_read skips unknown]
        generalize (Host.fileContent finder.file : StateM ω _).run _ = content
        simp only
        cases names : portOfContent content.1 with
        | error error =>
            refine ⟨[.stamp finder.file (.ok stamp), .content finder.file content.1], ?_,
              .unread unknown skips names⟩
            exact List.append_assoc _ _ _
        | ok port =>
            exact Finder.attempted_of_tries (List.append_assoc _ _ _)
              fun attempt leads => .read unknown skips names leads
      · rcases Classical.not_imp.mp unknown with ⟨forced, something⟩
        rcases Option.ne_none_iff_exists'.mp something with ⟨port, known⟩
        rw [forced, Finder.choosePort_again known]
        exact Finder.attempted_of_tries rfl
          fun attempt leads => .again forced known leads

end EngineGateway.Socket
