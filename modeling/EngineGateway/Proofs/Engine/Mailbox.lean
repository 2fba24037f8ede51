import EngineGateway.Engine.Mailbox
import EngineGateway.Proofs.Engine.Calls
import Mathlib.Data.List.Basic
import Mathlib.Data.List.Range

/-!
# The mailbox works off errands in order

Any number of requesters and one reader share a mailbox.  However their steps
are interleaved, the answers are those that the errands get when they are
performed one after another in the order in which they entered the mailbox, where
performing an errand means a few calls of the session.  The errands behind the
first shutdown are not performed but turned away.

Requesters are told apart by the order in which they ask: the first errand has
ticket 0, the next one ticket 1.  The world that a transport depends on is
arbitrary, and so is what the transport makes of it.
-/

namespace EngineGateway.Engine

/-- One step of a requester or of the reader. -/
inductive Step where
  | ask (errand : Errand)
  | shutdown
  | work
  deriving Repr, DecidableEq

namespace Step

/-- The letters that a schedule puts into the mailbox, with tickets from `next`
on. -/
def letters (next : Nat) : List Step → List Letter
  | [] => []
  | .ask errand :: rest => .errand next errand :: letters (next + 1) rest
  | .shutdown :: rest => .shutdown :: letters next rest
  | .work :: rest => letters next rest

/-- How many errands a schedule asks for. -/
def asked (steps : List Step) : Nat :=
  steps.countP fun step => step matches .ask _

end Step

namespace Letter

/-- The errands before the first shutdown, with their tickets. -/
def early : List Letter → List (Nat × Errand)
  | .errand ticket request :: rest => (ticket, request) :: early rest
  | [] | .shutdown :: _ => []

/-- The letters behind the first shutdown. -/
def late : List Letter → List Letter
  | [] => []
  | .errand _ _ :: rest => late rest
  | .shutdown :: rest => rest

def ticket? : Letter → Option Nat
  | .errand ticket _ => some ticket
  | .shutdown => none

/-- What requesters are told whose letters come too late. -/
def refusals : Letter → List Ticketed
  | .errand ticket (.send _) => [⟨ticket, .response (.error "Engine is closed.")⟩]
  | .errand ticket (.probe _) => [⟨ticket, .outcome ⟨true, false, none⟩⟩]
  | .shutdown => []

end Letter

variable {σ ω : Type} [Transport σ ω]

/-! ## One errand after another -/

/-- What an errand comes to if only the session is asked: the answer, and the session and
the world afterwards. -/
inductive Session.Does : Session σ → ω → Errand → Answer → Session σ → ω → Prop where
  | sent {session after : Session σ} {world later : ω} {text : String} {response : Response} :
      (session.send text).run world = ((response, after), later) →
      Does session world (.send text) (.response response) after later
  /-- Without a command the session is checked once. -/
  | checked {session after : Session σ} {world later : ω} {command : Option String}
      {gone : Bool} :
      command = none ∨ command = some "" →
      session.isClosed.run world = ((gone, after), later) →
      Does session world (.probe command) (.outcome ⟨gone, after.reconnect, none⟩) after later
  /-- The command is not sent to a session that is over. -/
  | spared {session found after : Session σ} {world between later : ω} {command : String}
      {gone : Bool} :
      command ≠ "" → session.isClosed.run world = ((true, found), between) →
      found.isClosed.run between = ((gone, after), later) →
      Does session world (.probe (some command)) (.outcome ⟨gone, after.reconnect, none⟩)
        after later
  /-- The command is sent, and the session is checked again behind it. -/
  | tried {session found used after : Session σ} {world between told later : ω}
      {command : String} {response : Response} {gone : Bool} :
      command ≠ "" → session.isClosed.run world = ((false, found), between) →
      (found.send command).run between = ((response, used), told) →
      used.isClosed.run told = ((gone, after), later) →
      Does session world (.probe (some command))
        (.outcome ⟨gone, after.reconnect, some response⟩) after later

/-- What errands come to that are done one after another. -/
inductive Session.Runs :
    Session σ → ω → List (Nat × Errand) → List Ticketed → Session σ → ω → Prop where
  | nil {session : Session σ} {world : ω} : Runs session world [] [] session world
  | cons {session middle after : Session σ} {world between later : ω} {ticket : Nat}
      {errand : Errand} {rest : List (Nat × Errand)} {answer : Answer}
      {answers : List Ticketed} :
      session.Does world errand answer middle between →
      Runs middle between rest answers after later →
      Runs session world ((ticket, errand) :: rest) (⟨ticket, answer⟩ :: answers) after later

/-- Perform errands one after another. -/
def Session.performAll (session : Session σ) :
    List (Nat × Errand) → StateM ω (List Ticketed × Session σ)
  | [] => return ([], session)
  | (ticket, errand) :: rest => do
      let (answer, session) ← session.perform errand
      let (answers, session) ← session.performAll rest
      return (⟨ticket, answer⟩ :: answers, session)

/-- The answers to all letters when nobody else has to be waited for: the early
errands are performed one after another and the late ones turned away. -/
def Session.verdicts (session : Session σ) (letters : List Letter) (world : ω) :
    List Ticketed :=
  ((session.performAll (Letter.early letters)).run world).1.1 ++
    (Letter.late letters).flatMap Letter.turnAway

/-- Let requesters and the reader take their steps. -/
def Mailbox.serve (next : Nat) (mailbox : Mailbox σ) :
    List Step → StateM ω (List Ticketed × Mailbox σ)
  | [] => return ([], mailbox)
  | .ask errand :: rest => do
      let (turnedAway, mailbox) := mailbox.post (.errand next errand)
      let (answers, mailbox) ← mailbox.serve (next + 1) rest
      return (turnedAway ++ answers, mailbox)
  | .shutdown :: rest => do
      let (turnedAway, mailbox) := mailbox.post .shutdown
      let (answers, mailbox) ← mailbox.serve next rest
      return (turnedAway ++ answers, mailbox)
  | .work :: rest => do
      let (first, mailbox) ← mailbox.work
      let (answers, mailbox) ← mailbox.serve next rest
      return (first ++ answers, mailbox)

theorem Session.does_perform (session : Session σ) (errand : Errand) (world : ω) :
    let performed := (session.perform errand).run world
    session.Does world errand performed.1.1 performed.1.2 performed.2 := by
  intro performed
  cases errand with
  | send text => exact .sent rfl
  | probe command =>
      cases command with
      | none => exact .checked (.inl rfl) rfl
      | some command =>
          by_cases blank : command = ""
          · subst blank
            exact .checked (.inr rfl) rfl
          · have filled : command.isEmpty = false := by simpa using blank
            rcases asked : session.isClosed.run world with ⟨⟨gone, found⟩, between⟩
            have probed : performed = (session.perform (.probe (some command))).run world := rfl
            simp only [perform, probe, filled, Bool.false_eq_true, if_false, run_bind, run_pure,
              asked] at probed
            cases gone with
            | true =>
                rw [probed]
                exact .spared blank asked rfl
            | false =>
                rw [probed]
                exact .tried blank asked rfl rfl

theorem Session.runs_performAll (session : Session σ) (errands : List (Nat × Errand))
    (world : ω) :
    let performed := (session.performAll errands).run world
    session.Runs world errands performed.1.1 performed.1.2 performed.2 := by
  induction errands generalizing session world with
  | nil => exact .nil
  | cons first rest ih => exact .cons (session.does_perform first.2 world) (ih _ _)

theorem Letter.turnAway_eq (letter : Letter) : letter.turnAway = letter.refusals := by
  rcases letter with ⟨ticket, text | command⟩ | _ <;> rfl

/-! ## Single steps -/

section Steps

variable {session : Session σ} {waiting : List Letter} {world : ω} {next : Nat}
variable {mailbox : Mailbox σ} {rest : List Step}

theorem Session.performAll_cons {ticket : Nat} {errand : Errand}
    {errands : List (Nat × Errand)} :
    (session.performAll ((ticket, errand) :: errands)).run world =
      let performed := (session.perform errand).run world
      let others := (performed.1.2.performAll errands).run performed.2
      ((⟨ticket, performed.1.1⟩ :: others.1.1, others.1.2), others.2) := rfl

theorem Mailbox.work_shutdown {stopped : Bool} :
    (Mailbox.mk session (.shutdown :: waiting) stopped).work.run world =
      ((waiting.flatMap Letter.turnAway, ⟨session, [], true⟩), world) := rfl

theorem Mailbox.work_nil {stopped : Bool} :
    (Mailbox.mk session [] stopped).work.run world =
      (([], ⟨session, [], stopped⟩), world) := rfl

theorem Mailbox.serve_ask {errand : Errand} :
    (mailbox.serve next (.ask errand :: rest)).run world =
      let posted := mailbox.post (.errand next errand)
      let served := (posted.2.serve (next + 1) rest).run world
      ((posted.1 ++ served.1.1, served.1.2), served.2) := rfl

theorem Mailbox.serve_shutdown :
    (mailbox.serve next (.shutdown :: rest)).run world =
      let posted := mailbox.post .shutdown
      let served := (posted.2.serve next rest).run world
      ((posted.1 ++ served.1.1, served.1.2), served.2) := rfl

theorem Mailbox.serve_work :
    (mailbox.serve next (.work :: rest)).run world =
      let worked := mailbox.work.run world
      let served := (worked.1.2.serve next rest).run worked.2
      ((worked.1.1 ++ served.1.1, served.1.2), served.2) := rfl

end Steps

/-! ## Tickets -/

theorem Session.tickets_performAll (session : Session σ) (errands : List (Nat × Errand))
    (world : ω) :
    ((session.performAll errands).run world).1.1.map Ticketed.ticket =
      errands.map Prod.fst := by
  induction errands generalizing session world with
  | nil => rfl
  | cons first rest ih =>
      rw [Session.performAll_cons]
      simp only [List.map_cons, ih]

@[simp] theorem Letter.filterMap_errand (ticket : Nat) (asked : Errand)
    (letters : List Letter) :
    (errand ticket asked :: letters).filterMap ticket? =
      ticket :: letters.filterMap ticket? := rfl

@[simp] theorem Letter.filterMap_shutdown (letters : List Letter) :
    (shutdown :: letters).filterMap ticket? = letters.filterMap ticket? := rfl

theorem Letter.tickets_turnAway (letters : List Letter) :
    (letters.flatMap Letter.turnAway).map Ticketed.ticket =
      letters.filterMap Letter.ticket? := by
  induction letters with
  | nil => rfl
  | cons letter rest ih =>
      cases letter with
      | errand ticket asked =>
          rw [List.flatMap_cons, List.map_append, ih, filterMap_errand]
          rfl
      | shutdown =>
          rw [List.flatMap_cons, List.map_append, ih, filterMap_shutdown]
          rfl

/-- The early errands and the late ones are all there are. -/
theorem Letter.tickets_early_late (letters : List Letter) :
    (early letters).map Prod.fst ++ (late letters).filterMap ticket? =
      letters.filterMap ticket? := by
  induction letters with
  | nil => rfl
  | cons letter rest ih =>
      cases letter with
      | errand ticket asked =>
          rw [filterMap_errand, ← ih]
          rfl
      | shutdown => rfl

/-- Tickets are handed out in the order of asking. -/
theorem Step.tickets_letters (next : Nat) (steps : List Step) :
    (letters next steps).filterMap Letter.ticket? = List.range' next (asked steps) := by
  induction steps generalizing next with
  | nil => rfl
  | cons step rest ih =>
      cases step with
      | ask errand =>
          rw [letters, Letter.filterMap_errand, ih, asked, asked,
            List.countP_cons_of_pos rfl, List.range'_succ]
      | shutdown =>
          rw [letters, Letter.filterMap_shutdown, ih, asked, asked,
            List.countP_cons_of_neg (by simp)]
      | work =>
          rw [letters, ih, asked, asked, List.countP_cons_of_neg (by simp)]

theorem Session.tickets_verdicts (session : Session σ) (letters : List Letter)
    (world : ω) :
    (session.verdicts letters world).map Ticketed.ticket =
      letters.filterMap Letter.ticket? := by
  rw [Session.verdicts, List.map_append, Session.tickets_performAll,
    Letter.tickets_turnAway, Letter.tickets_early_late]

/-! ## Part of the errands -/

/-- Errands do not depend on those behind them. -/
theorem Session.performAll_take (session : Session σ) (errands : List (Nat × Errand))
    (count : Nat) (world : ω) :
    ((session.performAll (errands.take count)).run world).1.1 =
      ((session.performAll errands).run world).1.1.take count := by
  induction errands generalizing session count world with
  | nil => cases count <;> rfl
  | cons first rest ih =>
      cases count with
      | zero => rfl
      | succ count =>
          rw [List.take_succ_cons, Session.performAll_cons, Session.performAll_cons]
          simp only [List.take_succ_cons, ih]

/-- If all letters are early errands, there are no late ones. -/
theorem Letter.late_eq_nil {letters : List Letter}
    (all : letters.length ≤ (early letters).length) : late letters = [] := by
  induction letters with
  | nil => rfl
  | cons letter rest ih =>
      cases letter with
      | errand ticket asked => exact ih (by simpa [early] using all)
      | shutdown => simp [early] at all

theorem Letter.length_early_le (letters : List Letter) :
    (early letters).length ≤ letters.length := by
  induction letters with
  | nil => exact Nat.le_refl 0
  | cons letter rest ih =>
      cases letter with
      | errand ticket asked => exact Nat.succ_le_succ ih
      | shutdown => exact Nat.zero_le _

/-! ## Schedules -/

/-- A mailbox that has stopped turns everything away. -/
theorem Mailbox.serve_stopped (session : Session σ) (next : Nat) (steps : List Step)
    (world : ω) :
    ((Mailbox.mk session [] true).serve next steps).run world =
      (((Step.letters next steps).flatMap Letter.turnAway, ⟨session, [], true⟩), world) := by
  induction steps generalizing next with
  | nil => rfl
  | cons step rest ih =>
      cases step with
      | ask errand =>
          simp only [serve_ask, post, if_true, ih, Step.letters, List.flatMap_cons]
      | shutdown =>
          simp only [serve_shutdown, post, if_true, ih, Step.letters, List.flatMap_cons]
      | work =>
          simp only [serve_work, work_nil, ih, Step.letters, List.nil_append]

/-- What has become of a mailbox into which letters have been put: the first
`done` errands have been performed, the other letters still wait or, after a
shutdown, have been turned away. -/
structure Mailbox.Served (session : Session σ) (world : ω) (letters : List Letter)
    (done : Nat) (served : (List Ticketed × Mailbox σ) × ω) : Prop where
  within : done ≤ (Letter.early letters).length
  performed : (served.1.2.session, served.2) =
    let sequential :=
      (session.performAll ((Letter.early letters).take done)).run world
    (sequential.1.2, sequential.2)
  waits : served.1.2.stopped = false →
    served.1.1 =
      ((session.performAll ((Letter.early letters).take done)).run world).1.1 ∧
    served.1.2.waiting = letters.drop done
  stops : served.1.2.stopped = true →
    done = (Letter.early letters).length ∧
    served.1.1 = session.verdicts letters world

/-- The first of the letters is performed, the others later. -/
theorem Mailbox.Served.cons {session : Session σ} {world : ω} {letters : List Letter}
    {ticket : Nat} {errand : Errand} {done : Nat}
    {served : (List Ticketed × Mailbox σ) × ω}
    (later : Mailbox.Served ((session.perform errand).run world).1.2
      ((session.perform errand).run world).2 letters done served) :
    Mailbox.Served session world (.errand ticket errand :: letters) (done + 1)
      ((⟨ticket, ((session.perform errand).run world).1.1⟩ :: served.1.1, served.1.2),
        served.2) where
  within := Nat.succ_le_succ later.within
  performed := later.performed
  waits going := by
    rcases later.waits going with ⟨answers, waiting⟩
    exact ⟨congrArg (List.cons _) answers, waiting⟩
  stops stopped := by
    rcases later.stops stopped with ⟨all, answers⟩
    exact ⟨congrArg Nat.succ all, congrArg (List.cons _) answers⟩

theorem Mailbox.serve_served (session : Session σ) (waiting : List Letter) (next : Nat)
    (steps : List Step) (world : ω) :
    ∃ done, Mailbox.Served session world (waiting ++ Step.letters next steps) done
      (((Mailbox.mk session waiting false).serve next steps).run world) := by
  -- A requester moves a letter from the schedule to the end of those that wait, so
  -- the letters as a whole stay the same until the reader takes the first one away.
  induction steps generalizing session waiting next world with
  | nil =>
      refine ⟨0, Nat.zero_le _, rfl, fun _ => ⟨rfl, ?_⟩, fun stopped => ?_⟩
      · exact (List.append_nil waiting).symm
      · exact absurd stopped Bool.false_ne_true
  | cons step rest ih =>
      cases step with
      | ask errand =>
          have later := ih session (waiting ++ [.errand next errand]) (next + 1) world
          rw [List.append_assoc] at later
          exact later
      | shutdown =>
          have later := ih session (waiting ++ [.shutdown]) next world
          rw [List.append_assoc] at later
          exact later
      | work =>
          cases waiting with
          | nil => exact ih session [] next world
          | cons letter waiting =>
              cases letter with
              | errand ticket asked =>
                  obtain ⟨done, later⟩ := ih ((session.perform asked).run world).1.2
                    waiting next ((session.perform asked).run world).2
                  exact ⟨done + 1, later.cons⟩
              | shutdown =>
                  refine ⟨0, Nat.zero_le _, ?_, ?_, ?_⟩
                  all_goals rw [serve_work, work_shutdown]; simp only [serve_stopped]
                  · rfl
                  · simp
                  · intro _
                    refine ⟨rfl, ?_⟩
                    rw [← List.flatMap_append]
                    rfl

/-- Everybody is answered once the mailbox has stopped or nothing waits in it. -/
theorem Mailbox.Served.answers_eq {session : Session σ} {world : ω}
    {letters : List Letter} {done : Nat} {served : (List Ticketed × Mailbox σ) × ω}
    (known : Mailbox.Served session world letters done served)
    (settled : served.1.2.stopped = true ∨ served.1.2.waiting = []) :
    served.1.1 = session.verdicts letters world := by
  cases stopped : served.1.2.stopped with
  | true => exact (known.stops stopped).2
  | false =>
      rcases known.waits stopped with ⟨answers, waiting⟩
      have nothing : letters.drop done = [] := by
        rw [← waiting]
        exact settled.resolve_left (by simp [stopped])
      have all : letters.length ≤ done := List.drop_eq_nil_iff.mp nothing
      have noneLate := Letter.late_eq_nil (Nat.le_trans all known.within)
      have taken : (Letter.early letters).take done = Letter.early letters :=
        List.take_of_length_le (Nat.le_trans (Letter.length_early_le letters) all)
      rw [answers, taken, Session.verdicts, noneLate, List.flatMap_nil, List.append_nil]

/-- The answers given so far are the first ones. -/
theorem Mailbox.Served.answers_prefix {session : Session σ} {world : ω}
    {letters : List Letter} {done : Nat} {served : (List Ticketed × Mailbox σ) × ω}
    (known : Mailbox.Served session world letters done served) :
    served.1.1 <+: session.verdicts letters world := by
  cases stopped : served.1.2.stopped with
  | true =>
      rcases known.stops stopped with ⟨_, all⟩
      exact all ▸ List.prefix_refl _
  | false =>
      rw [(known.waits stopped).1, Session.performAll_take]
      exact (List.take_prefix _ _).trans (List.prefix_append _ _)

/-- The errands that have been performed are as many of the early ones as have
been answered. -/
theorem Mailbox.Served.take_answers {session : Session σ} {world : ω}
    {letters : List Letter} {done : Nat} {served : (List Ticketed × Mailbox σ) × ω}
    (known : Mailbox.Served session world letters done served) :
    (Letter.early letters).take served.1.1.length = (Letter.early letters).take done := by
  have sequential (count : Nat) :
      ((session.performAll ((Letter.early letters).take count)).run world).1.1.length =
        ((Letter.early letters).take count).length := by
    have tickets := Session.tickets_performAll session
      ((Letter.early letters).take count) world
    simpa using congrArg List.length tickets
  cases stopped : served.1.2.stopped with
  | true =>
      rcases known.stops stopped with ⟨all, answers⟩
      have enough : (Letter.early letters).length ≤ served.1.1.length := by
        have whole := sequential (Letter.early letters).length
        rw [List.take_length] at whole
        rw [answers, Session.verdicts, List.length_append, whole]
        exact Nat.le_add_right _ _
      rw [List.take_of_length_le enough, all, List.take_length]
  | false =>
      rw [(known.waits stopped).1, sequential, List.length_take_of_le known.within]

/-! ## The reader keeps up -/

theorem Mailbox.serve_append (mailbox : Mailbox σ) (next : Nat) (steps more : List Step)
    (world : ω) :
    (mailbox.serve next (steps ++ more)).run world =
      let first := (mailbox.serve next steps).run world
      let second := (first.1.2.serve (next + Step.asked steps) more).run first.2
      ((first.1.1 ++ second.1.1, second.1.2), second.2) := by
  induction steps generalizing mailbox next world with
  | nil => rfl
  | cons step rest ih =>
      cases step with
      | ask errand =>
          have count : next + 1 + Step.asked rest =
              next + Step.asked (.ask errand :: rest) := by
            rw [Step.asked, Step.asked, List.countP_cons_of_pos rfl]
            omega
          simp only [List.cons_append, serve_ask, ih, List.append_assoc, count]
      | shutdown =>
          have count : Step.asked (.shutdown :: rest) = Step.asked rest :=
            List.countP_cons_of_neg (by simp)
          simp only [List.cons_append, serve_shutdown, ih, List.append_assoc, count]
      | work =>
          have count : Step.asked (.work :: rest) = Step.asked rest :=
            List.countP_cons_of_neg (by simp)
          simp only [List.cons_append, serve_work, ih, List.append_assoc, count]

theorem Step.letters_append_work (next : Nat) (steps : List Step) (more : Nat) :
    letters next (steps ++ List.replicate more .work) = letters next steps := by
  induction steps generalizing next with
  | nil =>
      induction more with
      | zero => rfl
      | succ more ih => exact ih
  | cons step rest ih => cases step <;> simp [letters, ih]

/-- A reader that takes a step for every letter comes to the end. -/
theorem Mailbox.serve_works (mailbox : Mailbox σ) (next more : Nat) (world : ω)
    (enough : mailbox.waiting.length ≤ more) :
    let served := (mailbox.serve next (List.replicate more .work)).run world
    served.1.2.stopped = true ∨ served.1.2.waiting = [] := by
  induction more generalizing mailbox world with
  | zero =>
      have nothing : mailbox.waiting = [] := by simpa using enough
      exact .inr nothing
  | succ more ih =>
      rcases mailbox with ⟨session, waiting, stopped⟩
      rw [List.replicate_succ]
      cases waiting with
      | nil => exact ih ⟨session, [], stopped⟩ world (Nat.zero_le _)
      | cons letter waiting =>
          cases letter with
          | errand ticket asked =>
              exact ih ⟨_, waiting, stopped⟩ _ (Nat.le_of_succ_le_succ enough)
          | shutdown =>
              rw [serve_work, work_shutdown]
              simp only [serve_stopped]
              exact .inl trivial

/-! ## Every schedule -/

/-- Whatever the schedule, every errand has one verdict, which goes to its own requester: the
verdicts of the early errands are what the session answers if they are done one after another,
and the late ones are told that the engine is closed.  The answers given are the first of the
verdicts, and all of them as soon as the mailbox has stopped or nothing waits in it any more,
which the reader brings about if it is only left to work.  The session and the world are those
after doing the answered early errands, so the late errands have not touched them. -/
theorem serve_linearizes (session : Session σ) (steps : List Step) (world : ω) :
    let served := ((Mailbox.ofSession session).serve 0 steps).run world
    let answers := served.1.1
    let mailbox := served.1.2
    let early := Letter.early (Step.letters 0 steps)
    let late := Letter.late (Step.letters 0 steps)
    ∃ told last later, session.Runs world early told last later ∧
      let verdicts := told ++ late.flatMap Letter.refusals
      verdicts.map Ticketed.ticket = List.range (Step.asked steps) ∧
      answers <+: verdicts ∧
      (mailbox.stopped = true ∨ mailbox.waiting = [] → answers = verdicts) ∧
      session.Runs world (early.take answers.length) (told.take answers.length)
        mailbox.session served.2 ∧
      ∀ more, mailbox.waiting.length ≤ more →
        (((Mailbox.ofSession session).serve 0
          (steps ++ List.replicate more .work)).run world).1.1 = verdicts := by
  intro served answers mailbox early late
  obtain ⟨done, known⟩ := Mailbox.serve_served session [] 0 steps world
  refine ⟨_, _, _, session.runs_performAll early world, ?_⟩
  have verdicts : session.verdicts (Step.letters 0 steps) world =
      ((session.performAll early).run world).1.1 ++ late.flatMap Letter.refusals :=
    congrArg (_ ++ ·) (List.flatMap_congr fun letter _ => letter.turnAway_eq)
  rw [← verdicts]
  refine ⟨?_, known.answers_prefix, known.answers_eq, ?_, fun more enough => ?_⟩
  · rw [Session.tickets_verdicts, Step.tickets_letters, List.range_eq_range']
  · have performed := Prod.mk.inj known.performed
    rw [← known.take_answers] at performed
    have reached : mailbox.session =
          ((session.performAll (early.take answers.length)).run world).1.2 ∧
        served.2 = ((session.performAll (early.take answers.length)).run world).2 := performed
    rw [← Session.performAll_take, reached.1, reached.2]
    exact session.runs_performAll _ world
  · obtain ⟨whole, settled⟩ := Mailbox.serve_served session [] 0
      (steps ++ List.replicate more .work) world
    rw [Step.letters_append_work] at settled
    refine settled.answers_eq ?_
    rw [Mailbox.serve_append]
    exact Mailbox.serve_works _ _ more _ enough

/-- A session whose second script meets a broken pipe. -/
def touchy : Session Foretold :=
  .foretold none [.ok (.text [0x6F, 0x6B]), .error .brokenPipe]

/-- Two requesters come early and two come late; the reader works in between. -/
def crowdedMorning : List Step :=
  [.ask (.send "outs 1"), .ask (.probe (some "outs 2")), .work, .ask (.probe none), .shutdown,
    .ask (.send "outs 3"), .work, .work, .work, .ask (.probe none)]

/-- The early errands are answered as the session answers them one after another, the late
ones with the news that the engine is closed. -/
theorem serve_linearizes_crowdedMorning :
    let served := ((Mailbox.ofSession touchy).serve 0 crowdedMorning).run ()
    let told : List Ticketed := [⟨0, .response (.text "ok")⟩,
      ⟨1, .outcome ⟨true, true, some (.error "Connection reset by peer")⟩⟩,
      ⟨2, .outcome ⟨true, true, none⟩⟩]
    served.1.1 = told ++ [⟨3, .response (.error "Engine is closed.")⟩,
      ⟨4, .outcome ⟨true, false, none⟩⟩] ∧
    touchy.Runs () [(0, .send "outs 1"), (1, .probe (some "outs 2")), (2, .probe none)] told
      served.1.2.session served.2 := by
  -- With the names of the statement left in, comparing terms would run the mailbox.
  dsimp only
  have stopped : (((Mailbox.ofSession touchy).serve 0 crowdedMorning).run ()).1.2.stopped =
      true := by decide +kernel
  have answered : (((Mailbox.ofSession touchy).serve 0 crowdedMorning).run ()).1.1 =
      [⟨0, .response (.text "ok")⟩,
        ⟨1, .outcome ⟨true, true, some (.error "Connection reset by peer")⟩⟩,
        ⟨2, .outcome ⟨true, true, none⟩⟩] ++
      [⟨3, .response (.error "Engine is closed.")⟩, ⟨4, .outcome ⟨true, false, none⟩⟩] := by
    decide +kernel
  obtain ⟨told, last, later, _, _, _, settled, runs, _⟩ :=
    serve_linearizes touchy crowdedMorning ()
  have same := List.append_cancel_right (answered.symm.trans (settled (.inl stopped)))
  rw [← same, answered] at runs
  exact ⟨answered, runs⟩

end EngineGateway.Engine
