import EngineGateway.Proofs.Server.Turns
import Mathlib.Data.List.Range

/-!
# What becomes of an errand

Every errand is posted once, under a ticket of its own, to one session.  Until it is
answered it lies in the mailbox of that session and in no other, even if the session
has been withdrawn meanwhile.  An answer with its ticket is what the session makes of
it, or the news that the session has stopped.
-/

namespace EngineGateway.Server

open Engine Peer Gateway

variable {σ ω : Type}

/-- The errand waits in the mailbox of a session. -/
def Lies (server : Server σ) (session ticket : Nat) (errand : Errand) : Prop :=
  ∃ mailbox, server.mailbox? session = some mailbox ∧ .errand ticket errand ∈ mailbox.waiting

section Mailboxes

variable {server : Server σ} {session : Nat}

theorem mailbox?_setMailbox {old : Mailbox σ} (found : server.mailbox? session = some old)
    (mailbox : Mailbox σ) (other : Nat) :
    (server.setMailbox session mailbox).mailbox? other =
      if other = session then some mailbox else server.mailbox? other := by
  by_cases current : session = server.retired.length
  · simp only [setMailbox, mailbox?, current]
    split_ifs <;> rfl
  · rw [mailbox?, if_neg current] at found
    have bound : session < server.retired.length := (List.getElem?_eq_some_iff.mp found).1
    simp only [setMailbox, if_neg current, mailbox?, List.length_set, List.getElem?_set]
    by_cases same : other = session
    · subst same
      rw [if_neg current, if_pos rfl, if_pos bound, if_pos rfl]
    · rw [if_neg same]
      simp only [Ne.symm same, if_false]

theorem nextTicket_setMailbox (server : Server σ) (session : Nat) (mailbox : Mailbox σ) :
    (server.setMailbox session mailbox).nextTicket = server.nextTicket := by
  unfold setMailbox
  split_ifs <;> rfl

/-- The session that is attached gets a number of its own, and the mailboxes before it
keep theirs. -/
theorem mailbox?_of_retired (next : Server σ) {current : Option (Mailbox σ)}
    (retired : next.retired = server.retired ++ server.gateway.session.toList)
    (attached : next.gateway.session = current) (other : Nat) :
    next.mailbox? other = server.mailbox? other ∨ next.mailbox? other = current := by
  cases held : server.gateway.session with
  | none =>
      have same : next.retired = server.retired := by
        rw [retired, held, Option.toList_none, List.append_nil]
      unfold mailbox?
      rw [same, attached, held]
      by_cases last : other = server.retired.length
      · exact .inr (if_pos last)
      · rw [if_neg last]
        exact .inl (if_neg last).symm
  | some mailbox =>
      have longer : next.retired = server.retired ++ [mailbox] := by
        rw [retired, held, Option.toList_some]
      unfold mailbox?
      rw [longer, attached, held, List.length_append, List.length_singleton]
      by_cases beyond : other = server.retired.length + 1
      · exact .inr (if_pos beyond)
      · rw [if_neg beyond]
        by_cases last : other = server.retired.length
        · rw [if_pos last, last]
          exact .inl (by simp)
        · rw [if_neg last]
          refine .inl ?_
          by_cases before : other < server.retired.length
          · exact List.getElem?_append_left before
          · rw [List.getElem?_eq_none (by simp; omega), List.getElem?_eq_none (by omega)]

end Mailboxes

namespace Moment

variable [Transport σ ω]

/-- How the errand with a ticket is answered by its session in a moment. -/
inductive Settles (moment : Moment σ ω) (session ticket : Nat) (errand : Errand) :
    Engine.Answer → Prop where
  /-- It is first in the mailbox, and the session performs it. -/
  | performs {mailbox : Mailbox σ} {rest : List Letter} :
      moment.event = .works session → moment.before.mailbox? session = some mailbox →
      mailbox.waiting = .errand ticket errand :: rest →
      Settles moment session ticket errand
        ((mailbox.session.perform errand).run moment.world).1.1
  /-- A shutdown is met before it. -/
  | turnsAway {mailbox : Mailbox σ} {rest : List Letter} :
      moment.event = .works session → moment.before.mailbox? session = some mailbox →
      mailbox.waiting = .shutdown :: rest → .errand ticket errand ∈ rest →
      Settles moment session ticket errand errand.closedAnswer
  /-- A shutdown has been met before it was posted. -/
  | refuses {mailbox : Mailbox σ} {sender : Option PeerId} :
      moment.posting? = some ⟨ticket, sender, session, errand⟩ →
      moment.before.mailbox? session = some mailbox → mailbox.stopped = true →
      Settles moment session ticket errand errand.closedAnswer

/-- What a moment does with letters. -/
structure Exchanges (moment : Moment σ ω) : Prop where
  numbered : moment.posting?.toList.map Posting.ticket =
    List.range' moment.before.nextTicket moment.posting?.toList.length
  next : moment.after.nextTicket = moment.before.nextTicket + moment.posting?.toList.length
  lies : ∀ session ticket errand, moment.after.Lies session ticket errand →
    moment.before.Lies session ticket errand ∨
      ∃ sender, moment.posting? = some ⟨ticket, sender, session, errand⟩
  settles : ∀ ticket answer, ⟨ticket, answer⟩ ∈ moment.trace.answers →
    ∃ session errand, moment.Settles session ticket errand answer

section Exchanges

variable {moment : Moment σ ω} {session : Nat} {mailbox : Mailbox σ}

/-- Nothing is posted or answered, and mailboxes stay as they are or are new. -/
theorem Exchanges.idle (mute : moment.posting? = none)
    (next : moment.after.nextTicket = moment.before.nextTicket)
    (answers : moment.trace.answers = [])
    (mailboxes : ∀ session, moment.after.mailbox? session = moment.before.mailbox? session ∨
      ∀ mailbox, moment.after.mailbox? session = some mailbox → mailbox.waiting = []) :
    moment.Exchanges := by
  refine ⟨?_, ?_, ?_, ?_⟩
  · rw [mute]
    rfl
  · rw [mute, next]
    rfl
  · rintro session ticket errand ⟨mailbox, found, waits⟩
    rcases mailboxes session with same | empty
    · rw [same] at found
      exact .inl ⟨mailbox, found, waits⟩
    · rw [empty mailbox found] at waits
      cases waits
  · intro ticket answer answered
    rw [answers] at answered
    cases answered

/-- The registry changes, and peers are told. -/
theorem Exchanges.told {server : Server σ} {world : ω} {event : Event σ} {registry : Registry}
    {effects : Effects} (mute : server.posting? event = none) :
    Exchanges ⟨server, world, event, ((server.withRegistry registry).spread effects).1,
      ((server.withRegistry registry).spread effects).2⟩ :=
  .idle mute rfl rfl fun _ => .inl rfl

/-- A letter is put into a mailbox. -/
theorem Exchanges.post (letter : Letter) (found : moment.before.mailbox? session = some mailbox)
    (mailboxes : ∀ other, moment.after.mailbox? other =
      if other = session then some (mailbox.post letter).2 else moment.before.mailbox? other)
    (answers : moment.trace.answers = (mailbox.post letter).1)
    (numbered : moment.posting?.toList.map Posting.ticket =
      List.range' moment.before.nextTicket moment.posting?.toList.length)
    (next : moment.after.nextTicket = moment.before.nextTicket + moment.posting?.toList.length)
    (carries : ∀ ticket errand, letter = .errand ticket errand →
      ∃ sender, moment.posting? = some ⟨ticket, sender, session, errand⟩) :
    moment.Exchanges := by
  refine ⟨numbered, next, ?_, ?_⟩
  · rintro other ticket errand ⟨kept, present, waits⟩
    rw [mailboxes] at present
    split_ifs at present with same
    · cases present
      subst same
      unfold Mailbox.post at waits
      split_ifs at waits
      · exact .inl ⟨mailbox, found, waits⟩
      · rcases List.mem_append.mp waits with before | new
        · exact .inl ⟨mailbox, found, before⟩
        · exact .inr (carries ticket errand (List.mem_singleton.mp new).symm)
    · exact .inl ⟨kept, present, waits⟩
  · intro ticket answer answered
    rw [answers, Mailbox.post] at answered
    split_ifs at answered with stopped
    · cases letter with
      | shutdown => cases answered
      | errand asked errand =>
          rcases carries asked errand rfl with ⟨sender, posts⟩
          cases List.mem_singleton.mp answered
          exact ⟨session, errand, .refuses posts found stopped⟩
    · cases answered

/-- An errand is posted by a server that may have changed its tasks before. -/
theorem Exchanges.postErrand (server : Server σ) (sender : Option PeerId) {errand : Errand}
    (found : moment.before.mailbox? session = some mailbox)
    (posts : moment.posting? = some ⟨server.nextTicket, sender, session, errand⟩)
    (same : ∀ other, server.mailbox? other = moment.before.mailbox? other)
    (ticket : server.nextTicket = moment.before.nextTicket)
    (trace : moment.trace = (server.postErrand session mailbox errand).1)
    (after : moment.after = (server.postErrand session mailbox errand).2) :
    moment.Exchanges := by
  have held : { server with nextTicket := server.nextTicket + 1 }.mailbox? session =
      some mailbox := (same session).trans found
  have later : moment.after.nextTicket = server.nextTicket + 1 := by
    rw [after]
    exact nextTicket_setMailbox _ _ _
  refine .post (.errand server.nextTicket errand) found ?_ (by rw [trace]; rfl) ?_ ?_ ?_
  · intro other
    rw [after, ← same other]
    exact mailbox?_setMailbox held _ other
  · rw [posts, ← ticket]
    rfl
  · rw [posts, later, ticket]
    rfl
  · intro given asked letter
    cases letter
    exact ⟨sender, posts⟩

/-- The first letter to a session is worked off. -/
theorem Exchanges.work (works : moment.event = .works session)
    (found : moment.before.mailbox? session = some mailbox)
    (mailboxes : ∀ other, moment.after.mailbox? other =
      if other = session then some (mailbox.work.run moment.world).1.2
      else moment.before.mailbox? other)
    (answers : moment.trace.answers = (mailbox.work.run moment.world).1.1)
    (next : moment.after.nextTicket = moment.before.nextTicket) : moment.Exchanges := by
  have mute : moment.posting? = none := by
    rw [posting?, works]
    rfl
  refine ⟨by rw [mute]; rfl, by rw [mute, next]; rfl, ?_, ?_⟩
  · rintro other ticket errand ⟨kept, present, waits⟩
    rw [mailboxes] at present
    split_ifs at present with same
    · cases present
      subst same
      refine .inl ⟨mailbox, found, ?_⟩
      rcases mailbox with ⟨inner, waiting, stopped⟩
      cases waiting with
      | nil => exact waits
      | cons letter rest =>
          cases letter with
          | shutdown => cases waits
          | errand asked first => exact .tail _ waits
    · exact .inl ⟨kept, present, waits⟩
  · intro ticket answer answered
    rw [answers] at answered
    rcases mailbox with ⟨inner, waiting, stopped⟩
    cases waiting with
    | nil => cases answered
    | cons letter rest =>
        cases letter with
        | shutdown =>
            rcases List.mem_flatMap.mp answered with ⟨letter, behind, turned⟩
            cases letter with
            | shutdown => cases turned
            | errand asked errand =>
                cases List.mem_singleton.mp turned
                exact ⟨session, errand, .turnsAway works found rfl behind⟩
        | errand asked errand =>
            cases List.mem_singleton.mp answered
            exact ⟨session, errand, .performs works found rfl⟩

end Exchanges
end Moment

/-- Whatever an event comes to, letters are posted and answered one by one. -/
theorem exchanges_of_steps [Transport σ ω] {server : Server σ} {world : ω} {event : Event σ}
    {result : Trace × Server σ} (steps : Steps server world event result) :
    Moment.Exchanges ⟨server, world, event, result.1, result.2⟩ := by
  cases steps with
  | idles _ mute => exact .idle mute rfl rfl fun _ => .inl rfl
  | knocks knock => exact .idle rfl rfl rfl fun _ => .inl rfl
  | opens _ _ => exact .idle rfl rfl rfl fun _ => .inl rfl
  | fails _ _ => exact .idle rfl rfl rfl fun _ => .inl rfl
  | takesText _ _ _ => exact .idle rfl rfl rfl fun _ => .inl rfl
  | takesBinary _ _ _ => exact .idle rfl rfl rfl fun _ => .inl rfl
  | @submits task session text mailbox found holding present =>
      refine .postErrand (server.awaiting task.peer) (some task.peer) present ?_ (fun _ => rfl)
        rfl rfl rfl
      simp [Moment.posting?, posting?, awaiting, updateTask, found, holding, present]
  | replies _ _ => exact .idle rfl rfl rfl fun _ => .inl rfl
  | hearsEnd _ _ _ => exact .idle rfl rfl rfl fun _ => .inl rfl
  | writes _ _ _ => exact .idle rfl rfl rfl fun _ => .inl rfl
  | breaksOff _ _ => exact .idle rfl rfl rfl fun _ => .inl rfl
  | endsWriting _ own =>
      refine .idle ?_ rfl rfl fun _ => .inl rfl
      rcases own with rfl | rfl <;> rfl
  | finishes _ _ => exact .idle rfl rfl rfl fun _ => .inl rfl
  | works found =>
      exact .work rfl found (mailbox?_setMailbox found _) rfl (nextTicket_setMailbox _ _ _)
  | asks found =>
      refine .postErrand server none found ?_ (fun _ => rfl) rfl rfl rfl
      simp [Moment.posting?, posting?, found]
  | shutsDown found =>
      refine .post .shutdown found (mailbox?_setMailbox found _) rfl rfl ?_
        fun _ _ letter => by cases letter
      exact nextTicket_setMailbox _ _ _
  | publishes session =>
      refine .idle rfl rfl rfl fun other => ?_
      rcases mailbox?_of_retired (server.publish session) rfl rfl other with same | new
      · exact .inl same
      · refine .inr fun mailbox found => ?_
        cases new.symm.trans found
        rfl
  | withdraws =>
      refine .idle rfl rfl rfl fun other => ?_
      rcases mailbox?_of_retired server.withdraw rfl rfl other with same | gone
      · exact .inl same
      · refine .inr fun mailbox found => ?_
        cases gone.symm.trans found
  | announces _ => exact .told rfl
  | parts => exact .told rfl
  | follows _ => exact .told rfl
  | collects => exact .idle rfl rfl rfl fun _ => .inl rfl

/-! ## The errands of a history -/

/-- The errands that have been posted. -/
def postings (moments : List (Moment σ ω)) : List Posting :=
  moments.filterMap Moment.posting?

/-- Errands have been numbered, and those that wait have been posted. -/
structure Filed (past : List (Moment σ ω)) (server : Server σ) : Prop where
  numbered : (postings past).map Posting.ticket = List.range server.nextTicket
  posted : ∀ session ticket errand, server.Lies session ticket errand →
    ∃ sender, ⟨ticket, sender, session, errand⟩ ∈ postings past

theorem postings_append (past : List (Moment σ ω)) (moment : Moment σ ω) :
    postings (past ++ [moment]) = postings past ++ moment.posting?.toList := by
  rw [postings, List.filterMap_append, List.filterMap_cons]
  cases moment.posting? <;> rfl

theorem mem_postings_last (past : List (Moment σ ω)) {moment : Moment σ ω} {posting : Posting}
    (posts : moment.posting? = some posting) : posting ∈ postings (past ++ [moment]) := by
  rw [postings_append, posts]
  exact List.mem_append_right _ (.head _)

theorem postings_subset {early late : List (Moment σ ω)} (subset : early ⊆ late) :
    postings early ⊆ postings late :=
  List.filterMap_subset _ subset

theorem filed_empty (maxPeers : Nat) (trustsForwarded : Bool) :
    Filed ([] : List (Moment σ ω)) (empty maxPeers trustsForwarded) where
  numbered := rfl
  posted session ticket errand lies := by
    rcases lies with ⟨mailbox, found, _⟩
    unfold mailbox? at found
    split_ifs at found <;> cases found

namespace Filed

variable {past : List (Moment σ ω)} {server : Server σ}

/-- No two errands have the same ticket. -/
theorem nodup (filed : Filed past server) : ((postings past).map Posting.ticket).Nodup := by
  rw [filed.numbered]
  exact List.nodup_range

variable [Transport σ ω]

theorem step (filed : Filed past server) (event : Event σ) (world : ω) :
    Filed (past ++ [server.moment world event]) (server.moment world event).after := by
  have exchanges : (server.moment world event).Exchanges :=
    exchanges_of_steps (steps_step server world event)
  refine ⟨?_, ?_⟩
  · rw [postings_append, List.map_append, filed.numbered, exchanges.numbered, exchanges.next,
      List.range_eq_range', List.range_eq_range', ← List.range'_append_1, Nat.zero_add]
    rfl
  · intro session ticket errand lies
    rw [postings_append]
    rcases exchanges.lies session ticket errand lies with before | ⟨sender, posts⟩
    · rcases filed.posted session ticket errand before with ⟨sender, posted⟩
      exact ⟨sender, List.mem_append_left _ posted⟩
    · exact ⟨sender, List.mem_append_right _ (Option.mem_toList.mpr posts)⟩

/-- The session to which an errand was posted is the one that answers it. -/
theorem settled (filed : Filed past server) {event : Event σ} {world : ω} {posting : Posting}
    {answer : Engine.Answer}
    (answered : ⟨posting.ticket, answer⟩ ∈ (server.moment world event).trace.answers)
    (posted : posting ∈ postings (past ++ [server.moment world event])) :
    (server.moment world event).Settles posting.session posting.ticket posting.errand answer := by
  have exchanges : (server.moment world event).Exchanges :=
    exchanges_of_steps (steps_step server world event)
  rcases exchanges.settles posting.ticket answer answered with ⟨session, errand, settles⟩
  have origin : ∃ sender, ⟨posting.ticket, sender, session, errand⟩ ∈
      postings (past ++ [server.moment world event]) := by
    rw [postings_append]
    cases settles with
    | performs _ found first =>
        rcases filed.posted session posting.ticket errand ⟨_, found, first ▸ .head _⟩ with
          ⟨sender, known⟩
        exact ⟨sender, List.mem_append_left _ known⟩
    | turnsAway _ found first behind =>
        rcases filed.posted session posting.ticket errand ⟨_, found, first ▸ .tail _ behind⟩ with
          ⟨sender, known⟩
        exact ⟨sender, List.mem_append_left _ known⟩
    | refuses posts _ _ =>
        exact ⟨_, List.mem_append_right _ (Option.mem_toList.mpr posts)⟩
  rcases origin with ⟨sender, known⟩
  have same := List.inj_on_of_nodup_map (filed.step event world).nodup known posted rfl
  rw [← same]
  exact settles

end Filed
end EngineGateway.Server
