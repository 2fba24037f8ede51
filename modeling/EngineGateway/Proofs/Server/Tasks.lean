import EngineGateway.Proofs.World
import EngineGateway.Server.Basic
import Mathlib.Data.Option.Basic
import Mathlib.Tactic.SplitIfs

/-!
# Tasks of a server

Every peer has at most one task that matters, the one that is found under its id.
An operation of the server changes the tasks one by one, adds some at the end, or
drops those of one peer.  What peers are told comes from the registry alone.
-/

namespace EngineGateway.Server

open Engine Peer Gateway

/-! ## Changes of one task -/

section Single

/-- What `updateTask` does to each task. -/
def changedTask (peer : PeerId) (change : Task → Task) (task : Task) : Task :=
  if task.peer = peer then change task else task

theorem changedTask_own {peer : PeerId} {task : Task} (own : task.peer = peer)
    (change : Task → Task) : changedTask peer change task = change task :=
  if_pos own

theorem changedTask_other {peer : PeerId} {task : Task} (other : task.peer ≠ peer)
    (change : Task → Task) : changedTask peer change task = task :=
  if_neg other

/-- What a change leaves alone is left alone in every task. -/
theorem changedTask_field {α : Type} (field : Task → α) {peer : PeerId} {change : Task → Task}
    {task : Task} (same : ∀ task, field (change task) = field task) :
    field (changedTask peer change task) = field task := by
  unfold changedTask
  split_ifs
  · exact same task
  · rfl

@[simp] theorem peer_enqueue (sent : List Delivery) (task : Task) :
    (task.enqueue sent).peer = task.peer := by
  unfold Task.enqueue
  split <;> rfl

@[simp] theorem reading_enqueue (sent : List Delivery) (task : Task) :
    (task.enqueue sent).reading = task.reading := by
  unfold Task.enqueue
  split <;> rfl

@[simp] theorem isOpen_enqueue (sent : List Delivery) (task : Task) :
    (task.enqueue sent).isOpen = task.isOpen := by
  unfold Task.enqueue
  split <;> rfl

@[simp] theorem writing_enqueue (sent : List Delivery) (task : Task) :
    (task.enqueue sent).writing = task.writing := by
  unfold Task.enqueue
  split <;> rfl

/-- What accepting answers does to a task: it may give the reader the answer that it
waits for. -/
theorem accept_cases (answers : List Ticketed) (task : Task) :
    task.accept answers = task ∨
    ∃ ticket response, task.reading = .waiting ticket ∧
      ⟨ticket, .response response⟩ ∈ answers ∧
      task.accept answers = { task with reading := .replying (Frame.ofResponse? response) } := by
  unfold Task.accept
  cases reading : task.reading with
  | ready => exact .inl rfl
  | holding session text => exact .inl rfl
  | replying frame => exact .inl rfl
  | ended => exact .inl rfl
  | waiting ticket =>
      simp only
      split
      · rename_i other response found
        have named : other = ticket := by
          have selected := List.find?_some found
          simpa using selected
        subst named
        exact .inr ⟨other, response, rfl, List.mem_of_find?_eq_some found, rfl⟩
      · exact .inl rfl
      · exact .inl rfl

/-- Accepting answers concerns the reader only. -/
theorem accept_field {α : Type} (field : Task → α)
    (same : ∀ task reading, field { task with reading := reading } = field task)
    (answers : List Ticketed) (task : Task) : field (task.accept answers) = field task := by
  rcases accept_cases answers task with unchanged | ⟨_, _, _, _, replying⟩
  · rw [unchanged]
  · rw [replying, same]

@[simp] theorem peer_accept (answers : List Ticketed) (task : Task) :
    (task.accept answers).peer = task.peer :=
  accept_field Task.peer (fun _ _ => rfl) answers task

theorem ended_of_accept {answers : List Ticketed} {task : Task}
    (ended : (task.accept answers).reading = .ended) : task.reading = .ended := by
  rcases accept_cases answers task with same | ⟨_, _, _, _, replying⟩
  · rwa [same] at ended
  · rw [replying] at ended
    cases ended

end Single

/-! ## The task that is found -/

section Found

variable {σ : Type} {server next : Server σ} {peer : PeerId} {task : Task}

theorem peer_of_task? (found : server.task? peer = some task) : task.peer = peer := by
  have named := List.find?_some found
  simpa using named

theorem mem_of_task? (found : server.task? peer = some task) : task ∈ server.tasks :=
  List.mem_of_find?_eq_some found

theorem task?_of_tasks {change : Task → Task} {started : List Task}
    (tasks : next.tasks = server.tasks.map change ++ started)
    (peers : ∀ task, (change task).peer = task.peer) (peer : PeerId) :
    next.task? peer = ((server.task? peer).map change).or (started.find? (·.peer == peer)) := by
  have same : (fun task : Task => task.peer == peer) ∘ change = fun task => task.peer == peer := by
    funext task
    simp only [Function.comp_apply, peers]
  rw [task?, task?, tasks, List.find?_append, List.find?_map, same]

/-- Dropping the tasks of one peer leaves the others. -/
theorem task?_drop {dropped : PeerId} (tasks : next.tasks = server.tasks.filter (·.peer != dropped))
    (peer : PeerId) :
    next.task? peer = if peer = dropped then none else server.task? peer := by
  rw [task?, task?, tasks, List.find?_filter]
  split_ifs with same
  · refine List.find?_eq_none.mpr fun task _ => ?_
    simp [same]
  · congr 1
    funext task
    by_cases own : task.peer = peer
    · simp [own, same]
    · simp [own]

theorem tasks_updateTask (server : Server σ) (peer : PeerId) (change : Task → Task) :
    (server.updateTask peer change).tasks = server.tasks.map (changedTask peer change) := rfl

theorem tasks_setMailbox (server : Server σ) (session : Nat) (mailbox : Mailbox σ) :
    (server.setMailbox session mailbox).tasks = server.tasks := by
  unfold setMailbox
  split_ifs <;> rfl

theorem registry_setMailbox (server : Server σ) (session : Nat) (mailbox : Mailbox σ) :
    (server.setMailbox session mailbox).registry = server.registry := by
  unfold setMailbox
  split_ifs <;> rfl

theorem registry_post (server : Server σ) (session : Nat) (mailbox : Mailbox σ)
    (letter : Letter) : (server.post session mailbox letter).2.registry = server.registry :=
  registry_setMailbox server session _

theorem registry_postErrand (server : Server σ) (session : Nat) (mailbox : Mailbox σ)
    (errand : Errand) : (server.postErrand session mailbox errand).2.registry = server.registry :=
  registry_post _ session mailbox _

/-- An event of a peer goes to its task, if it has one. -/
theorem step_of_peer {ω : Type} [Transport σ ω] {event : Event σ} (own : event.peer? = some peer)
    (world : ω) :
    (server.step event).run world =
      ((server.task? peer).elim ({}, server) fun task => server.stepTask task event, world) := by
  cases event <;> simp only [Event.peer?, Option.some.injEq, reduceCtorEq] at own
  all_goals
    subst own
    simp only [step, Event.peer?, Option.bind_some]
    split
    · rename_i nobody
      rw [nobody]
      rfl
    · rename_i task found
      rw [found]
      rfl

end Found

/-! ## Telling the peers -/

section Telling

variable (server : Server σ)

@[simp] theorem registry_spread (effects : Effects) :
    (server.spread effects).2.registry = server.registry := rfl

@[simp] theorem queued_spread (effects : Effects) :
    (server.spread effects).1.queued = effects.sent := rfl

@[simp] theorem registry_withRegistry (registry : Registry) :
    (server.withRegistry registry).registry = registry := rfl

@[simp] theorem registry_announce (engine : Identity) :
    (server.announce engine).2.registry = (server.registry.attach engine).2 := rfl

@[simp] theorem registry_farewell :
    server.farewell.2.registry = server.registry.detach.2.2 := rfl

@[simp] theorem registry_follow (line : String) :
    (server.follow line).2.registry = (routeLine server.registry line).2 := by
  rw [follow, registry_spread, registry_withRegistry]

theorem queued_follow (line : String) :
    (server.follow line).1.queued = (routeLine server.registry line).1.sent := by
  rw [follow, queued_spread]

end Telling

end EngineGateway.Server
