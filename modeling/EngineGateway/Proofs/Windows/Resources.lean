import EngineGateway.Proofs.Transport.Uses
import EngineGateway.Windows.Exchange

/-!
# What an exchange takes and gives back

An instance, a string, a conversation and the data of an item are taken from the exchange
and have to be given back to it.  They are kept on a stack here: what is taken is put on top
of what is in hand, only what is in hand may be used, and only what is on top may be given
back.  Data for a poke is handed over with it, whether the poke succeeds or not.

Calls that leave the stack as it was can be put one after another and between a call that
takes something and a call that gives it back.
-/

namespace EngineGateway.Windows

open Engine Logged

/-- What is asked of the exchange, and what comes of it. -/
inductive ExchangeCall where
  | started (code : Nat) (owner : Handle)
  | ended (owner : Handle)
  | named (owner : Handle) (text : String) (string : Option Handle)
  | freed (owner string : Handle)
  | connected (owner service topic : Handle) (conversation : Option Handle)
  | disconnected (conversation : Handle)
  | created (owner : Handle) (content : Bytes) (item : Handle) (data : Option Handle)
  | poked (conversation data item : Handle) (done : Bool)
  | requested (conversation item : Handle) (data : Option Handle)
  | read (data : Handle)
  | dropped (data : Handle)
  /-- The partner of a conversation was asked for. -/
  | asked (conversation : Handle)
  /-- The last error was asked for. -/
  | erred (owner : Handle)
  deriving DecidableEq

variable {ω : Type}

instance [Exchange ω] : Exchange (Logged ExchangeCall ω) where
  openProcess process := noting (Processes.openProcess process) fun _ => []
  exitCode process := noting (Processes.exitCode process) fun _ => []
  modulePath process limit := noting (Processes.modulePath process limit) fun _ => []
  close handle := noting (Processes.close handle) fun _ => []
  startInstance := noting Exchange.startInstance fun (code, owner) => [.started code owner]
  endInstance owner := noting (Exchange.endInstance owner) fun _ => [.ended owner]
  createString owner text :=
    noting (Exchange.createString owner text) fun string => [.named owner text string]
  freeString owner string :=
    noting (Exchange.freeString owner string) fun _ => [.freed owner string]
  connect owner service topic :=
    noting (Exchange.connect owner service topic) fun conversation =>
      [.connected owner service topic conversation]
  disconnect conversation :=
    noting (Exchange.disconnect conversation) fun _ => [.disconnected conversation]
  createData owner content item :=
    noting (Exchange.createData owner content item) fun data => [.created owner content item data]
  poke conversation data item time :=
    noting (Exchange.poke conversation data item time) fun done =>
      [.poked conversation data item done]
  request conversation item time :=
    noting (Exchange.request conversation item time) fun data =>
      [.requested conversation item data]
  readData data := noting (Exchange.readData data) fun _ => [.read data]
  freeData data := noting (Exchange.freeData data) fun _ => [.dropped data]
  partnerWindow conversation :=
    noting (Exchange.partnerWindow conversation) fun _ => [.asked conversation]
  windowProcess window := noting (Exchange.windowProcess window) fun _ => []
  exchangeError owner := noting (Exchange.exchangeError owner) fun _ => [.erred owner]

/-! ## What is in hand -/

/-- Something that is taken from the exchange and has to be given back. -/
inductive Resource where
  /-- An instance, to which the others belong. -/
  | owner (handle : Handle)
  | string (handle : Handle)
  | conversation (handle : Handle)
  /-- Data for a poke. -/
  | outgoing (handle : Handle)
  /-- Data that has been asked for. -/
  | received (handle : Handle)
  deriving DecidableEq

/-- What a call does to what is in hand. -/
inductive Effect where
  | nothing
  | takes (resource : Resource)
  | gives (resource : Resource)
  deriving DecidableEq

namespace Effect

/-- The effect of a call that may fail to take anything. -/
def ofTaken (kind : Handle → Resource) : Option Handle → Effect
  | none => nothing
  | some handle => takes (kind handle)

end Effect

namespace ExchangeCall

def effect : ExchangeCall → Effect
  | started code owner => if code = noExchangeError then .takes (.owner owner) else .nothing
  | ended owner => .gives (.owner owner)
  | named _ _ string => .ofTaken .string string
  | freed _ string => .gives (.string string)
  | connected _ _ _ conversation => .ofTaken .conversation conversation
  | disconnected conversation => .gives (.conversation conversation)
  | created _ _ _ data => .ofTaken .outgoing data
  | poked _ data _ _ => .gives (.outgoing data)
  | requested _ _ data => .ofTaken .received data
  | read _ => .nothing
  | dropped data => .gives (.received data)
  | asked _ => .nothing
  | erred _ => .nothing

/-- What a call uses and does not give back. -/
def uses : ExchangeCall → List Resource
  | started _ _ => []
  | ended _ => []
  | named owner _ _ => [.owner owner]
  | freed owner _ => [.owner owner]
  | connected owner service topic _ => [.owner owner, .string service, .string topic]
  | disconnected _ => []
  | created owner _ item _ => [.owner owner, .string item]
  | poked conversation _ item _ => [.conversation conversation, .string item]
  | requested conversation item _ => [.conversation conversation, .string item]
  | read data => [.received data]
  | dropped _ => []
  | asked conversation => [.conversation conversation]
  | erred owner => [.owner owner]

/-- Zero for a call that starts or ends an instance, one for a call that starts or ends a
conversation, and two for the others. -/
def level : ExchangeCall → Nat
  | started _ _ | ended _ => 0
  | connected _ _ _ _ | disconnected _ => 1
  | _ => 2

end ExchangeCall

/-- What is in hand after a call, the last on top.  There is no answer if the call uses
something that is not in hand, or gives back something that is not on top. -/
def handAfter (hand : List Resource) (call : ExchangeCall) : Option (List Resource) :=
  if ∀ resource ∈ call.uses, resource ∈ hand then
    match call.effect with
    | .nothing => some hand
    | .takes resource => some (resource :: hand)
    | .gives resource => if hand.head? = some resource then some hand.tail else none
  else none

/-- What is in hand after calls. -/
def inHand (hand : List Resource) (calls : List ExchangeCall) : Option (List Resource) :=
  calls.foldlM handAfter hand

/-- How often calls take something. -/
def taken (calls : List ExchangeCall) (resource : Resource) : Nat :=
  (calls.map ExchangeCall.effect).count (.takes resource)

/-- How often calls give something back. -/
def given (calls : List ExchangeCall) (resource : Resource) : Nat :=
  (calls.map ExchangeCall.effect).count (.gives resource)

section Hand

variable {hand later : List Resource} {call opening closing : ExchangeCall}
variable {calls before after : List ExchangeCall} {resource : Resource}

theorem inHand_cons (hand : List Resource) (call : ExchangeCall) (calls : List ExchangeCall) :
    inHand hand (call :: calls) = (handAfter hand call).bind (inHand · calls) :=
  List.foldlM_cons

theorem inHand_append (hand : List Resource) (first second : List ExchangeCall) :
    inHand hand (first ++ second) = (inHand hand first).bind (inHand · second) :=
  List.foldlM_append

theorem taken_append (first second : List ExchangeCall) (resource : Resource) :
    taken (first ++ second) resource = taken first resource + taken second resource := by
  simp only [taken, List.map_append, List.count_append]

theorem given_append (first second : List ExchangeCall) (resource : Resource) :
    given (first ++ second) resource = given first resource + given second resource := by
  simp only [given, List.map_append, List.count_append]

/-- What a call uses or gives back is in hand. -/
theorem mem_of_handAfter (done : handAfter hand call = some later)
    (needed : resource ∈ call.uses ∨ call.effect = .gives resource) : resource ∈ hand := by
  unfold handAfter at done
  split_ifs at done with inUse
  rcases needed with used | gives
  · exact inUse resource used
  · rw [gives] at done
    simp only at done
    split_ifs at done with top
    exact List.mem_of_mem_head? top

/-- A call changes what is in hand by what it takes and gives back. -/
theorem count_handAfter (done : handAfter hand call = some later) (resource : Resource) :
    hand.count resource + taken [call] resource = later.count resource + given [call] resource := by
  unfold handAfter at done
  split_ifs at done
  cases effect : call.effect with
  | nothing =>
      rw [effect] at done
      cases done
      simp [taken, given, effect]
  | takes other =>
      rw [effect] at done
      cases done
      simp [taken, given, effect, List.count_cons]
  | gives other =>
      rw [effect] at done
      simp only at done
      split_ifs at done with top
      cases done
      obtain ⟨rest, rfl⟩ := List.head?_eq_some_iff.mp top
      simp [taken, given, effect, List.count_cons]

/-- What is in hand more often after calls than before them is what they take more often than
they give it back. -/
theorem count_inHand (done : inHand hand calls = some later) (resource : Resource) :
    hand.count resource + taken calls resource = later.count resource + given calls resource := by
  induction calls generalizing hand with
  | nil =>
      cases done
      rfl
  | cons call rest ih =>
      rw [inHand_cons] at done
      obtain ⟨next, first, others⟩ := Option.bind_eq_some_iff.mp done
      have one := count_handAfter first resource
      have more := ih others
      have takes : taken (call :: rest) resource = taken [call] resource + taken rest resource :=
        taken_append [call] rest resource
      have gives : given (call :: rest) resource = given [call] resource + given rest resource :=
        given_append [call] rest resource
      omega

theorem handAfter_of_nothing (nothing : call.effect = .nothing)
    (inUse : ∀ used ∈ call.uses, used ∈ hand) : handAfter hand call = some hand := by
  simp only [handAfter, if_pos inUse, nothing]

theorem handAfter_of_takes (takes : call.effect = .takes resource)
    (inUse : ∀ used ∈ call.uses, used ∈ hand) :
    handAfter hand call = some (resource :: hand) := by
  simp only [handAfter, if_pos inUse, takes]

theorem handAfter_of_gives (gives : call.effect = .gives resource)
    (inUse : ∀ used ∈ call.uses, used ∈ resource :: hand) :
    handAfter (resource :: hand) call = some hand := by
  simp only [handAfter, if_pos inUse, gives, List.head?_cons, if_true, List.tail_cons]

/-- What calls use or give back has been taken before, more often than given back. -/
theorem given_lt_taken (done : inHand [] calls = some later)
    (split : calls = before ++ call :: after)
    (needed : resource ∈ call.uses ∨ call.effect = .gives resource) :
    given before resource < taken before resource := by
  rw [split, inHand_append] at done
  obtain ⟨hand, earlier, others⟩ := Option.bind_eq_some_iff.mp done
  rw [inHand_cons] at others
  obtain ⟨next, now, -⟩ := Option.bind_eq_some_iff.mp others
  have here : 0 < hand.count resource := List.count_pos_iff.mpr (mem_of_handAfter now needed)
  have counted := count_inHand earlier resource
  rw [List.count_nil] at counted
  omega

/-- A call of a bracket is the first, one of those in between, or the last. -/
theorem bracket_split (split : opening :: (calls ++ [closing]) = before ++ call :: after) :
    (before = [] ∧ call = opening) ∨
      (∃ earlier later, calls = earlier ++ call :: later ∧ before = opening :: earlier ∧
        after = later ++ [closing]) ∨
      (before = opening :: calls ∧ call = closing ∧ after = []) := by
  rcases before with _ | ⟨head, earlier⟩
  · exact .inl ⟨rfl, (List.cons.inj split).1.symm⟩
  · obtain ⟨rfl, rest⟩ := List.cons.inj split
    change calls ++ [closing] = earlier ++ call :: after at rest
    rcases List.eq_nil_or_concat' after with rfl | ⟨later, last, rfl⟩
    · obtain ⟨rfl, same⟩ := List.append_inj' rest rfl
      exact .inr (.inr ⟨rfl, (List.cons.inj same).1.symm, rfl⟩)
    · rw [← List.cons_append, ← List.append_assoc] at rest
      obtain ⟨same, ends⟩ := List.append_inj' rest rfl
      rw [(List.cons.inj ends).1]
      exact .inr (.inl ⟨earlier, later, same, rfl, rfl⟩)

/-- Calls leave what is in hand as it was. -/
def Keeps (hand : List Resource) (calls : List ExchangeCall) : Prop :=
  inHand hand calls = some hand

theorem Keeps.nil (hand : List Resource) : Keeps hand [] := rfl

theorem Keeps.append (first : Keeps hand before) (second : Keeps hand after) :
    Keeps hand (before ++ after) := by
  rw [Keeps, inHand_append, first]
  exact second

/-- A call that takes nothing and gives nothing back. -/
theorem Keeps.quiet (nothing : call.effect = .nothing)
    (inUse : ∀ used ∈ call.uses, used ∈ hand) : Keeps hand [call] := by
  rw [Keeps, inHand_cons, handAfter_of_nothing nothing inUse]
  rfl

theorem Keeps.erred {owner : Handle} (has : .owner owner ∈ hand) : Keeps hand [.erred owner] :=
  .quiet rfl (List.forall_mem_singleton.mpr has)

/-- Something is taken before calls that keep it, and given back after them. -/
theorem Keeps.bracket (takes : opening.effect = .takes resource)
    (opened : ∀ used ∈ opening.uses, used ∈ hand) (within : Keeps (resource :: hand) calls)
    (gives : closing.effect = .gives resource)
    (closed : ∀ used ∈ closing.uses, used ∈ resource :: hand) :
    Keeps hand (opening :: (calls ++ [closing])) := by
  rw [Keeps, inHand_cons, handAfter_of_takes takes opened, Option.bind_some, inHand_append,
    within, Option.bind_some, inHand_cons, handAfter_of_gives gives closed]
  rfl

end Hand

/-! ## Inside a conversation -/

/-- Calls inside a conversation.  They leave what is in hand as it was, whatever that is, if
it holds what they need. -/
structure Within (needs : List Resource) (calls : List ExchangeCall) : Prop where
  inside : ∀ call ∈ calls, 2 ≤ call.level
  keeps : ∀ hand, needs ⊆ hand → Keeps hand calls

namespace Within

variable {needs more : List Resource} {call opening closing : ExchangeCall}
variable {calls before after : List ExchangeCall} {resource : Resource}

theorem nil (needs : List Resource) : Within needs [] where
  inside := List.forall_mem_nil _
  keeps hand _ := .nil hand

theorem weaken (within : Within needs calls) (fewer : needs ⊆ more) : Within more calls where
  inside := within.inside
  keeps hand holds := within.keeps hand (List.Subset.trans fewer holds)

theorem append (first : Within needs before) (second : Within needs after) :
    Within needs (before ++ after) where
  inside := List.forall_mem_append.mpr ⟨first.inside, second.inside⟩
  keeps hand holds := (first.keeps hand holds).append (second.keeps hand holds)

theorem quiet (nothing : call.effect = .nothing) (inUse : call.uses ⊆ needs)
    (inside : 2 ≤ call.level) : Within needs [call] where
  inside := List.forall_mem_singleton.mpr inside
  keeps _ holds := .quiet nothing fun _ used => holds (inUse used)

theorem erred {owner : Handle} (has : .owner owner ∈ needs) : Within needs [.erred owner] :=
  .quiet rfl (List.cons_subset.mpr ⟨has, List.nil_subset _⟩) le_rfl

theorem bracket (takes : opening.effect = .takes resource) (opened : opening.uses ⊆ needs)
    (within : Within (resource :: needs) calls) (gives : closing.effect = .gives resource)
    (closed : closing.uses ⊆ resource :: needs) (start : 2 ≤ opening.level)
    (stop : 2 ≤ closing.level) : Within needs (opening :: (calls ++ [closing])) where
  inside := by
    refine List.forall_mem_cons.mpr ⟨start, List.forall_mem_append.mpr ⟨within.inside, ?_⟩⟩
    exact List.forall_mem_singleton.mpr stop
  keeps hand holds := by
    have above : resource :: needs ⊆ resource :: hand := List.cons_subset_cons resource holds
    exact .bracket takes (fun _ used => holds (opened used)) (within.keeps _ above) gives
      fun _ used => above (closed used)

end Within

end EngineGateway.Windows
