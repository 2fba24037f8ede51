import EngineGateway.Proofs.Windows.Resources
import EngineGateway.Rehearsal.Desktop

/-!
# Conversations give back what they take

Strings, conversations and instances are used in brackets, one inside the other: what a
bracket takes is given back behind the calls in between, or nothing was taken and there are
none.  So each operation of a client starts with nothing in hand, keeps to the stack and ends
with nothing in hand, whatever its calls come to.
-/

namespace EngineGateway.Windows

open Engine Logged

variable {ω : Type}

/-! ## Brackets -/

/-- The calls of a use of a string, with those in between. -/
inductive StringCalls (owner : Handle) (text : String)
    (between : Handle → List ExchangeCall → Prop) : List ExchangeCall → Prop where
  | refused : StringCalls owner text between [.named owner text none, .erred owner]
  | freed {string : Handle} {calls : List ExchangeCall} : between string calls →
      StringCalls owner text between
        (.named owner text (some string) :: (calls ++ [.freed owner string]))

/-- The calls of a conversation. -/
inductive ConversationCalls (owner service topic : Handle)
    (between : Handle → List ExchangeCall → Prop) : List ExchangeCall → Prop where
  | refused : ConversationCalls owner service topic between
      [.connected owner service topic none, .erred owner]
  | disconnected {conversation : Handle} {calls : List ExchangeCall} :
      between conversation calls →
      ConversationCalls owner service topic between
        (.connected owner service topic (some conversation) ::
          (calls ++ [.disconnected conversation]))

/-- The calls of a use of an instance. -/
inductive InstanceCalls (between : Handle → List ExchangeCall → Prop) :
    List ExchangeCall → Prop where
  | refused {code : Nat} {owner : Handle} : code ≠ noExchangeError →
      InstanceCalls between [.started code owner]
  | ended {owner : Handle} {calls : List ExchangeCall} : between owner calls →
      InstanceCalls between (.started noExchangeError owner :: (calls ++ [.ended owner]))

/-! ### What brackets keep -/

section Brackets

variable {between : Handle → List ExchangeCall → Prop} {hand : List Resource}
variable {calls : List ExchangeCall} {owner service topic : Handle} {text : String}
variable {bound : Nat} {call : ExchangeCall} {before after : List ExchangeCall}
variable {conversation : Handle}

theorem StringCalls.keeps (strung : StringCalls owner text between calls)
    (has : .owner owner ∈ hand)
    (inside : ∀ string calls, between string calls → Keeps (.string string :: hand) calls) :
    Keeps hand calls := by
  have uses : ∀ used ∈ [Resource.owner owner], used ∈ hand := List.forall_mem_singleton.mpr has
  cases strung with
  | refused =>
      have refused : Keeps hand [.named owner text none] := .quiet rfl uses
      exact refused.append (.erred has)
  | freed fits =>
      exact .bracket rfl uses (inside _ _ fits) rfl fun used member => .tail _ (uses used member)

theorem ConversationCalls.keeps (talked : ConversationCalls owner service topic between calls)
    (has : ∀ used ∈ [.owner owner, .string service, .string topic], used ∈ hand)
    (inside : ∀ conversation calls, between conversation calls →
      Keeps (.conversation conversation :: hand) calls) : Keeps hand calls := by
  cases talked with
  | refused =>
      have refused : Keeps hand [.connected owner service topic none] := .quiet rfl has
      exact refused.append (.erred (has _ (.head _)))
  | disconnected fits => exact .bracket rfl has (inside _ _ fits) rfl (List.forall_mem_nil _)

theorem InstanceCalls.keeps (used : InstanceCalls between calls)
    (inside : ∀ owner calls, between owner calls → Keeps (.owner owner :: hand) calls) :
    Keeps hand calls := by
  cases used with
  | refused failed => exact .quiet (if_neg failed) (List.forall_mem_nil _)
  | @ended owner _ fits =>
      have takes : (ExchangeCall.started noExchangeError owner).effect = .takes (.owner owner) := by
        simp [ExchangeCall.effect]
      exact .bracket takes (List.forall_mem_nil _) (inside _ _ fits) rfl (List.forall_mem_nil _)

theorem StringCalls.le_level (strung : StringCalls owner text between calls) (small : bound ≤ 2)
    (inside : ∀ string calls, between string calls → ∀ call ∈ calls, bound ≤ call.level) :
    ∀ call ∈ calls, bound ≤ call.level := by
  cases strung with
  | refused => simpa [ExchangeCall.level] using small
  | freed fits =>
      refine List.forall_mem_cons.mpr ⟨small, List.forall_mem_append.mpr ⟨inside _ _ fits, ?_⟩⟩
      exact List.forall_mem_singleton.mpr small

/-- A string inside a conversation. -/
theorem StringCalls.within {needs : List Resource}
    (strung : StringCalls owner text (fun string => Within (.string string :: needs)) calls)
    (has : .owner owner ∈ needs) : Within needs calls where
  inside := strung.le_level le_rfl fun _ _ within => within.inside
  keeps hand holds := strung.keeps (holds has) fun string _ within =>
    within.keeps (.string string :: hand) (List.cons_subset_cons _ holds)

theorem ConversationCalls.le_level
    (talked : ConversationCalls owner service topic between calls) (small : bound ≤ 1)
    (inside : ∀ conversation calls, between conversation calls →
      ∀ call ∈ calls, bound ≤ call.level) : ∀ call ∈ calls, bound ≤ call.level := by
  cases talked with
  | refused => simpa [ExchangeCall.level] using ⟨small, Nat.le_succ_of_le small⟩
  | disconnected fits =>
      refine List.forall_mem_cons.mpr ⟨small, List.forall_mem_append.mpr ⟨inside _ _ fits, ?_⟩⟩
      exact List.forall_mem_singleton.mpr small

/-- Nothing starts or ends while the string of a bracket is named and freed, but in between. -/
theorem StringCalls.split (strung : StringCalls owner text between calls)
    (split : calls = before ++ call :: after) (low : call.level ≤ 1) :
    ∃ string calls earlier later, between string calls ∧ calls = earlier ++ call :: later ∧
      before = .named owner text (some string) :: earlier ∧
      after = later ++ [.freed owner string] := by
  cases strung with
  | refused =>
      have split : .named owner text none :: ([] ++ [.erred owner]) = before ++ call :: after :=
        split
      obtain ⟨-, rfl⟩ | ⟨_, _, inner, -, -⟩ | ⟨-, rfl, -⟩ := bracket_split split
      · simp [ExchangeCall.level] at low
      · simp at inner
      · simp [ExchangeCall.level] at low
  | freed fits =>
      obtain ⟨-, rfl⟩ | ⟨earlier, later, inner, rfl, rfl⟩ | ⟨-, rfl, -⟩ := bracket_split split
      · simp [ExchangeCall.level] at low
      · exact ⟨_, _, earlier, later, fits, inner, rfl, rfl⟩
      · simp [ExchangeCall.level] at low

/-- A conversation is disconnected once, in the end. -/
theorem ConversationCalls.split (talked : ConversationCalls owner service topic between calls)
    (split : calls = before ++ .disconnected conversation :: after)
    (inside : ∀ conversation calls, between conversation calls →
      ∀ call ∈ calls, 2 ≤ call.level) :
    .connected owner service topic (some conversation) ∈ before ∧ after = [] := by
  cases talked with
  | refused => simp [List.cons_eq_append_iff] at split
  | disconnected fits =>
      obtain ⟨-, other⟩ | ⟨earlier, later, rfl, -, -⟩ | ⟨rfl, same, rfl⟩ := bracket_split split
      · cases other
      · have high := inside _ _ fits (.disconnected conversation) List.mem_append_cons_self
        simp [ExchangeCall.level] at high
      · cases same
        exact ⟨.head _, rfl⟩

/-- An instance is started first, and no other is started. -/
theorem InstanceCalls.first (used : InstanceCalls between calls)
    (inside : ∀ owner calls, between owner calls → ∀ call ∈ calls, 1 ≤ call.level) :
    ∃ code owner rest, calls = .started code owner :: rest ∧
      ∀ code owner, .started code owner ∉ rest := by
  cases used with
  | @refused code owner failed => exact ⟨code, owner, [], rfl, fun _ _ => List.not_mem_nil⟩
  | @ended owner inner fits =>
      refine ⟨noExchangeError, owner, inner ++ [.ended owner], rfl, ?_⟩
      intro code other member
      rcases List.mem_append.mp member with member | member
      · have high := inside owner inner fits _ member
        simp [ExchangeCall.level] at high
      · simp at member

/-- An instance is ended last, and what does not start or end it happens in between. -/
theorem InstanceCalls.split (used : InstanceCalls between calls)
    (split : calls = before ++ call :: after)
    (inside : ∀ owner calls, between owner calls → ∀ call ∈ calls, 1 ≤ call.level) :
    (∃ code owner, call = .started code owner) ∨
      (∃ owner calls earlier later, between owner calls ∧ calls = earlier ++ call :: later ∧
        before = .started noExchangeError owner :: earlier ∧ after = later ++ [.ended owner] ∧
        1 ≤ call.level) ∨
      (∃ owner, call = .ended owner ∧ after = []) := by
  cases used with
  | @refused code owner failed =>
      obtain ⟨-, same⟩ | ⟨_, -, nothing⟩ := List.cons_eq_append_iff.mp split
      · exact .inl ⟨code, owner, (List.cons.inj same).1⟩
      · simp at nothing
  | @ended owner inner fits =>
      obtain ⟨-, rfl⟩ | ⟨earlier, later, rfl, rfl, rfl⟩ | ⟨-, rfl, rfl⟩ := bracket_split split
      · exact .inl ⟨_, owner, rfl⟩
      · exact .inr (.inl ⟨owner, _, earlier, later, fits, rfl, rfl, rfl,
          inside _ _ fits _ List.mem_append_cons_self⟩)
      · exact .inr (.inr ⟨owner, rfl, rfl⟩)

end Brackets

/-! ## Programs -/

namespace Exchange

variable [Exchange ω] {α : Type} {between : Handle → List ExchangeCall → Prop}
variable {action : Handle → StateM ω (Except Fault α)}
variable {logging : Handle → StateM (Logged ExchangeCall ω) (Except Fault α)}

theorem mirrors_lastFault (owner : Handle) :
    Mirrors (ω := ω) (lastFault owner) (lastFault owner) fun _ calls =>
      calls = [ExchangeCall.erred owner] :=
  Mirrors.noting_bind fun _ => .pure rfl

/-- An operation that has failed asks for the last error. -/
theorem mirrors_fail {fit : List ExchangeCall → Prop} (owner : Handle) (fits : fit [.erred owner]) :
    Mirrors (ω := ω) (do return Except.error (← lastFault owner) : StateM ω (Except Fault α))
      (do return Except.error (← lastFault owner)) fun _ calls => fit calls := by
  refine (mirrors_lastFault owner).bind ?_
  rintro fault _ rfl
  exact .pure fits

theorem mirrors_withString (owner : Handle) (text : String)
    (inside : ∀ string, Mirrors (action string) (logging string) fun _ => between string) :
    Mirrors (withString owner text action) (withString owner text logging) fun _ =>
      StringCalls owner text between := by
  refine Mirrors.noting_bind fun string => ?_
  cases string with
  | none => exact mirrors_fail owner .refused
  | some string =>
      refine (inside string).bind fun result calls fits => ?_
      exact Mirrors.noting_bind fun _ => .pure (.freed fits)

theorem mirrors_converse (owner service topic : Handle)
    (inside : ∀ conversation,
      Mirrors (action conversation) (logging conversation) fun _ => between conversation) :
    Mirrors (converse owner service topic action) (converse owner service topic logging) fun _ =>
      ConversationCalls owner service topic between := by
  refine Mirrors.noting_bind fun conversation => ?_
  cases conversation with
  | none =>
      refine Mirrors.noting_bind fun code => ?_
      split_ifs
      · exact .pure .refused
      · exact .pure .refused
  | some conversation =>
      refine (inside conversation).bind fun result calls fits => ?_
      exact Mirrors.noting_bind fun _ => .pure (.disconnected fits)

theorem mirrors_withInstance
    (inside : ∀ owner, Mirrors (action owner) (logging owner) fun _ => between owner) :
    Mirrors (withInstance action) (withInstance logging) fun _ => InstanceCalls between := by
  refine Mirrors.noting_bind ?_
  rintro ⟨code, owner⟩
  simp only
  split_ifs with started
  · rw [started]
    refine (inside owner).bind fun result calls fits => ?_
    exact Mirrors.noting_bind fun _ => .pure (.ended fits)
  · exact .pure (.refused started)

theorem mirrors_withString_within {needs : List Resource} {owner : Handle} (text : String)
    (has : .owner owner ∈ needs)
    (inside : ∀ string, Mirrors (action string) (logging string) fun _ =>
      Within (.string string :: needs)) :
    Mirrors (withString owner text action) (withString owner text logging) fun _ =>
      Within needs :=
  (mirrors_withString owner text inside).weaken fun _ _ strung => strung.within has

theorem mirrors_fetch (owner conversation : Handle) (item : String) :
    Mirrors (ω := ω) (fetch owner conversation item) (fetch owner conversation item) fun _ =>
      Within [.conversation conversation, .owner owner] := by
  refine mirrors_withString_within item (by simp) fun item => Mirrors.noting_bind fun data => ?_
  have asked : Within [.string item, .conversation conversation, .owner owner]
      [.requested conversation item none] := .quiet rfl (by simp [ExchangeCall.uses]) le_rfl
  cases data with
  | none => exact mirrors_fail owner (asked.append (.erred (by simp)))
  | some data =>
      refine Mirrors.noting_bind fun content => Mirrors.noting_bind fun _ => .pure ?_
      have read : Within [.received data, .string item, .conversation conversation, .owner owner]
          [.read data] := .quiet rfl (by simp [ExchangeCall.uses]) le_rfl
      exact .bracket rfl (by simp [ExchangeCall.uses]) read rfl (by simp [ExchangeCall.uses])
        le_rfl le_rfl

theorem mirrors_runScript (owner conversation : Handle) (script : Bytes) :
    Mirrors (ω := ω) (runScript owner conversation script) (runScript owner conversation script)
      fun _ => Within [.conversation conversation, .owner owner] := by
  refine mirrors_withString_within scriptItem (by simp) fun item =>
    Mirrors.noting_bind fun data => ?_
  have missed : Within [.string item, .conversation conversation, .owner owner]
      [.created owner (script ++ [0]) item none] := .quiet rfl (by simp [ExchangeCall.uses]) le_rfl
  cases data with
  | none => exact mirrors_fail owner (missed.append (.erred (by simp)))
  | some data =>
      refine Mirrors.noting_bind fun done => ?_
      -- the data are given away at once
      have handed : Within [.string item, .conversation conversation, .owner owner]
          [.created owner (script ++ [0]) item (some data), .poked conversation data item done] :=
        .bracket rfl (by simp [ExchangeCall.uses]) (.nil _) rfl (by simp [ExchangeCall.uses])
          le_rfl le_rfl
      cases done with
      | false => exact mirrors_fail owner (handed.append (.erred (by simp)))
      | true =>
          refine (mirrors_fetch owner conversation Dde.macroItem).weaken fun _ calls within => ?_
          exact handed.append (within.weaken (List.subset_cons_self _ _))

theorem mirrors_partner (owner conversation : Handle) :
    Mirrors (ω := ω) (partner owner conversation) (partner owner conversation) fun _ =>
      Within [.conversation conversation, .owner owner] := by
  refine Mirrors.noting_bind fun window => ?_
  have asked : Within [.conversation conversation, .owner owner] [.asked conversation] :=
    .quiet rfl (by simp [ExchangeCall.uses]) le_rfl
  cases window with
  | none => exact mirrors_fail owner (asked.append (.erred (by simp)))
  | some window => exact .pure asked

end Exchange

/-! ## Operations -/

/-- The calls of an operation on an engine, with those inside the conversation. -/
def EngineCalls (owner : Handle) : List ExchangeCall → Prop :=
  StringCalls owner Dde.service fun service =>
    StringCalls owner Dde.topic fun topic =>
      ConversationCalls owner service topic fun conversation =>
        Within [.conversation conversation, .owner owner]

namespace EngineCalls

variable {owner conversation : Handle} {calls before after : List ExchangeCall}

theorem keeps (engine : EngineCalls owner calls) : Keeps [.owner owner] calls := by
  refine StringCalls.keeps engine (.head _) fun service _ named => ?_
  refine named.keeps (.tail _ (.head _)) fun topic _ talked => ?_
  refine talked.keeps (by simp) fun conversation _ within => ?_
  exact within.keeps _ (by simp)

theorem one_le_level (engine : EngineCalls owner calls) : ∀ call ∈ calls, 1 ≤ call.level := by
  refine StringCalls.le_level engine (Nat.le_succ 1) fun service _ named => ?_
  refine named.le_level (Nat.le_succ 1) fun topic _ talked => ?_
  refine talked.le_level le_rfl fun conversation _ within => ?_
  intro call member
  exact (Nat.le_succ 1).trans (within.inside call member)

/-- A conversation is disconnected before its strings are freed. -/
theorem after_disconnected (engine : EngineCalls owner calls)
    (split : calls = before ++ .disconnected conversation :: after) :
    ∃ service topic, .connected owner service topic (some conversation) ∈ before ∧
      after = [.freed owner topic, .freed owner service] := by
  obtain ⟨service, _, _, _, named, inner, rfl, rfl⟩ := StringCalls.split engine split le_rfl
  obtain ⟨topic, _, _, _, talked, deeper, rfl, rfl⟩ := named.split inner le_rfl
  obtain ⟨connected, rfl⟩ := talked.split deeper fun _ _ within => within.inside
  exact ⟨service, topic, .tail _ (.tail _ connected), rfl⟩

end EngineCalls

/-- Calls that give back what they take, each of them exactly once and the last first. -/
structure Tidy (calls : List ExchangeCall) : Prop where
  /-- There is nothing in hand in the end, and on the way there only what is in hand is used,
  and only what is on top is given back. -/
  stacked : inHand [] calls = some []
  /-- What is used or given back has been taken before, and not been given back since. -/
  held : ∀ before call after, calls = before ++ call :: after → ∀ resource,
    resource ∈ call.uses ∨ call.effect = .gives resource →
      given before resource < taken before resource
  settled : ∀ resource, taken calls resource = given calls resource
  /-- The first call starts an instance, and no other call does. -/
  first : ∃ code owner rest, calls = .started code owner :: rest ∧
    ∀ code owner, .started code owner ∉ rest
  /-- A conversation is disconnected while its strings are in hand, which are freed then. -/
  ordered : ∀ before conversation after, calls = before ++ .disconnected conversation :: after →
    ∃ owner service topic, .connected owner service topic (some conversation) ∈ before ∧
      after = [.freed owner topic, .freed owner service, .ended owner]
  /-- Only the last call ends an instance. -/
  last : ∀ before owner after, calls = before ++ .ended owner :: after → after = []

theorem tidy_of_calls {calls : List ExchangeCall} (made : InstanceCalls EngineCalls calls) :
    Tidy calls := by
  have stacked : inHand [] calls = some [] := made.keeps fun _ _ engine => engine.keeps
  refine ⟨stacked, ?held, ?settled, ?first, ?ordered, ?last⟩
  case held =>
    intro before call after split resource needed
    exact given_lt_taken stacked split needed
  case settled =>
    intro resource
    have counted := count_inHand stacked resource
    omega
  case first => exact made.first fun _ _ engine => engine.one_le_level
  case ordered =>
    intro before conversation after split
    obtain ⟨_, _, other⟩ | ⟨owner, _, _, _, engine, inner, rfl, rfl, -⟩ | ⟨_, other, -⟩ :=
      made.split split fun _ _ engine => engine.one_le_level
    · cases other
    · obtain ⟨service, topic, connected, rfl⟩ := engine.after_disconnected inner
      exact ⟨owner, service, topic, .tail _ connected, rfl⟩
    · cases other
  case last =>
    intro before owner after split
    obtain ⟨_, _, other⟩ | ⟨_, _, _, _, -, -, -, -, high⟩ | ⟨_, -, nothing⟩ :=
      made.split split fun _ _ engine => engine.one_le_level
    · cases other
    · simp [ExchangeCall.level] at high
    · exact nothing

namespace Exchange

variable [Exchange ω] {α : Type}
variable {action : Handle → StateM ω (Except Fault α)}
variable {logging : Handle → StateM (Logged ExchangeCall ω) (Except Fault α)}

theorem mirrors_withConversation (owner : Handle)
    (inside : ∀ conversation, Mirrors (action conversation) (logging conversation) fun _ =>
      Within [.conversation conversation, .owner owner]) :
    Mirrors (withConversation owner action) (withConversation owner logging) fun _ =>
      EngineCalls owner :=
  mirrors_withString owner Dde.service fun service =>
    mirrors_withString owner Dde.topic fun topic => mirrors_converse owner service topic inside

theorem mirrors_partnerProcess :
    Mirrors (ω := ω) partnerProcess partnerProcess fun _ => InstanceCalls EngineCalls := by
  refine mirrors_withInstance fun owner => ?_
  refine (mirrors_withConversation owner (mirrors_partner owner)).bind fun found calls fits => ?_
  have same : calls ++ [] = calls := List.append_nil calls
  rcases found with fault | _ | window
  · exact .pure (same.symm ▸ fits)
  · exact .pure (same.symm ▸ fits)
  · exact Mirrors.noting_bind fun process => .pure (same.symm ▸ fits)

end Exchange

/-- The exchange gets everything back.  Whatever its calls come to, an operation on an engine
gives back once each instance, string and conversation and all data that it takes, and hands
each data for a poke over once; it uses nothing before it has been taken or after it has been
given back, disconnects a conversation before the strings of service and topic are freed, and
ends the instance last.  Watching the calls makes no difference to an operation. -/
theorem resources_given_back {ω : Type} [Exchange ω] (client : ExchangeClient) :
    (∀ script, Mirrors (ω := ω) (Dde.Client.runMacro client script)
      (Dde.Client.runMacro client script) fun _ calls => Tidy calls) ∧
    Mirrors (ω := ω) (Dde.Client.brainActivity client) (Dde.Client.brainActivity client)
      (fun _ calls => Tidy calls) ∧
    Mirrors (ω := ω) (Dde.Client.partner client) (Dde.Client.partner client)
      (fun _ calls => Tidy calls) ∧
    Mirrors (ω := ω) (Dde.Client.available client) (Dde.Client.available client)
      (fun _ calls => Tidy calls) := by
  refine ⟨?script, ?brain, ?partner, ?available⟩
  case script =>
    intro script
    refine (Exchange.mirrors_withInstance fun owner =>
      Exchange.mirrors_withConversation owner fun conversation =>
        Exchange.mirrors_runScript owner conversation script).weaken ?_
    exact fun _ _ => tidy_of_calls
  case brain =>
    refine (Exchange.mirrors_withInstance fun owner =>
      Exchange.mirrors_withConversation owner fun conversation =>
        Exchange.mirrors_fetch owner conversation Dde.brainItem).weaken ?_
    exact fun _ _ => tidy_of_calls
  case partner =>
    refine Exchange.mirrors_partnerProcess.bind fun found calls made => .pure ?_
    rw [List.append_nil]
    exact tidy_of_calls made
  case available =>
    refine Mirrors.bind (Exchange.mirrors_withInstance fun owner =>
      Exchange.mirrors_withConversation owner fun conversation => .pure (.nil _)) ?_
    intro found calls made
    refine .pure ?_
    rw [List.append_nil]
    exact tidy_of_calls made

/-- A script is not accepted. -/
example :
    ((Dde.Client.runMacro ExchangeClient.mk [1]).run
      (⟨{ refusesPoke := true }, []⟩ : Logged ExchangeCall Rehearsal.Desktop)).2.calls =
    [.started 0 0, .named 0 "Vivarium" (some 1), .named 0 "NornSockets" (some 2),
      .connected 0 1 2 (some 3), .named 0 " " (some 4), .created 0 [1, 0] 4 (some 5),
      .poked 3 5 4 false, .erred 0, .freed 0 4, .disconnected 3, .freed 0 2, .freed 0 1,
      .ended 0] := by decide

end EngineGateway.Windows
