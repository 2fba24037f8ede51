import EngineGateway.Proofs.Engine.Delivery
import EngineGateway.Proofs.Text.CodePage

/-!
# Scripts that come back

An engine that replies with the octets that it is sent shows what becomes of a script on
the way there and back.  However many units it is sent as, it comes back with the losses
of conversion and no others, unless some part of it that cannot be split is over the
limit.  Only a session that is over has nothing to bring back.
-/

namespace EngineGateway.Engine

open Text.CodePage

variable {σ ω : Type}

/-- The transport replies with the octets that it is sent. -/
def Echoes (ω : Type) [Transport σ ω] (transport : σ) : Prop :=
  ∀ units (world : ω),
    ((Transport.sendUnits transport units).run world).1.1 = .ok (.text units.flatten)

theorem scriptBytes_of_not_dde {identity : Identity} (modern : identity.isDde = false)
    (text : String) : scriptBytes identity text = ofText text := by
  simp only [scriptBytes, modern, Bool.false_eq_true, if_false]

theorem Session.respond_text (octets : Bytes) :
    Session.respond (.text octets) = .text (toText octets) :=
  congrArg Response.text (readReply_eq octets)

/-- A message that is refused has a part over the limit that cannot be split. -/
theorem Planned.overlong {limit : Option Nat} {octets : Bytes} {fault : Fault}
    (planned : Planned limit octets (.error fault)) : Overlong limit octets := by
  have something : octets ≠ [] := by
    rintro rfl
    obtain ⟨bound, unit, _, ⟨longer, earlier, later, parts, _⟩, _⟩ := planned.firstOver
    have joined := Script.flatten_units bound []
    rw [parts] at joined
    simp only [List.flatten_append, List.flatten_cons, List.append_eq_nil_iff] at joined
    rw [joined.2.1] at longer
    exact absurd longer (Nat.not_lt_zero _)
  exact (planned.overlong_iff something).mp ⟨fault, rfl⟩

variable [Transport σ ω] {session : Session σ}

/-- What is sent to an echo in units comes back as if it had been sent whole. -/
theorem Session.respond_of_echoes (echoes : Echoes ω session.transport)
    (going : session.closed = false) {text : String} {world : ω} {units : List Bytes}
    (plan : session.plan text world = .ok units) :
    ((session.send text).run world).1.1 =
      .text (toText (scriptBytes session.identity text)) := by
  have planned := session.planned text world
  rw [plan] at planned
  have joined := planned.carries.joined
  by_cases filled : units = []
  · subst filled
    rw [(Session.send_of_nothing going plan).2, ← joined]
    rfl
  · rw [(Session.send_of_units going plan filled).2]
    simp only [Session.settle, echoes units (session.limited world), Session.respond_text, joined]

/-- An engine that echoes, and whether it is known to be gone. -/
structure Echo where
  limit : Option Nat
  gone : Bool

instance : Transport Echo Unit where
  family _ := .socket
  unitLimit echo := pure echo.limit
  sendUnits echo units := pure (.ok (.text units.flatten), echo)
  isClosed echo := pure (echo.gone, echo)
  workingDirectory _ := pure none
  handshake echo := pure (.ok ⟨.socket, 2, 286, "Docking Station", none⟩, echo)

theorem echoes_echo (echo : Echo) : Echoes Unit echo :=
  fun _ _ => rfl

/-- A session over an echo that has just been attached. -/
def Session.echoing (limit : Option Nat) (gone : Bool) : Session Echo where
  transport := ⟨limit, gone⟩
  identity := ⟨.socket, 2, 286, "Docking Station", none⟩
  closed := false
  reconnect := false

/-- A script of two commands with a carriage return and a character that the code page
does not have. -/
def foreignScript : String := "outs\r 日endmouts é"

theorem Fault.notOpen_ne_tooLong (length limit : Nat) :
    Fault.notOpen.message ≠ (Fault.tooLong length limit).message := by
  intro same
  have texts : "Port is not open." =
      "message is too long! " ++ toString length ++ " vs " ++ toString limit := same
  have letters := congrArg (·.toList.head?) texts
  simp at letters

/-- A session over an echo that has found its engine to be gone. -/
def Session.deserted : Session Echo :=
  ((Session.echoing none true).isClosed.run ()).1.2

theorem Session.deserted_closed : Session.deserted.closed = true := rfl

end EngineGateway.Engine
