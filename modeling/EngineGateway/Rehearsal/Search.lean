import EngineGateway.Discovery.Connector
import EngineGateway.Rehearsal.Subject

/-!
# Searches

A search looks for engines again and again, with one memory of what it has
seen, and holds what can be asked meanwhile.
-/

namespace EngineGateway.Rehearsal

open Engine Discovery

/-- A search in progress. -/
structure Search (κ σ : Type) where
  /-- The ways to find an engine. -/
  means : κ
  subject : Option (Subject σ) := none
  policy : Policy := .start

namespace Search

variable {κ σ ω : Type}

def arm (search : Search κ σ) : Search κ σ :=
  { search with policy := search.policy.arm }

/-- Make one attempt.  A session that is found takes the place of what is
held. -/
def attempt [Connector κ σ ω] (search : Search κ σ) :
    StateM ω (Attempt σ × Search κ σ) := do
  let (attempt, means, policy) ← Connector.discover search.means search.policy
  let subject :=
    match attempt with
    | .ok (some session) => some (.session session)
    | .ok none | .error _ => search.subject
  return (attempt, ⟨means, subject, policy⟩)

/-- Make one attempt with each connector.  What is held is let go in any
case. -/
def attemptAny [Connector κ σ ω] (search : Search (List κ) σ) :
    StateM ω (Attempt σ × Search (List κ) σ) := do
  let (found, means, policy) ← discoverAny search.policy search.means
  return (.ok found, ⟨means, found.map .session, policy⟩)

def ask? [Transport σ ω] (search : Search κ σ) (question : Question) :
    StateM ω (Option Told × Search κ σ) := do
  match search.subject with
  | none => return (none, search)
  | some subject =>
      let (told, subject) ← subject.ask question
      return (some told, { search with subject := some subject })

end Search
end EngineGateway.Rehearsal
