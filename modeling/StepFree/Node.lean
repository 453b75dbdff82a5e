import StepFree.Way.Access

/-! Whether a node blocks. Barriers of the blocking tiers always do. Next a ford blocks, if fords are
blocked at all and the node is not meant for wheelchairs, even where it is a gate too. A potential
barrier follows the first access key that says anything, and a lock shuts what a key would allow.
Any other ford blocks only if access is denied. -/
namespace StepFree

inductive NodeReason where
  | unobstructed
  | blockingBarrier (barrier : String)
  | ford
  | accessIntended (key : String)
  | accessRestricted (key : String)
  | potentialBarrier (barrier : String)
  | fordRestricted
  | fordPassable
  deriving DecidableEq, Repr

namespace NodeReason

def name : NodeReason → String
  | .unobstructed => ""
  | .blockingBarrier _ => "blocking_barrier"
  | .ford => "ford"
  | .accessIntended _ => "barrier_access_intended"
  | .accessRestricted _ => "barrier_access_restricted"
  | .potentialBarrier _ => "potential_barrier"
  | .fordRestricted => "ford_access_restricted"
  | .fordPassable => "ford_passable"

def details : NodeReason → List (String × String)
  | .blockingBarrier barrier | .potentialBarrier barrier => [("barrier", barrier)]
  | .accessIntended key | .accessRestricted key => [("key", key)]
  | _ => []

end NodeReason

structure NodeDecision where
  blocked : Bool
  reason : NodeReason
  deriving DecidableEq, Repr

namespace Settings

variable (s : Settings) (t : Tags)

def keyDecision? (key : String) : Option NodeDecision :=
  if !t.carries "locked" "yes" && s.intended t key then some ⟨false, .accessIntended key⟩
  else if s.restricted t key then some ⟨true, .accessRestricted key⟩
  else none

def potentialBarrierDecision : NodeDecision :=
  (s.vocabulary.restrictionKeys.findSome? (s.keyDecision? t)).getD
    ⟨s.config.blockPotentialBarriers, .potentialBarrier ((t.first? "barrier").getD "")⟩

def fordDecision : NodeDecision :=
  if t.anyCarries s.vocabulary.restrictionKeys s.vocabulary.restricted then ⟨true, .fordRestricted⟩
  else ⟨false, .fordPassable⟩

def decideNode : NodeDecision :=
  if t.carriesAny "barrier" s.categories.blockingBarriers then
    ⟨true, .blockingBarrier ((t.first? "barrier").getD "")⟩
  else if t.isFord && s.config.blockFords && !s.intended t "wheelchair" then ⟨true, .ford⟩
  else if t.carriesAny "barrier" (s.categories.tier .potentialBarriers) then
    s.potentialBarrierDecision t
  else if t.isFord then s.fordDecision t
  else ⟨false, .unobstructed⟩

def blocks : Bool := (s.decideNode t).blocked

end Settings
end StepFree
