import Rulebook.Block
import Rulebook.Choices
import Rulebook.Contract
import Rulebook.Document.Tagged

namespace Rulebook

open Document

/-- The name of the member that tells how a request ended. -/
def Status.tagName : String := "status"

def Status.member (status : Status) : List (String × Json) :=
  Json.textMember Status.tagName status.name

/-- The outcome of a resolution. -/
inductive Resolution where
  | contract (contract : Contract)
  | blocked (block : Block)

namespace Resolution

/-- Whether there is a contract. -/
def isOk : Resolution → Bool
  | .contract _ => true
  | .blocked _ => false

/-- The contract, if there is one. -/
def contract? : Resolution → Option Contract
  | .contract compiled => some compiled
  | .blocked _ => none

/-- The block, if there is one. -/
def block? : Resolution → Option Block
  | .contract _ => none
  | .blocked block => some block

def read : Reader Resolution :=
  tagged "ResolveResult" Status.tagName Status.variants fun
    | .ok => fun origin node => .contract <$> Contract.read origin node
    | .blocked => fun origin node => .blocked <$> Block.read origin node

def toJson : Resolution → Json
  | .contract compiled => .object (Status.ok.member ++ compiled.members)
  | .blocked block => .object (Status.blocked.member ++ block.members)

end Resolution

/-- A stamped contract with the digest of its content. -/
structure StampedContract where
  contract : Contract
  fingerprint : Fingerprint

namespace StampedContract

/-- The fields of a written stamped contract. -/
def fields : Fields [Contract, Fingerprint] :=
  .cons (.required "contract" Contract.read) <|
  .cons (.required "fingerprint" Fingerprint.read) .nil

def read : Reader StampedContract := fun origin node => do
  let (contract, fingerprint, ()) ← fields.read "StampedContract" origin node
  return { contract, fingerprint }

def members (stamped : StampedContract) : List (String × Json) :=
  [("contract", stamped.contract.toJson), ("fingerprint", stamped.fingerprint.toJson)]

end StampedContract

/-- The outcome of a compilation. -/
inductive Outcome where
  | contract (stamped : StampedContract)
  | blocked (block : Block)

namespace Outcome

/-- Whether there is no contract. -/
def isBlocked : Outcome → Bool
  | .contract _ => false
  | .blocked _ => true

/-- The contract, if there is one. -/
def contract? : Outcome → Option StampedContract
  | .contract stamped => some stamped
  | .blocked _ => none

/-- The block, if there is one. -/
def block? : Outcome → Option Block
  | .contract _ => none
  | .blocked block => some block

def read : Reader Outcome :=
  tagged "CompiledOutcome" Status.tagName Status.variants fun
    | .ok => fun origin node => .contract <$> StampedContract.read origin node
    | .blocked => fun origin node => .blocked <$> Block.read origin node

def toJson : Outcome → Json
  | .contract stamped => .object (Status.ok.member ++ stamped.members)
  | .blocked block => .object (Status.blocked.member ++ block.members)

end Outcome

end Rulebook
