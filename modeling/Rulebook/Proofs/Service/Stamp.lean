import Mathlib.Data.List.Forall2
import Rulebook.Proofs.Resolution.Soundness
import Rulebook.Service

namespace Rulebook

open Resolution

/-- The outcome with the stamp taken off its contract. -/
def Outcome.unstamped : Outcome → Outcome
  | .contract stamped => .contract ⟨stamped.contract.unstamped, stamped.fingerprint⟩
  | .blocked block => .blocked block

theorem Contract.unstamped_stamp (contract : Contract) (id : Uuid) (time : Instant) :
    (contract.stamp id time).unstamped = contract.unstamped := rfl

theorem Contract.fingerprint_stamp (contract : Contract) (id : Uuid) (time : Instant) :
    (contract.stamp id time).fingerprint = contract.fingerprint := by
  rw [Contract.fingerprint, Contract.unstamped_stamp, Contract.fingerprint]

theorem run_mapM_fst {σ α β : Type} {f : α → StateM σ β} {g : α → β}
    (h : ∀ a s, ((f a).run s).1 = g a) (as : List α) (s : σ) :
    ((as.mapM f).run s).1 = as.map g := by
  induction as generalizing s with
  | nil => rfl
  | cons a as ih =>
      rw [List.mapM_cons]
      show ((f a).run s).1 :: ((as.mapM f).run ((f a).run s).2).1 = _
      rw [h, ih]
      rfl

namespace Service

variable {service : Service} {request : Request}

theorem exists_contractOf {contract : Contract}
    (h : service.resolve request = .contract contract) :
    ∃ context rules, contract = contractOf request context rules := by
  rw [resolve, Resolution.resolve] at h
  cases hload : Context.load service.catalog service.projects request with
  | error block =>
      rw [hload] at h
      cases h
  | ok context =>
      rw [hload] at h
      obtain ⟨rules, -, hcontract⟩ := resolveIn_eq_contract_iff.mp h
      exact ⟨context, rules, hcontract.symm⟩

theorem unstamped_of_resolve {contract : Contract}
    (h : service.resolve request = .contract contract) : contract.unstamped = contract := by
  obtain ⟨context, rules, rfl⟩ := exists_contractOf h
  rfl

theorem outcome_of_contract {contract : Contract}
    (h : service.resolve request = .contract contract) (ticket : Ticket) :
    service.outcome ticket request =
      .contract ⟨contract.stamp ticket.contractId ticket.time, contract.fingerprint⟩ := by
  rw [outcome, h]

theorem outcome_of_blocked {block : Block} (h : service.resolve request = .blocked block)
    (ticket : Ticket) : service.outcome ticket request = .blocked block := by
  rw [outcome, h]

theorem unstamped_outcome (ticket ticket' : Ticket) :
    (service.outcome ticket request).unstamped = (service.outcome ticket' request).unstamped := by
  cases h : service.resolve request with
  | contract contract =>
      rw [outcome_of_contract h, outcome_of_contract h]
      rfl
  | blocked block => rw [outcome_of_blocked h, outcome_of_blocked h]

/-- The outcome is what resolution answers to the request, with a stamp on its contract and the
fingerprint of the contract. -/
structure Stamps (service : Service) (request : Request) (outcome : Outcome) : Prop where
  blocked : ∀ block, outcome = .blocked block ↔ service.resolve request = .blocked block
  contract : ∀ stamped, outcome = .contract stamped →
    ∃ contract, service.resolve request = .contract contract ∧
      stamped.contract.unstamped = contract ∧
      stamped.contract.id.isSome ∧ stamped.contract.generatedAt.isSome ∧
      stamped.fingerprint = contract.fingerprint ∧
      stamped.fingerprint = stamped.contract.fingerprint

theorem stamps_outcome (service : Service) (ticket : Ticket) (request : Request) :
    service.Stamps request (service.outcome ticket request) := by
  cases h : service.resolve request with
  | contract contract =>
      rw [outcome_of_contract h]
      refine ⟨fun block => ?_, fun stamped hstamped => ⟨contract, h, ?_⟩⟩
      · rw [h]
        constructor <;> intro hblock <;> cases hblock
      · cases hstamped
        exact ⟨unstamped_of_resolve h, rfl, rfl, rfl, (Contract.fingerprint_stamp _ _ _).symm⟩
  | blocked block =>
      rw [outcome_of_blocked h]
      refine ⟨fun block' => ?_, fun stamped hstamped => ?_⟩
      · rw [h]
        constructor <;> intro hblock <;> cases hblock <;> rfl
      · cases hstamped

/-- One compilation after the other, each with a ticket of its own. -/
def compileAll {m : Type → Type} [Monad m] (service : Service) (sink : Audit.Sink m)
    (tickets : Nat → Ticket) (requests : List Request) : m (List Outcome) :=
  requests.zipIdx.mapM fun (request, k) => service.compile sink (tickets k) request

theorem run_compile {σ : Type} (service : Service) (sink : Audit.Sink (StateM σ)) (ticket : Ticket)
    (request : Request) (s : σ) :
    (service.compile sink ticket request).run s =
      (service.outcome ticket request,
        ((sink (entryOf ticket request (service.outcome ticket request))).run s).2) := rfl

theorem run_compileAll {σ : Type} (service : Service) (sink : Audit.Sink (StateM σ))
    (tickets : Nat → Ticket) (requests : List Request) (s : σ) :
    ((service.compileAll sink tickets requests).run s).1 =
      requests.zipIdx.map fun (request, k) => service.outcome (tickets k) request := by
  rw [compileAll]
  refine run_mapM_fst (fun attempt s => ?_) _ s
  rw [run_compile]

/-- Whatever becomes of the records, compilations answer as resolution does. Two runs over the same
requests differ only in the stamps that they are given. -/
theorem compileAll_stamps (service : Service) (requests : List Request) {σ τ : Type}
    (sink : Audit.Sink (StateM σ)) (sink' : Audit.Sink (StateM τ)) (start : σ) (start' : τ)
    (tickets tickets' : Nat → Ticket) :
    ((service.compileAll sink tickets requests).run start).1.map Outcome.unstamped =
        ((service.compileAll sink' tickets' requests).run start').1.map Outcome.unstamped ∧
      List.Forall₂ service.Stamps requests
        ((service.compileAll sink tickets requests).run start).1 := by
  rw [run_compileAll, run_compileAll]
  constructor
  · rw [List.map_map, List.map_map]
    refine List.map_congr_left fun attempt _ => ?_
    exact unstamped_outcome _ _
  · have hpairs : List.Forall₂ (fun attempt outcome => service.Stamps attempt.1 outcome)
        requests.zipIdx
        (requests.zipIdx.map fun (request, k) => service.outcome (tickets k) request) := by
      rw [List.forall₂_map_right_iff, List.forall₂_same]
      intro attempt _
      exact service.stamps_outcome _ _
    have hrequests := List.forall₂_map_left_iff.mpr hpairs
    rwa [List.zipIdx_map_fst] at hrequests

end Service

end Rulebook
