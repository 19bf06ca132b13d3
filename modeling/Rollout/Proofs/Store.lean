import Rollout.Proofs.Evidence
import Rollout.Proofs.Reread

namespace Rollout

open Resource Scenario Client Course Evidence

namespace MachineDeployment

def withVersion (d : MachineDeployment) (version : String) : MachineDeployment :=
  { d with metadata.resourceVersion := some version }

end MachineDeployment

-- A deployment that a server keeps, and the versions that the server has given so far.
structure Store where
  object : MachineDeployment
  version : String
  given : List String
  object_version : object.metadata.resourceVersion = some version
  version_mem : version ∈ given

namespace Store

def write (σ : Store) (d : MachineDeployment) (version : String) : Store :=
  ⟨d.withVersion version, version, version :: σ.given, rfl, List.mem_cons_self⟩

end Store

-- What may happen at the server: another client writes, or a request of ours comes to nothing, or
-- reads the deployment, or writes it.
inductive Act where
  | foreign (d : MachineDeployment) (version : String)
  | failed (e : Exchange)
  | read (e : Exchange)
  | stored (e : Exchange) (d : MachineDeployment) (version : String)

namespace Act

def exchange? : Act → Option Exchange
  | foreign _ _ => none
  | failed e | read e | stored e _ _ => some e

def isForeign : Act → Bool
  | foreign _ _ => true
  | failed _ | read _ | stored _ _ _ => false

def isStored : Act → Bool
  | stored _ _ _ => true
  | foreign _ _ | failed _ | read _ => false

-- A write gets a version that was not given before. One of ours is accepted only if it bears the
-- version that the deployment has. What fails, fails without an effect.
inductive Does : Store → Act → Store → Prop
  | foreign {σ : Store} {d : MachineDeployment} {version : String} (fresh : version ∉ σ.given) :
      Does σ (.foreign d version) (σ.write d version)
  | failed {σ : Store} {e : Exchange} {failure : ApiFailure}
      (hread : readObject MachineDeployment e.reply = .error failure) : Does σ (.failed e) σ
  | read {σ : Store} {e : Exchange} (hget : e.request.method = .get)
      (hread : readObject MachineDeployment e.reply = .ok σ.object) : Does σ (.read e) σ
  | stored {σ : Store} {e : Exchange} {body : Json} {d : MachineDeployment} {version : String}
      (hput : e.request.method = .put) (hbody : e.request.body = some body)
      (hd : body.decode MachineDeployment = .ok d)
      (hversion : d.metadata.resourceVersion = some σ.version) (fresh : version ∉ σ.given)
      (hread : readObject MachineDeployment e.reply = .ok (d.withVersion version)) :
      Does σ (.stored e d version) (σ.write d version)

end Act

inductive Serves : Store → List Act → Store → Prop
  | done {σ : Store} : Serves σ [] σ
  | act {σ τ σ' : Store} {a : Act} {acts : List Act} (h : a.Does σ τ) (rest : Serves τ acts σ') :
      Serves σ (a :: acts) σ'

namespace Serves

variable {σ σ' : Store} {acts more : List Act}

theorem split (h : Serves σ (acts ++ more) σ') : ∃ τ, Serves σ acts τ ∧ Serves τ more σ' := by
  induction acts generalizing σ with
  | nil => exact ⟨σ, .done, h⟩
  | cons a acts ih =>
    cases h with
    | act h rest =>
      obtain ⟨τ, hacts, hmore⟩ := ih rest
      exact ⟨τ, .act h hacts, hmore⟩

theorem append {τ : Store} (h : Serves σ acts τ) (hmore : Serves τ more σ') :
    Serves σ (acts ++ more) σ' := by
  induction h with
  | done => exact hmore
  | act h _ ih => exact .act h (ih hmore)

-- A deployment that has been written has another version than any it had before.
theorem eq_or_fresh (h : Serves σ acts σ') : σ' = σ ∨ σ'.version ∉ σ.given := by
  induction h with
  | done => exact .inl rfl
  | @act σ τ σ' a acts h _ ih =>
    have hwritten {d : MachineDeployment} {version : String} (fresh : version ∉ σ.given)
        (ih : σ' = σ.write d version ∨ σ'.version ∉ (σ.write d version).given) :
        σ'.version ∉ σ.given := by
      rcases ih with rfl | h
      · exact fresh
      · exact fun hmem => h (List.mem_cons_of_mem _ hmem)
    cases h with
    | foreign fresh => exact .inr (hwritten fresh ih)
    | failed hread => exact ih
    | read hget hread => exact ih
    | stored hput hbody hd hversion fresh hread => exact .inr (hwritten fresh ih)

-- As long as its version is the same, so is the deployment.
theorem eq_of_version_eq (h : Serves σ acts σ') (hversion : σ'.version = σ.version) : σ' = σ := by
  rcases h.eq_or_fresh with h | h
  · exact h
  · exact absurd (hversion ▸ σ.version_mem) h

-- Without a write of ours, the deployment is what the other clients have made of it.
theorem foreign (h : Serves σ acts σ') (hstored : ∀ a ∈ acts, a.isStored = false) :
    Serves σ (acts.filter Act.isForeign) σ' := by
  induction h with
  | done => exact .done
  | act h _ ih =>
    have hrest := ih fun a ha => hstored a (List.mem_cons_of_mem _ ha)
    cases h with
    | foreign fresh => exact .act (.foreign fresh) hrest
    | failed hread => exact hrest
    | read hget hread => exact hrest
    | stored hput hbody hd hversion fresh hread => cases hstored _ List.mem_cons_self

end Serves

end Rollout
