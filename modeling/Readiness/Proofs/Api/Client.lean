import Readiness.Api.Client
import Readiness.Proofs.Program

/-! The runs of an API client: first the catalog, then the resource that the kind means, then one
exchange with the server. -/
namespace Readiness.Api

variable {σ : Type} {server : Request → σ → Option (Reply × σ)} {before : σ}

theorem run_exchange (shape : Json.Shape) (request : Request) :
    (exchange shape (.ok request)).run server before =
      (server request before).map fun (reply, after) => (reply.read shape, after) := by
  rw [exchange, Program.run_bind, Program.run_perform]
  cases server request before <;> rfl

namespace Client

/-- What a client says of a kind that it does not find in its catalog. -/
def unknownKind (kind : String) : FetchError := .invalid ("unknown resource kind `" ++ kind ++ "`")

theorem run_withKind {α : Type} (client : Client) (kind : String)
    (use : Resource → Session (Except FetchError α)) :
    (client.withKind kind use).run server before =
      (client.discovered.run server before).bind fun
        | ((.error e, known), middle) => some ((.error e, known), middle)
        | ((.ok catalog, known), middle) =>
          (catalog.resolve kind).elim (some ((.error (unknownKind kind), known), middle))
            fun resource =>
              ((use resource).run server middle).map fun (answer, after) =>
                ((answer, known), after) := by
  rw [withKind, Program.run_bind]
  refine congrArg _ (funext fun ⟨⟨catalog, known⟩, middle⟩ => ?_)
  cases catalog with
  | error e => rfl
  | ok catalog =>
    simp only
    cases catalog.resolve kind with
    | none => rfl
    | some resource =>
      simp only [Program.run_bind, Option.elim_some]
      cases (use resource).run server middle <;> rfl

def taken (q : Query) (reply : Reply) : Except FetchError Reading :=
  match reply.read Document.object with
  | .error failure => .error (failure.asFetch q.text)
  | .ok document => Document.reading document q.path

theorem run_fetchOf (q : Query) (resource : Resource) :
    (fetchOf q resource).run server before =
      match named (resource.path q.space) q.name with
      | .error failure => some (.error (failure.asFetch q.text), before)
      | .ok request =>
        (server request before).map fun (reply, after) => (taken q reply, after) := by
  rw [fetchOf, Program.run_bind]
  cases named (resource.path q.space) q.name with
  | error failure => rfl
  | ok request =>
    simp only [run_exchange]
    cases server request before with
    | none => rfl
    | some out =>
      simp only [Option.map_some, Option.bind_some, taken]
      cases out.1.read Document.object <;> rfl

section Fetching

variable {client known : Client} {catalog : Catalog} {q : Query} {resource : Resource}
variable {middle after : σ} {request : Request} {reply : Reply}

/-- Once the kind is found, only the object is asked for. -/
theorem run_fetch_of_served
    (discovered : client.discovered.run server before = some ((.ok catalog, known), middle))
    (served : catalog.resolve q.kind = some resource) :
    (client.answer (.fetch q)).run server before =
      ((fetchOf q resource).run server middle).map fun (answer, after) => ((answer, known), after) := by
  refine (run_withKind client q.kind (fetchOf q)).trans ?_
  rw [discovered]
  simp only [Option.bind_some, served, Option.elim_some]
  rfl

theorem run_fetch_of_replied
    (discovered : client.discovered.run server before = some ((.ok catalog, known), middle))
    (served : catalog.resolve q.kind = some resource)
    (made : named (resource.path q.space) q.name = .ok request)
    (answered : server request middle = some (reply, after)) :
    (client.answer (.fetch q)).run server before = some ((taken q reply, known), after) := by
  rw [run_fetch_of_served discovered served, run_fetchOf, made]
  simp only [answered, Option.map_some]
  rfl

end Fetching

end Client

end Readiness.Api
