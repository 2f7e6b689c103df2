import NetworkTopology.Proofs.Result
import NetworkTopology.Rest.Api

/-!
# Requests and their effects

Of all requests only four kinds touch the topology: the removal of a vertex, a
connection, a refresh and a reset.  Everything else is answered from what is there,
and no answer but that to a connection says that something was created.
-/

namespace NetworkTopology.Rest

variable {O : Type}

/-! ## Answers -/

namespace Response

def status : Response → Nat
  | document status _ => status
  | refusal status _ => status
  | bare status => status

/-- The id of what was created, if the answer says that something was. -/
def created? : Response → Option String
  | document 201 (.obj fields) =>
    match Fields.get? fields "id" with
    | some (.str id) => some id
    | _ => none
  | _ => none

theorem created?_head (response : Response) : (Api.head response).created? = none := by
  cases response <;> rfl

theorem created?_edgeDocument (e : Edge) :
    (document 201 (edgeDocument e)).created? = some e.key.id := rfl

end Response

/-- The id of what a request created, if it created something. -/
def created? (outcome : Except Fault Response) : Option String :=
  outcome.toOption.bind Response.created?

/-- A request failed: there is no answer, or one that says so. -/
def Failed (outcome : Except Fault Response) : Prop :=
  ∀ response, outcome = .ok response → 400 ≤ response.status

/-! ## Targets -/

/-- The method and the resource that a request leads to, if it leads to one. -/
def Request.target? (request : Request) : Option (String × Resource) :=
  match request.recipient with
  | .error _ => none
  | .ok recipient =>
    if recipient.isProper then
      match recipient.destination request.methodName with
      | .resource resource => some (request.methodName, resource)
      | _ => none
    else none

/-- A request that leads to a refresh or a reset. -/
def Request.Rebuilds (request : Request) : Prop :=
  request.target? = some ("POST", .refresh) ∨ request.target? = some ("POST", .reset)

instance (request : Request) : Decidable request.Rebuilds :=
  inferInstanceAs (Decidable (request.target? = some ("POST", .refresh) ∨
    request.target? = some ("POST", .reset)))

theorem Request.methodName_of_head {request : Request} (h : request.method = "HEAD") :
    request.methodName = "HEAD" := by
  rw [methodName, h]
  decide

/-! ## Reading -/

namespace Api

variable {api : Api O} {t : Topology O}

theorem created?_get {resource : Resource} {response : Response}
    (h : api.get resource t = .ok response) : response.created? = none := by
  cases resource with
  | vertices =>
      obtain ⟨documents, -, h⟩ := Result.of_bind_ok h
      cases h
      rfl
  | edges =>
      obtain ⟨documents, -, h⟩ := Result.of_bind_ok h
      cases h
      rfl
  | vertex id =>
      rw [get] at h
      split at h
      · obtain ⟨v, -, h⟩ := Result.of_bind_ok h
        obtain ⟨document, -, h⟩ := Result.of_bind_ok h
        cases h
        rfl
      · cases h
        rfl
  | edge id =>
      rw [get] at h
      split at h
      · obtain ⟨e, -, h⟩ := Result.of_bind_ok h
        obtain ⟨document, -, h⟩ := Result.of_bind_ok h
        cases h
        rfl
      · cases h
        rfl
  | vertexEdges id =>
      simp only [get] at h
      split at h
      · obtain ⟨edges, -, h⟩ := Result.of_bind_ok h
        cases h
        rfl
      · cases h
        rfl
  | health | file _ | selection | refresh | reset =>
      cases h
      rfl

theorem created?_orFailed_get (resource : Resource) :
    (orFailed (api.get resource t)).created? = none := by
  cases h : api.get resource t with
  | error fault => rfl
  | ok response => exact created?_get h

/-! ## Effects -/

/-- What a request does to a topology and how it is answered. -/
inductive Effect (api : Api O) (request : Request) (t : Topology O) :
    Topology O × Except Fault Response → Prop
  | none {outcome : Except Fault Response} (h : created? outcome = .none) :
      Effect api request t (t, outcome)
  | delete (id : String) :
      Effect api request t ((api.delete id t).1, .ok (api.delete id t).2)
  | connect (body : Json) :
      Effect api request t ((api.connect body t).1, .ok (api.connect body t).2)
  | refresh (body : Json) (h : request.target? = some ("POST", .refresh)) :
      Effect api request t ((api.post .refresh body t).1, .ok (api.post .refresh body t).2)
  | reset (body : Json) (h : request.target? = some ("POST", .reset)) :
      Effect api request t ((api.post .reset body t).1, .ok (api.post .reset body t).2)

/-- A method at a resource deletes, posts or reads. -/
theorem route_cases (api : Api O) (method : String) (resource : Resource) (body : Json)
    (t : Topology O) :
    (∃ id, method = "DELETE" ∧
      api.route method (.resource resource) body t = api.delete id t) ∨
    (method = "POST" ∧
      api.route method (.resource resource) body t = api.post resource body t) ∨
    api.route method (.resource resource) body t = (t, orFailed (api.get resource t)) := by
  simp only [route]
  split
  · exact .inl ⟨_, rfl, rfl⟩
  · exact .inr (.inl ⟨rfl, rfl⟩)
  · exact .inr (.inr rfl)

theorem effect_post {request : Request} {resource : Resource}
    (h : request.target? = some ("POST", resource)) (body : Json) :
    Effect api request t ((api.post resource body t).1, .ok (api.post resource body t).2) := by
  cases resource with
  | edges => exact .connect body
  | refresh => exact .refresh body h
  | reset => exact .reset body h
  | selection =>
      cases hselection : selection body t with
      | error fault =>
          simp only [post, hselection]
          exact .none rfl
      | ok document =>
          simp only [post, hselection]
          exact .none rfl
  | health | vertices | vertex _ | vertexEdges _ | edge _ | file _ => exact .none rfl

/-- Every request has one of the effects. -/
theorem handle_effect (api : Api O) (request : Request) (t : Topology O) :
    Effect api request t (api.handle request t) := by
  rw [handle]
  cases hrecipient : request.recipient with
  | error fault => exact .none rfl
  | ok recipient =>
      by_cases hproper : recipient.isProper = true
      · simp only [hproper, if_true]
        cases hdestination : recipient.destination request.methodName with
        | resource resource =>
            have htarget : request.target? = some (request.methodName, resource) := by
              simp only [Request.target?, hrecipient, hproper, hdestination, if_true]
            have hroute := api.route_cases request.methodName resource request.document t
            by_cases hhead : request.method = "HEAD"
            · have hname := Request.methodName_of_head hhead
              rcases hroute with ⟨id, hmethod, -⟩ | ⟨hmethod, -⟩ | heq
              · exact absurd (hname.symm.trans hmethod) (by decide)
              · exact absurd (hname.symm.trans hmethod) (by decide)
              · rw [heq, if_pos hhead]
                exact .none (Response.created?_head _)
            · rcases hroute with ⟨id, -, heq⟩ | ⟨hmethod, heq⟩ | heq
              · rw [heq, if_neg hhead]
                exact .delete id
              · rw [heq, if_neg hhead]
                rw [hmethod] at htarget
                exact effect_post htarget _
              · rw [heq, if_neg hhead]
                exact .none (created?_orFailed_get resource)
        | options | elsewhere | wrongMethod | noWebSocket | nowhere =>
            simp only [route]
            refine .none ?_
            split <;> rfl
      · simp only [hproper]
        refine .none ?_
        split <;> rfl

/-- The interface to a provider whose loader has something to offer. -/
def ofLoader (watch : Observation O) (p : Nat) (updated : O → Bool)
    (loaded : Except Fault Graph) : Api O :=
  { watch, provider := p, refresh := fun t => t.refresh watch p loaded, updated }

end Api

/-! ## Runs of requests -/

/-- A request and what came of it. -/
structure Exchange (O : Type) where
  before : Topology O
  request : Request
  outcome : Except Fault Response
  after : Topology O

/-- Requests served in order, each with what the loader has to offer meanwhile. -/
def exchanges (watch : Observation O) (p : Nat) (updated : O → Bool) :
    List (Request × Except Fault Graph) → Topology O → List (Exchange O)
  | [], _ => []
  | (request, loaded) :: inputs, t =>
    let (after, outcome) := (Api.ofLoader watch p updated loaded).handle request t
    { before := t, request, outcome, after } :: exchanges watch p updated inputs after

/-- A run begins with an exchange, and goes on from where that one led. -/
theorem exchanges_cons (watch : Observation O) (p : Nat) (updated : O → Bool)
    (request : Request) (loaded : Except Fault Graph)
    (inputs : List (Request × Except Fault Graph)) (t : Topology O) :
    ∃ x : Exchange O,
      exchanges watch p updated ((request, loaded) :: inputs) t =
        x :: exchanges watch p updated inputs x.after ∧
      x.before = t ∧ x.request = request ∧
      (Api.ofLoader watch p updated loaded).handle request t = (x.after, x.outcome) :=
  ⟨_, rfl, rfl, rfl, rfl⟩

end NetworkTopology.Rest
