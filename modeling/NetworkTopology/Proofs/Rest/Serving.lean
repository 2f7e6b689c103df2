import NetworkTopology.Proofs.Rest.Exchange
import NetworkTopology.Proofs.Topology.Removal

/-!
# What methods are served with

A method at a resource is served alike however it is addressed.  To read changes
nothing, and neither does a selection; the removal of a vertex takes the edges along
that are attached to it.
-/

namespace NetworkTopology.Rest.Api

variable {O : Type} {api : Api O} {t : Topology O}

/-- With a document that is sent along, a method at a resource leads to a topology and
an answer. -/
structure Serves (api : Api O) (method : String) (resource : Resource) (body : Json)
    (t : Topology O) (served : Topology O × Response) : Prop where
  route_eq : api.route method (.resource resource) body t = served
  handle_eq : ∀ request : Request, request.target? = some (method, resource) →
    request.document = body → api.handle request t = (served.1, .ok served.2)

/-- A resource is read as a response, whatever is sent along, and nothing changes. -/
def Shows (api : Api O) (resource : Resource) (t : Topology O) (response : Response) : Prop :=
  ∀ body, api.Serves "GET" resource body t (t, response)

/-! ## Requests -/

theorem handle_of_target {request : Request} {method : String} {resource : Resource}
    (h : request.target? = some (method, resource)) (hmethod : method ≠ "HEAD") :
    api.handle request t =
      ((api.route method (.resource resource) request.document t).1,
        .ok (api.route method (.resource resource) request.document t).2) := by
  rw [Request.target?] at h
  rw [handle]
  cases hrecipient : request.recipient with
  | error fault =>
      rw [hrecipient] at h
      cases h
  | ok recipient =>
      simp only [hrecipient] at h ⊢
      by_cases hproper : recipient.isProper = true
      · simp only [hproper, if_true] at h ⊢
        split at h
        · rename_i found hdestination
          obtain ⟨rfl, rfl⟩ := Prod.mk.inj (Option.some.inj h)
          have hhead : request.method ≠ "HEAD" := fun hhead =>
            hmethod (Request.methodName_of_head hhead)
          rw [hdestination, if_neg hhead]
        · cases h
      · rw [if_neg hproper] at h
        cases h

theorem serves_of_route {method : String} {resource : Resource} {body : Json}
    {served : Topology O × Response} (hmethod : method ≠ "HEAD")
    (h : api.route method (.resource resource) body t = served) :
    api.Serves method resource body t served := by
  refine ⟨h, ?_⟩
  rintro request htarget rfl
  rw [handle_of_target htarget hmethod, h]

/-! ## Reading and selecting -/

theorem route_get (resource : Resource) (body : Json) :
    api.route "GET" (.resource resource) body t = (t, orFailed (api.get resource t)) := by
  rcases api.route_cases "GET" resource body t with ⟨id, hmethod, -⟩ | ⟨hmethod, -⟩ | heq
  · exact absurd hmethod (by decide)
  · exact absurd hmethod (by decide)
  · exact heq

theorem shows_of_get {resource : Resource} {response : Response}
    (h : api.get resource t = .ok response) : api.Shows resource t response := by
  intro body
  apply serves_of_route (by decide)
  rw [route_get, h]
  rfl

theorem shows_of_get_error {resource : Resource} {fault : Fault}
    (h : api.get resource t = .error fault) : api.Shows resource t (.bare 500) := by
  intro body
  apply serves_of_route (by decide)
  rw [route_get, h]
  rfl

/-- Whatever is read, and wherever it is looked for, nothing changes. -/
theorem handle_get_fst {request : Request} (h : request.methodName = "GET") :
    (api.handle request t).1 = t := by
  rw [handle]
  split
  · rfl
  · rename_i recipient hrecipient
    by_cases hproper : recipient.isProper = true
    · simp only [hproper, if_true, h]
      cases recipient.destination "GET" with
      | resource resource => exact congrArg Prod.fst (route_get resource _)
      | options | elsewhere | wrongMethod | noWebSocket | nowhere => rfl
    · simp only [hproper]
      rfl

theorem post_selection_fst (body : Json) : (api.post .selection body t).1 = t := by
  rw [post]
  split <;> rfl

theorem handle_selection_fst {request : Request}
    (h : request.target? = some ("POST", .selection)) : (api.handle request t).1 = t := by
  rw [handle_of_target h (by decide)]
  exact post_selection_fst _

/-! ## Removing -/

/-- The document about a vertex that was removed. -/
def removalDocument (id : String) (edges : List String) : Json :=
  .obj [("removed", .str id), ("removed_edges", .arr (edges.map .str))]

theorem delete_of_absent {id : String} (h : t.vertices.contains ⟨t.ns, id⟩ = false) :
    api.delete id t = (t, missing "Vertex" id) := by
  simp only [delete, h]
  rfl

theorem delete_of_contains (hquiet : api.watch.Quiet) {es : List Edge}
    (hes : t.edges.entries = es.map .edge) {id : String}
    (h : t.vertices.contains ⟨t.ns, id⟩ = true) :
    ∃ t', Topology.Detached ⟨t.ns, id⟩ es t t' ∧
      api.delete id t = (t', .document 200 (removalDocument id
        ((es.filter fun e => e.connects ⟨t.ns, id⟩).map fun e => e.key.id))) := by
  obtain ⟨t', hremove, hdetached⟩ := hquiet.removeWithEdges hes ⟨t.ns, id⟩
  have hattached := Store.attached_of_edges hes ⟨t.ns, id⟩
  have hall : t.removeAllWithEdges api.watch [some ⟨t.ns, id⟩] = (t', .ok ()) := by
    rw [Topology.removeAllWithEdges, hremove]
    rfl
  refine ⟨t', hdetached, ?_⟩
  simp only [delete, h, if_true, hattached, hall]
  rfl

end NetworkTopology.Rest.Api
