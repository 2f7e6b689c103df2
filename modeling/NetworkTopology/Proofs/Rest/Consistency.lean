import NetworkTopology.Proofs.Rest.Serving
import NetworkTopology.Proofs.Topology.Presentable
import NetworkTopology.Proofs.Topology.RoundTrip

/-!
# One state behind all routes

Whatever the listings show of the vertices and edges is what the routes to single
ones answer, and what a removal takes away is what is missing in the listings
afterwards.
-/

namespace NetworkTopology

variable {O : Type}

/-! ## Reading documents -/

namespace Json

/-- What a document holds behind a path of field names. -/
def at? : Json → List String → Option Json
  | document, [] => some document
  | document, name :: path =>
      (document.fields?.bind fun fields => Fields.get? fields name).bind fun value =>
        value.at? path

/-- A document that tells this id. -/
def bears (id : String) (item : Json) : Bool :=
  decide (item.at? ["id"] = some (.str id))

/-- A document of an edge that tells this id at one of its ends. -/
def touches (id : String) (item : Json) : Bool :=
  decide (item.at? ["source", "vertex"] = some (.str id) ∨
    item.at? ["target", "vertex"] = some (.str id))

theorem areWritable_map_str (ids : List String) : areWritable (ids.map .str) = true := by
  induction ids with
  | nil => rfl
  | cons id ids ih => rw [List.map_cons, areWritable, isWritable, ih, Bool.true_and]

theorem isWritable_obj_cons_str (name value : String) (fields : Fields) :
    (obj ((name, str value) :: fields)).isWritable = fieldsWritable fields := by
  rw [isWritable, fieldsWritable, isWritable, Bool.true_and]

end Json

/-! ## Items -/

/-- A vertex that can be shown: what it stands for is there, and no integer among its fields has
too many digits. -/
structure Vertex.Showable (v : Vertex) : Prop where
  filled : none ∉ v.children
  label : v.label.isWritable = true
  tooltip : v.tooltip.isWritable = true
  ipAddress : v.ipAddress.isWritable = true
  nodeId : v.nodeId.isWritable = true

namespace Rest

open Json (bears touches)

def vertexItem (v : Vertex) : Json :=
  (vertexDocument v).toOption.getD .null

theorem exists_childKeys {v : Vertex} (h : none ∉ v.children) :
    ∃ keys, v.childKeys = .ok keys := by
  rw [Vertex.childKeys]
  generalize v.children = places at h
  induction places with
  | nil => exact ⟨[], rfl⟩
  | cons place places ih =>
      obtain ⟨keys, heq⟩ := ih fun hmem => h (List.mem_cons_of_mem _ hmem)
      cases place with
      | none => exact absurd List.mem_cons_self h
      | some key =>
          rw [List.mapM_cons, heq]
          exact ⟨key :: keys, rfl⟩

theorem filled_of_vertexDocument {v : Vertex} {document : Json}
    (h : vertexDocument v = .ok document) : none ∉ v.children := by
  intro hgap
  by_cases hcollapsible : v.isCollapsible = true
  · simp only [vertexDocument, hcollapsible, if_true] at h
    obtain ⟨keys, hkeys, -⟩ := Result.of_bind_ok h
    obtain ⟨key, hkey⟩ := Result.of_mapM_ok hkeys hgap
    cases hkey
  · have hgroup : v.group = none := by simpa [Vertex.isCollapsible] using hcollapsible
    rw [Vertex.children, hgroup] at hgap
    cases hgap

theorem written_eq_ok_iff {document answered : Json} :
    written document = .ok answered ↔ document.isWritable = true ∧ document = answered := by
  rw [written]
  split <;> simp_all

/-- Behind the id a vertex is shown by its fields and, if it stands for others, their ids. -/
theorem exists_vertexDocument_eq {v : Vertex} (h : none ∉ v.children) :
    ∃ fields : Fields, vertexDocument v = written (.obj (("id", .str v.key.id) :: fields)) ∧
      (Json.fieldsWritable fields = true ↔ v.label.isWritable = true ∧
        v.tooltip.isWritable = true ∧ v.ipAddress.isWritable = true ∧
        v.nodeId.isWritable = true) := by
  obtain ⟨keys, hkeys⟩ := exists_childKeys h
  by_cases hcollapsible : v.isCollapsible = true
  · simp only [vertexDocument, hcollapsible, if_true, hkeys]
    refine ⟨_, rfl, ?_⟩
    simp [Json.fieldsWritable, Json.isWritable, Json.areWritable_map_str]
  · simp only [vertexDocument, hcollapsible]
    refine ⟨_, rfl, ?_⟩
    simp [Json.fieldsWritable, Json.isWritable]

/-- A vertex has a document exactly if it can be shown. -/
theorem exists_vertexDocument_iff {v : Vertex} :
    (∃ document, vertexDocument v = .ok document) ↔ v.Showable := by
  constructor
  · rintro ⟨document, h⟩
    have hfilled := filled_of_vertexDocument h
    obtain ⟨fields, heq, hwritable⟩ := exists_vertexDocument_eq hfilled
    rw [heq, written_eq_ok_iff, Json.isWritable_obj_cons_str] at h
    obtain ⟨hlabel, htooltip, hipAddress, hnodeId⟩ := hwritable.mp h.1
    exact ⟨hfilled, hlabel, htooltip, hipAddress, hnodeId⟩
  · intro h
    obtain ⟨fields, heq, hwritable⟩ := exists_vertexDocument_eq h.filled
    refine ⟨_, heq.trans (written_eq_ok_iff.mpr ⟨?_, rfl⟩)⟩
    rw [Json.isWritable_obj_cons_str]
    exact hwritable.mpr ⟨h.label, h.tooltip, h.ipAddress, h.nodeId⟩

theorem id_of_vertexDocument {v : Vertex} {document : Json}
    (h : vertexDocument v = .ok document) : document.at? ["id"] = some (.str v.key.id) := by
  obtain ⟨fields, heq, -⟩ := exists_vertexDocument_eq (filled_of_vertexDocument h)
  obtain ⟨-, rfl⟩ := written_eq_ok_iff.mp (heq.symm.trans h)
  rfl

theorem vertexDocument_of_showable {v : Vertex} (h : v.Showable) :
    vertexDocument v = .ok (vertexItem v) := by
  obtain ⟨document, heq⟩ := exists_vertexDocument_iff.mpr h
  rw [vertexItem, heq]
  rfl

/-- An edge has a document exactly if its label can be written. -/
theorem isWritable_edgeDocument (e : Edge) :
    (edgeDocument e).isWritable = e.label.isWritable := by
  simp [edgeDocument, connectorDocument, Json.isWritable, Json.fieldsWritable]

theorem bears_iff {id own : String} {item : Json} (h : item.at? ["id"] = some (.str own)) :
    bears id item = (own == id) := by
  rw [bears, h, Bool.eq_iff_iff, decide_eq_true_iff, beq_iff_eq, Option.some.injEq,
    Json.str.injEq]

theorem bears_vertexItem {v : Vertex} (h : v.Showable) (id : String) :
    bears id (vertexItem v) = (v.key.id == id) :=
  bears_iff (id_of_vertexDocument (vertexDocument_of_showable h))

theorem bears_edgeDocument (e : Edge) (id : String) :
    bears id (edgeDocument e) = (e.key.id == id) :=
  bears_iff rfl

theorem touches_edgeDocument {ns : String} {e : Edge}
    (h : e.sourceKey.ns = ns ∧ e.targetKey.ns = ns) (id : String) :
    touches id (edgeDocument e) = e.connects ⟨ns, id⟩ := by
  have hsource : (edgeDocument e).at? ["source", "vertex"] = some (.str e.sourceKey.id) := rfl
  have htarget : (edgeDocument e).at? ["target", "vertex"] = some (.str e.targetKey.id) := rfl
  have hkey : ∀ key : Key, key.ns = ns → (key.id = id ↔ key = ⟨ns, id⟩) := by
    rintro ⟨_, own⟩ rfl
    simp
  rw [touches, hsource, htarget, Bool.eq_iff_iff, decide_eq_true_iff, Edge.connects_iff,
    ← hkey _ h.1, ← hkey _ h.2]
  simp only [Option.some.injEq, Json.str.injEq]

/-! ## Listings -/

variable {api : Api O} {vs : List Vertex} {es : List Edge} {t : Topology O}

namespace Api

/-- The listing of the vertices answers with these items. -/
def ListsVertices (api : Api O) (items : List Json) (t : Topology O) : Prop :=
  api.Shows .vertices t (.document 200 (listDocument "vertices" items))

/-- The listing of the edges answers with these items. -/
def ListsEdges (api : Api O) (items : List Json) (t : Topology O) : Prop :=
  api.Shows .edges t (.document 200 (listDocument "edges" items))

/-- A single item is answered, or else the route fails. -/
def Presents (api : Api O) (resource : Resource) (t : Topology O) : Prop :=
  (∃ item, api.Shows resource t (.document 200 item)) ∨ api.Shows resource t (.bare 500)

theorem presents_of_get {resource : Resource} {found : Except Fault Json}
    (hget : api.get resource t = found.map (.document 200)) : api.Presents resource t := by
  cases found with
  | error fault => exact .inr (shows_of_get_error hget)
  | ok item => exact .inl ⟨item, shows_of_get hget⟩

/-- A response to a reading is that of the method. -/
theorem response_eq_of_shows {resource : Resource} {response : Response}
    (h : api.Shows resource t response) : orFailed (api.get resource t) = response := by
  have hroute := (route_get resource .null).symm.trans (h .null).route_eq
  exact (Prod.mk.inj hroute).2

theorem exists_shows_item_iff {resource : Resource} {found : Except Fault Json}
    (hget : api.get resource t = found.map (.document 200)) :
    (∃ item, api.Shows resource t (.document 200 item)) ↔ ∃ item, found = .ok item := by
  constructor
  · rintro ⟨item, hshows⟩
    have hresponse := response_eq_of_shows hshows
    rw [hget] at hresponse
    cases found with
    | error fault => cases hresponse
    | ok found => exact ⟨found, rfl⟩
  · rintro ⟨item, rfl⟩
    exact ⟨item, shows_of_get hget⟩

theorem get_vertices (hvs : t.vertices.entries = vs.map .vertex) :
    api.get .vertices t = (vs.mapM vertexDocument).map fun items =>
      .document 200 (listDocument "vertices" items) := by
  rw [get, vertexDocuments, hvs, Entity.toVertices_map_vertex]
  rfl

theorem get_edges (hes : t.edges.entries = es.map .edge) :
    api.get .edges t = (es.mapM fun e => written (edgeDocument e)).map fun items =>
      .document 200 (listDocument "edges" items) := by
  rw [get, edgeDocuments, hes, Entity.toEdges_map_edge]
  rfl

/-- A listing that answers with items answers with those that there are. -/
theorem of_shows_listing {resource : Resource} {name : String} {found : Except Fault (List Json)}
    {items : List Json}
    (hget : api.get resource t = found.map fun items =>
      .document 200 (listDocument name items))
    (h : api.Shows resource t (.document 200 (listDocument name items))) :
    ∃ documents, found = .ok documents ∧ items = documents := by
  have hresponse := response_eq_of_shows h
  rw [hget] at hresponse
  cases found with
  | error fault => cases hresponse
  | ok documents =>
      simp only [Except.map, orFailed, Response.document.injEq, listDocument,
        Json.obj.injEq, List.cons.injEq, Json.arr.injEq, Prod.mk.injEq, true_and] at hresponse
      exact ⟨documents, rfl, hresponse.1.symm⟩

theorem exists_shows_listing_or {resource : Resource} {name : String}
    {found : Except Fault (List Json)}
    (hget : api.get resource t = found.map fun items =>
      .document 200 (listDocument name items)) :
    (∃ items, api.Shows resource t (.document 200 (listDocument name items))) ∨
      api.Shows resource t (.bare 500) := by
  cases found with
  | error fault => exact .inr (shows_of_get_error hget)
  | ok items => exact .inl ⟨items, shows_of_get hget⟩

/-- The vertices are listed exactly if all can be shown, each by its item. -/
theorem listsVertices_iff (hvs : t.vertices.entries = vs.map .vertex) {items : List Json} :
    api.ListsVertices items t ↔ (∀ v ∈ vs, v.Showable) ∧ items = vs.map vertexItem := by
  constructor
  · intro hlists
    obtain ⟨documents, hdocuments, heq⟩ := of_shows_listing (get_vertices hvs) hlists
    have hshowable : ∀ v ∈ vs, v.Showable := fun v hv =>
      exists_vertexDocument_iff.mp (Result.of_mapM_ok hdocuments hv)
    have hitems := Result.mapM_of_forall fun v hv => vertexDocument_of_showable (hshowable v hv)
    exact ⟨hshowable, heq.trans (Except.ok.inj (hdocuments.symm.trans hitems))⟩
  · rintro ⟨hshowable, rfl⟩
    apply shows_of_get
    rw [get_vertices hvs,
      Result.mapM_of_forall fun v hv => vertexDocument_of_showable (hshowable v hv)]
    rfl

/-- The edges are listed exactly if all labels can be written, each by its document. -/
theorem listsEdges_iff (hes : t.edges.entries = es.map .edge) {items : List Json} :
    api.ListsEdges items t ↔
      (∀ e ∈ es, e.label.isWritable = true) ∧ items = es.map edgeDocument := by
  have hwritten : ∀ {e : Edge}, e.label.isWritable = true →
      written (edgeDocument e) = .ok (edgeDocument e) := fun {e} he =>
    written_eq_ok_iff.mpr ⟨(isWritable_edgeDocument e).trans he, rfl⟩
  constructor
  · intro hlists
    obtain ⟨documents, hdocuments, heq⟩ := of_shows_listing (get_edges hes) hlists
    have hwritable : ∀ e ∈ es, e.label.isWritable = true := by
      intro e he
      obtain ⟨document, hdocument⟩ := Result.of_mapM_ok hdocuments he
      rw [← isWritable_edgeDocument]
      exact (written_eq_ok_iff.mp hdocument).1
    have hitems := Result.mapM_of_forall fun e he => hwritten (hwritable e he)
    exact ⟨hwritable, heq.trans (Except.ok.inj (hdocuments.symm.trans hitems))⟩
  · rintro ⟨hwritable, rfl⟩
    apply shows_of_get
    rw [get_edges hes, Result.mapM_of_forall fun e he => hwritten (hwritable e he)]
    rfl

end Api

theorem filter_vertexItem (h : ∀ v ∈ vs, v.Showable) (keep : Bool → Bool) (id : String) :
    (vs.map vertexItem).filter (fun item => keep (bears id item)) =
      (vs.filter fun v => keep (v.key.id == id)).map vertexItem := by
  apply filter_map_of
  intro v hv
  exact congrArg keep (bears_vertexItem (h v hv) id)

theorem filter_touches (h : ∀ e ∈ es, e.sourceKey.ns = t.ns ∧ e.targetKey.ns = t.ns)
    (id : String) :
    (es.map edgeDocument).filter (fun item => !touches id item) =
      (Edge.apart ⟨t.ns, id⟩ es).map edgeDocument := by
  apply filter_map_of
  intro e he
  exact congrArg not (touches_edgeDocument (h e he) id)

/-- The ids of the attached edges are those of the items that tell of the vertex. -/
theorem mem_attached_ids_iff (h : ∀ e ∈ es, e.sourceKey.ns = t.ns ∧ e.targetKey.ns = t.ns)
    (id edgeId : String) :
    edgeId ∈ (es.filter fun e => e.connects ⟨t.ns, id⟩).map (fun e => e.key.id) ↔
      ∃ item ∈ es.map edgeDocument, bears edgeId item = true ∧ touches id item = true := by
  rw [List.mem_map]
  constructor
  · rintro ⟨e, he, rfl⟩
    obtain ⟨hmem, hconnects⟩ := List.mem_filter.mp he
    refine ⟨_, List.mem_map_of_mem hmem, ?_, ?_⟩
    · rw [bears_edgeDocument, beq_self_eq_true]
    · rw [touches_edgeDocument (h e hmem), hconnects]
  · rintro ⟨item, hitem, hbears, htouches⟩
    obtain ⟨e, he, rfl⟩ := List.mem_map.mp hitem
    rw [bears_edgeDocument, beq_iff_eq] at hbears
    rw [touches_edgeDocument (h e he)] at htouches
    exact ⟨e, List.mem_filter.mpr ⟨he, htouches⟩, hbears⟩

/-! ## Single vertices and edges -/

/-- The document about the edges of a vertex. -/
def attachmentDocument (id : String) (edges : List String) : Json :=
  .obj [("vertex", .str id), ("edges", .arr (edges.map .str))]

namespace Api

/-- There is no vertex of this id: every route to it says so, nothing changes, and none is
listed. -/
structure Lacks (api : Api O) (id : String) (t : Topology O) : Prop where
  vertex : api.Shows (.vertex id) t (missing "Vertex" id)
  attached : api.Shows (.vertexEdges id) t (missing "Vertex" id)
  removal : ∀ body, api.Serves "DELETE" (.vertex id) body t (t, missing "Vertex" id)
  unlisted : ∀ vertices, api.ListsVertices vertices t → vertices.filter (bears id) = []

/-- There is a vertex of this id, with these edges: no route to it says otherwise, and a removal
leads to a topology without it and them.  If the vertices are listed, it is shown as an
item of the listing, and the others are what is listed afterwards; and so are the edges. -/
structure Knows (api : Api O) (id : String) (t t' : Topology O) (ids : List String) : Prop where
  vertex : api.Presents (.vertex id) t
  attached : api.Shows (.vertexEdges id) t (.document 200 (attachmentDocument id ids))
  increasing : ids.Pairwise (· < ·)
  removal : ∃ removed, removed.Perm ids ∧ ∀ body, api.Serves "DELETE" (.vertex id) body t
    (t', .document 200 (removalDocument id removed))
  listed : ∀ vertices, api.ListsVertices vertices t →
    (∃ item, vertices.filter (bears id) = [item] ∧
      api.Shows (.vertex id) t (.document 200 item)) ∧
    api.ListsVertices (vertices.filter fun item => !bears id item) t'
  edges : ∀ edges, api.ListsEdges edges t →
    (∀ edgeId, edgeId ∈ ids ↔
      ∃ edge ∈ edges, bears edgeId edge = true ∧ touches id edge = true) ∧
    api.ListsEdges (edges.filter fun item => !touches id item) t'

theorem shows_missing_of_find? {id : String} (h : t.vertices.find? ⟨t.ns, id⟩ = none) :
    api.Shows (.vertexEdges id) t (missing "Vertex" id) := by
  apply shows_of_get
  simp only [get, Store.find?_eq_none_iff.mp h]
  rfl

theorem lacks_of_find? (h : t.Presentable vs es) {id : String}
    (hfind : t.vertices.find? ⟨t.ns, id⟩ = none)
    (hnone : (vs.filter fun v => v.key.id == id) = []) : api.Lacks id t := by
  refine ⟨shows_of_get ?_, shows_missing_of_find? hfind, fun body => ?_, ?_⟩
  · simp only [get, hfind]
  · exact serves_of_route (by decide) (delete_of_absent (Store.find?_eq_none_iff.mp hfind))
  · intro vertices hlists
    obtain ⟨hshowable, rfl⟩ := (listsVertices_iff h.vertices_eq).mp hlists
    have hitems := filter_vertexItem hshowable (fun own => own) id
    exact hitems.trans (congrArg (List.map vertexItem) hnone)

theorem shows_attachment (hes : t.edges.entries = es.map .edge) {id : String}
    (hcontains : t.vertices.contains ⟨t.ns, id⟩ = true) :
    api.Shows (.vertexEdges id) t (.document 200 (attachmentDocument id
      (sortIds ((es.filter fun e => e.connects ⟨t.ns, id⟩).map fun e => e.key.id)))) := by
  apply shows_of_get
  simp only [get, hcontains, if_true, Store.attached_of_edges hes]
  rfl

theorem get_vertex_of_find? {id : String} {v : Vertex}
    (h : t.vertices.find? ⟨t.ns, id⟩ = some (.vertex v)) :
    api.get (.vertex id) t = (vertexDocument v).map (.document 200) := by
  simp only [get, h, Entity.asVertex]
  rfl

theorem get_edge_of_find? {id : String} {e : Edge}
    (h : t.edges.find? ⟨t.ns, id⟩ = some (.edge e)) :
    api.get (.edge id) t = (written (edgeDocument e)).map (.document 200) := by
  simp only [get, h, Entity.asEdge]
  rfl

theorem shows_vertex_of_find? {id : String} {v : Vertex}
    (h : t.vertices.find? ⟨t.ns, id⟩ = some (.vertex v)) (hshowable : v.Showable) :
    api.Shows (.vertex id) t (.document 200 (vertexItem v)) := by
  apply shows_of_get
  rw [get_vertex_of_find? h, vertexDocument_of_showable hshowable]
  rfl

theorem shows_edge_of_find? {id : String} {e : Edge}
    (h : t.edges.find? ⟨t.ns, id⟩ = some (.edge e)) (hlabel : e.label.isWritable = true) :
    api.Shows (.edge id) t (.document 200 (edgeDocument e)) := by
  have hwritten := written_eq_ok_iff.mpr ⟨(isWritable_edgeDocument e).trans hlabel, rfl⟩
  apply shows_of_get
  rw [get_edge_of_find? h, hwritten]
  rfl

theorem shows_edge_of_mem (h : t.Presentable vs es) {e : Edge} (he : e ∈ es)
    (hlabel : e.label.isWritable = true) :
    api.Shows (.edge e.key.id) t (.document 200 (edgeDocument e)) :=
  shows_edge_of_find? (h.find?_edge he) hlabel

theorem knows_of_find? (hquiet : api.watch.Quiet) (h : t.Presentable vs es) {id : String}
    {v : Vertex} (hv : v ∈ vs) (hfind : t.vertices.find? ⟨t.ns, id⟩ = some (.vertex v))
    (hone : (vs.filter fun v => v.key.id == id) = [v]) :
    ∃ t' ids, api.Knows id t t' ids := by
  have hcontains : t.vertices.contains ⟨t.ns, id⟩ = true := by
    obtain ⟨hmem, hkey⟩ := Store.find?_eq_some_iff.mp hfind
    exact Store.contains_iff.mpr ⟨_, hmem, hkey⟩
  have hids : (es.map fun e => e.key.id).Nodup := by
    have hnodup := t.edges.ids_nodup
    rw [Store.ids, h.edges_eq, List.map_map] at hnodup
    exact hnodup
  have hattached : ((es.filter fun e => e.connects ⟨t.ns, id⟩).map fun e => e.key.id).Nodup :=
    hids.sublist (List.filter_sublist.map _)
  obtain ⟨t', hdetached, hdelete⟩ := delete_of_contains hquiet h.edges_eq hcontains
  have hafter := h.detached hdetached
  refine ⟨t', _, presents_of_get (get_vertex_of_find? hfind), shows_attachment h.edges_eq hcontains,
    sortIds_increasing hattached, ?_, ?_, ?_⟩
  · exact ⟨_, (sortIds_perm _).symm, fun body => serves_of_route (by decide) hdelete⟩
  · intro vertices hlists
    obtain ⟨hshowable, rfl⟩ := (listsVertices_iff h.vertices_eq).mp hlists
    have hitem := filter_vertexItem hshowable (fun own => own) id
    refine ⟨⟨vertexItem v, hitem.trans (congrArg (List.map vertexItem) hone),
      shows_vertex_of_find? hfind (hshowable v hv)⟩, ?_⟩
    rw [filter_vertexItem hshowable (!·) id]
    exact (listsVertices_iff hafter.vertices_eq).mpr
      ⟨fun other hother => hshowable other (List.mem_filter.mp hother).1, rfl⟩
  · intro edges hlists
    obtain ⟨hwritable, rfl⟩ := (listsEdges_iff h.edges_eq).mp hlists
    refine ⟨fun edgeId => ?_, ?_⟩
    · rw [(sortIds_perm _).mem_iff]
      exact mem_attached_ids_iff h.ends_ns id edgeId
    · rw [filter_touches h.ends_ns id]
      exact (listsEdges_iff hafter.edges_eq).mpr
        ⟨fun e he => hwritable e (List.mem_filter.mp he).1, rfl⟩

/-- The route to an edge tells that there is none of this id, and none is listed, or else
there is one, and it is shown as an item of the listing, if the edges are listed. -/
def TellsEdge (api : Api O) (id : String) (t : Topology O) : Prop :=
  (api.Shows (.edge id) t (missing "Edge" id) ∧
    ∀ edges, api.ListsEdges edges t → edges.filter (bears id) = []) ∨
  (api.Presents (.edge id) t ∧
    ∀ edges, api.ListsEdges edges t →
      ∃ item, edges.filter (bears id) = [item] ∧ api.Shows (.edge id) t (.document 200 item))

theorem tellsEdge (h : t.Presentable vs es) (id : String) : api.TellsEdge id t := by
  have hitems : (es.map edgeDocument).filter (bears id) =
      (es.filter fun e => e.key.id == id).map edgeDocument :=
    filter_map_of fun e _ => bears_edgeDocument e id
  rcases Store.single_or_none h.edges_eq id with ⟨hfind, hnone⟩ | ⟨e, he, hfind, hone⟩
  · rw [t.edges_ns] at hfind
    refine .inl ⟨shows_of_get ?_, fun edges hlists => ?_⟩
    · simp only [get, Topology.ns, hfind]
    · obtain ⟨-, rfl⟩ := (listsEdges_iff h.edges_eq).mp hlists
      exact hitems.trans (congrArg (List.map edgeDocument) hnone)
  · rw [t.edges_ns] at hfind
    refine .inr ⟨presents_of_get (get_edge_of_find? hfind), fun edges hlists => ?_⟩
    obtain ⟨hwritable, rfl⟩ := (listsEdges_iff h.edges_eq).mp hlists
    exact ⟨_, hitems.trans (congrArg (List.map edgeDocument) hone),
      shows_edge_of_find? hfind (hwritable e he)⟩

/-- All routes tell of one state, with these vertices and edges. -/
structure ShowsOneState (api : Api O) (vs : List Vertex) (es : List Edge) (t : Topology O) :
    Prop where
  /-- The vertices are listed exactly if all can be shown, and the listing fails otherwise. -/
  vertices_iff : (∃ vertices, api.ListsVertices vertices t) ↔ ∀ v ∈ vs, v.Showable
  vertices_or : (∃ vertices, api.ListsVertices vertices t) ∨ api.Shows .vertices t (.bare 500)
  /-- The edges are listed exactly if all labels can be written, and the listing fails
  otherwise. -/
  edges_iff : (∃ edges, api.ListsEdges edges t) ↔ ∀ e ∈ es, e.label.isWritable = true
  edges_or : (∃ edges, api.ListsEdges edges t) ∨ api.Shows .edges t (.bare 500)
  /-- Single items are answered under the same conditions. -/
  vertex_iff : ∀ v ∈ vs,
    (∃ item, api.Shows (.vertex v.key.id) t (.document 200 item)) ↔ v.Showable
  edge_iff : ∀ e ∈ es,
    (∃ item, api.Shows (.edge e.key.id) t (.document 200 item)) ↔ e.label.isWritable = true
  health : ∃ health, api.Shows .health t (.document 200 health) ∧
    (∀ vertices, api.ListsVertices vertices t →
      health.at? ["vertices"] = some (.int vertices.length)) ∧
    ∀ edges, api.ListsEdges edges t → health.at? ["edges"] = some (.int edges.length)
  vertex : ∀ id, api.Lacks id t ∨ ∃ t' ids, api.Knows id t t' ids
  edge : ∀ id, api.TellsEdge id t
  /-- To read and to select changes nothing. -/
  get_fst : ∀ request : Request, request.methodName = "GET" → (api.handle request t).1 = t
  selection_fst : ∀ request : Request, request.target? = some ("POST", .selection) →
    (api.handle request t).1 = t

/-- An interface that nobody listens to and that finds no graph. -/
def silent : Api Unit :=
  ofLoader (.silent Unit) 0 (fun _ => false) (.error .unknownGraph)

/-- A vertex with a node id of more digits than can be written. -/
def overlong : Vertex :=
  { key := ⟨"n", "g"⟩, nodeId := .int IntegerLiteral.bound }

/-- A group of which nothing is there. -/
def scattered : Vertex :=
  { key := ⟨"n", "g"⟩, group := some { children := [none] } }

/-- A topology with a vertex and another one, which can be shown. -/
def beside (v : Vertex) : Topology Unit :=
  Topology.provided.addVertices (.silent Unit)
    [some (.vertex v), some (.vertex { key := ⟨"n", "a"⟩ })]

/-- Beside a vertex another one is shown, but no vertices are listed. -/
def HidesOthers (v : Vertex) : Prop :=
  (beside v).vertices.entries = [.vertex v, .vertex { key := ⟨"n", "a"⟩ }] ∧
    (beside v).edges.entries = [] ∧
    (∃ item, silent.Shows (.vertex "a") (beside v) (.document 200 item)) ∧
    ∀ vertices, ¬ silent.ListsVertices vertices (beside v)

theorem hidesOthers_of_not_showable {v : Vertex} (h : ¬ v.Showable)
    (hentries : (beside v).vertices.entries = [.vertex v, .vertex { key := ⟨"n", "a"⟩ }])
    (hedges : (beside v).edges.entries = []) : HidesOthers v := by
  have hpresentable : (beside v).Presentable [v, { key := ⟨"n", "a"⟩ }] [] :=
    ⟨hentries, hedges, fun _ he => nomatch he⟩
  have hfind := hpresentable.find?_vertex (List.mem_cons_of_mem v List.mem_cons_self)
  refine ⟨hentries, hedges, ⟨_, shows_vertex_of_find? hfind ⟨by decide, rfl, rfl, rfl, rfl⟩⟩, ?_⟩
  intro vertices hlists
  exact h (((listsVertices_iff hpresentable.vertices_eq).mp hlists).1 v List.mem_cons_self)

end Api

end Rest

end NetworkTopology
