import NetworkTopology.Cli.Run
import NetworkTopology.Proofs.Graph.Loaded
import NetworkTopology.Proofs.Rest.Consistency
import NetworkTopology.Proofs.Topology.Selecting

/-!
# The command line and the REST interface

A command works on the topology of a file, and so does the REST interface to a
provider that was refreshed from that file: what the one prints is what the other
answers.
-/

namespace NetworkTopology.Cli

open NetworkTopology.Rest (Api missing)
open NetworkTopology.Topology (provided)

variable {O : Type}

/-! ## Commands on files -/

/-- A command line that is understood, and the topology of the file that it names. -/
structure Invocation where
  env : Environment
  files : String → Option GraphSource
  arguments : List String
  ns : Option String
  name : CommandName
  rest : List String
  settings : Settings
  path : String
  action : Action
  content : String
  topology : Topology Unit
  read_eq : CommandLine.read arguments = some (.command ns name rest)
  settings_eq : Settings.load env [] = .ok settings
  action_eq : Action.read name rest = some (.ok (path, action))
  file_eq : files path = some (.text content)
  topology_eq : loadTopology settings ns path (.text content) = .ok topology

namespace Invocation

def source (call : Invocation) : GraphSource :=
  .text call.content

/-- How the command ends. -/
def ending (call : Invocation) : Ending :=
  run call.env call.files call.arguments

theorem ending_eq {call : Invocation} {ending : Ending}
    (h : perform call.settings call.topology call.action = .ok ending) :
    call.ending = ending := by
  have hperform : (loadTopology call.settings call.ns call.path (.text call.content) >>= fun t =>
      perform call.settings t call.action) = .ok ending := by
    rw [call.topology_eq]
    exact h
  simp only [Invocation.ending, run, call.read_eq, call.settings_eq, call.action_eq,
    call.file_eq, hperform]

/-- The topology of the file was rebuilt from it. -/
theorem exists_refresh (call : Invocation) :
    ∃ start : Topology Unit, 0 < start.providers.length ∧
      (start.edgeIds 0).stem = call.settings.topology.edgeStem ∧
      start.refresh (.silent Unit) 0 (GraphSource.text call.content).load =
        (call.topology, .ok ()) := by
  have hload := call.topology_eq
  obtain ⟨bare, -, hload⟩ := Result.of_bind_ok hload
  let provider : Provider := {
    vertexIds := { stem := call.settings.topology.vertexStem }
    edgeIds := { stem := call.settings.topology.edgeStem }
    info := { name := .str call.path } }
  refine ⟨{ bare with providers := [provider] }, by simp, rfl, ?_⟩
  cases hrefresh : Topology.refresh (.silent Unit) 0 (GraphSource.text call.content).load
      { bare with providers := [provider] } with
  | mk after result =>
      simp only [provider] at hrefresh
      simp only [hrefresh] at hload
      cases result with
      | error fault => cases hload
      | ok done =>
          cases hload
          rfl

/-- Another provider that is refreshed from the file comes to the same content, which
can be presented.  The node ids are integers that can be written, and no edge has a label. -/
theorem exists_presentable (call : Invocation) {watch : Observation O} (hquiet : watch.Quiet)
    {p : Nat} {before served : Topology O} (hp : p < before.providers.length)
    (hns : before.ns = call.topology.ns)
    (hstem : (before.edgeIds p).stem = call.settings.topology.edgeStem)
    (hserved : before.refresh watch p call.source.load = (served, .ok ())) :
    ∃ vs es, call.topology.Presentable vs es ∧
      (∀ v ∈ vs, v.nodeId.IsNodeId ∧ v.nodeId.isWritable = true) ∧
      (∀ e ∈ es, e.label = .null) ∧
      served.vertices = call.topology.vertices ∧ served.edges = call.topology.edges := by
  obtain ⟨start, hstart, hstem', hrefresh⟩ := call.exists_refresh
  obtain ⟨g, vertices, hload, hvertices, hrebuilt⟩ :=
    (Observation.silent_quiet Unit).rebuilt_of_refresh hstart hrefresh
  have hns' : before.ns = start.ns := hns.trans hrebuilt.ns_eq
  obtain ⟨g', vertices', hload', hvertices', hrebuilt'⟩ :=
    hquiet.rebuilt_of_refresh hp hserved
  -- Both read the same graph, so both rebuild from the same vertices and pairs.
  obtain rfl : g' = g := Except.ok.inj (hload'.symm.trans hload)
  rw [hns'] at hvertices' hrebuilt'
  obtain rfl : vertices' = vertices := Except.ok.inj (hvertices'.symm.trans hvertices)
  have hcanonical : g'.Canonical := Graph.canonical_of_read hload
  obtain ⟨vs, es, hpresentable, hread, hlabels⟩ := hrebuilt.exists_presentable hvertices
  refine ⟨vs, es, hpresentable, fun v hv => ?_, hlabels,
    hrebuilt.content_eq hrebuilt' hns' (hstem.trans hstem'.symm)⟩
  obtain ⟨node, hnode, hnodeId⟩ := hread v hv
  exact ⟨Vertex.isNodeId_of_readNodeId hnodeId, hcanonical.isWritable_nodeId hnode hnodeId⟩

end Invocation

/-! ## Printing -/

/-- A line reaches the output as these characters: control sequences are left out, and what is
left holds no surrogate. -/
def Writes (line : String) (cs : List Char) : Prop :=
  Text.characters? (dropControls line.toList) = some cs

/-- A line of these characters without an escape among them. -/
def Plain (line : String) (cs : List Char) : Prop :=
  '\x1b' ∉ line.toList ∧ Text.characters? line.toList = some cs

theorem Plain.writes {line : String} {cs : List Char} (h : Plain line cs) : Writes line cs := by
  rw [Writes, dropControls_of_not_mem h.1]
  exact h.2

/-- The characters of lines, each with a line end. -/
def joined (texts : List (List Char)) : List Char :=
  texts.flatMap fun cs => cs ++ ['\n']

theorem printedLine?_of_writes {line : String} {cs : List Char} (h : Writes line cs) :
    printedLine? line = some (cs ++ ['\n']) := by
  rw [printedLine?, h]
  rfl

theorem ofLines_of_writes {lines : List String} {texts : List (List Char)}
    (h : List.Forall₂ Writes lines texts) :
    Printout.ofLines lines = { characters := joined texts, isComplete := true } := by
  induction h with
  | nil => rfl
  | cons hline _ ih =>
      rw [Printout.ofLines, printedLine?_of_writes hline, ih]
      rfl

/-- The first line that cannot be encoded is the end of what is printed. -/
theorem ofLines_append {front : List String} {texts : List (List Char)}
    (h : List.Forall₂ Writes front texts) {line : String} (hline : ∀ cs, ¬ Writes line cs)
    (rest : List String) :
    Printout.ofLines (front ++ line :: rest) =
      { characters := joined texts, isComplete := false } := by
  induction h with
  | nil =>
      have hnone : printedLine? line = none :=
        Option.map_eq_none_iff.mpr (Option.eq_none_iff_forall_ne_some.mpr hline)
      rw [List.nil_append, Printout.ofLines, hnone]
      rfl
  | cons hfirst _ ih =>
      rw [List.cons_append, Printout.ofLines, printedLine?_of_writes hfirst, ih]
      rfl

/-- A command that prints lines, in the way of all output.  All of them are printed, and plain
ones as they are, or else the first that cannot be encoded ends the command. -/
structure Prints (ending : Ending) (lines : List String) : Prop where
  complete : ∀ texts, List.Forall₂ Writes lines texts →
    ending = .finished 0 (String.ofList (joined texts)) "" none
  plain : ∀ texts, List.Forall₂ Plain lines texts →
    ending = .finished 0 (String.ofList (joined texts)) "" none
  incomplete : ∀ front line rest texts, lines = front ++ line :: rest →
    List.Forall₂ Writes front texts → (∀ cs, ¬ Writes line cs) →
    ending = .finished 1 (String.ofList (joined texts)) "" none

theorem prints_of_eq {ending : Ending} {lines : List String} (h : ending = .ofLines lines) :
    Prints ending lines := by
  have hcomplete : ∀ texts, List.Forall₂ Writes lines texts →
      ending = .finished 0 (String.ofList (joined texts)) "" none := by
    intro texts htexts
    rw [h, Ending.ofLines, ofLines_of_writes htexts]
    rfl
  refine ⟨hcomplete, fun texts htexts => hcomplete texts (htexts.imp fun _ _ => Plain.writes), ?_⟩
  rintro front line rest texts rfl htexts hline
  rw [h, Ending.ofLines, ofLines_append htexts hline]
  rfl

/-! ## Edges -/

/-- The lines about the edges of a vertex, each with its other end. -/
def sectionLines (id : String) (rows : List (String × String)) : List String :=
  (id ++ ":") :: rows.map fun row => "  " ++ row.1 ++ " -> " ++ row.2

/-- The edges of a vertex in the order of their ids, each with its other end. -/
def edgeRows (vertex : Key) (es : List Edge) : List (String × String) :=
  ((es.filter fun e => e.connects vertex).mergeSort fun x y =>
    !decide (y.key.id < x.key.id)).map fun e => (e.key.id, (peer vertex e).id)

/-- A document of an edge that joins two vertices of these ids. -/
def Joins (id other : String) (item : Json) : Prop :=
  (item.at? ["source", "vertex"] = some (.str id) ∧
      item.at? ["target", "vertex"] = some (.str other)) ∨
    (item.at? ["source", "vertex"] = some (.str other) ∧
      item.at? ["target", "vertex"] = some (.str id))

instance (id other : String) (item : Json) : Decidable (Joins id other item) :=
  inferInstanceAs (Decidable (_ ∨ _))

section

variable {t : Topology Unit} {vs : List Vertex} {es : List Edge}

theorem vertexLines_eq (vertex : Key) (es : List Edge) :
    vertexLines vertex (es.filter fun e => e.connects vertex) =
      sectionLines vertex.id (edgeRows vertex es) := by
  rw [vertexLines, sectionLines, edgeRows, List.map_map]
  rfl

theorem map_fst_edgeRows (vertex : Key) (es : List Edge) :
    (edgeRows vertex es).map Prod.fst =
      sortIds ((es.filter fun e => e.connects vertex).map fun e => e.key.id) := by
  rw [edgeRows, sortIds, List.map_map]
  exact List.map_mergeSort fun _ _ _ _ => rfl

theorem exists_of_mem_edgeRows {vertex : Key} {row : String × String}
    (h : row ∈ edgeRows vertex es) :
    ∃ e ∈ es, e.key.id = row.1 ∧ Joins vertex.id row.2 (Rest.edgeDocument e) := by
  obtain ⟨e, he, rfl⟩ := List.mem_map.mp h
  obtain ⟨hmem, hconnects⟩ := List.mem_filter.mp ((List.mergeSort_perm _ _).mem_iff.mp he)
  refine ⟨e, hmem, rfl, ?_⟩
  by_cases hsource : e.sourceKey = vertex
  · rw [peer, if_pos hsource, ← hsource]
    exact .inl ⟨rfl, rfl⟩
  · have htarget := (Edge.connects_iff.mp hconnects).resolve_left hsource
    rw [peer, if_neg hsource, ← htarget]
    exact .inr ⟨rfl, rfl⟩

theorem unknownIds_eq_nil_iff {ids : List String} :
    unknownIds t ids = [] ↔ ∀ id ∈ ids, t.vertices.contains ⟨t.ns, id⟩ = true := by
  rw [unknownIds, keysOf, List.map_eq_nil_iff, List.filter_eq_nil_iff]
  simp

theorem edgesLines_eq (hes : t.edges.entries = es.map .edge) (ids : List String) :
    edgesLines t ids = .ok (ids.eraseDups.flatMap fun id =>
      sectionLines id (edgeRows ⟨t.ns, id⟩ es)) := by
  -- Repetitions are dropped among keys here, and among ids in the sections.
  have hinjective : Function.Injective fun id : String => (⟨t.ns, id⟩ : Key) :=
    fun _ _ h => congrArg Key.id h
  have hkeys : ((keysOf t ids).map some).filterMap id = keysOf t ids := by
    rw [List.filterMap_map]
    exact List.filterMap_some
  have hattached : t.edges.attachedToEach ((keysOf t ids).map some) =
      .ok (ids.eraseDups.map fun id =>
        (⟨t.ns, id⟩, es.filter fun e => e.connects ⟨t.ns, id⟩)) := by
    rw [Store.attachedToEach_of_edges hes, hkeys, keysOf, eraseDups_map hinjective,
      List.map_map]
    rfl
  rw [edgesLines, hattached]
  change Except.ok _ = _
  rw [List.flatMap_map]
  congr 2
  funext id
  exact vertexLines_eq ⟨t.ns, id⟩ es

end

/-- A command on edges ends as the routes to vertices and edges tell: it fails for
vertices that are not there, and otherwise prints a section for each vertex. -/
def EdgesAgree (api : Api O) (served : Topology O) (ids : List String)
    (ending : Ending) : Prop :=
  ((∃ id ∈ ids, api.Shows (.vertexEdges id) served (missing "Vertex" id)) ∧
    ∃ errors, ending = .finished 1 "" errors none) ∨
  ∃ rows : String → List (String × String),
    Prints ending (ids.eraseDups.flatMap fun id => sectionLines id (rows id)) ∧
    ∀ id ∈ ids,
      api.Shows (.vertexEdges id) served
        (.document 200 (Rest.attachmentDocument id ((rows id).map Prod.fst))) ∧
      ∀ row ∈ rows id, ∃ item, api.Shows (.edge row.1) served (.document 200 item) ∧
        Joins id row.2 item

theorem edgesAgree_of_perform {call : Invocation} {ids : List String}
    (haction : call.action = .edges ids) {api : Api O} {served : Topology O}
    {vs : List Vertex} {es : List Edge} (h : call.topology.Presentable vs es)
    (hlabels : ∀ e ∈ es, e.label = .null)
    (hvertices : served.vertices = call.topology.vertices)
    (hedges : served.edges = call.topology.edges) :
    EdgesAgree api served ids call.ending := by
  have hserved := h.of_content_eq hvertices hedges
  have hns : served.ns = call.topology.ns := congrArg Store.ns hvertices
  by_cases hknown : ∀ id ∈ ids, call.topology.vertices.contains ⟨call.topology.ns, id⟩ = true
  · refine .inr ⟨fun id => edgeRows ⟨call.topology.ns, id⟩ es, ?_, ?_⟩
    · apply prints_of_eq
      apply Invocation.ending_eq
      rw [haction, perform, unknownIds_eq_nil_iff.mpr hknown, edgesLines_eq h.edges_eq]
      rfl
    · intro id hid
      have hcontains := hknown id hid
      rw [← hvertices, ← hns] at hcontains
      constructor
      · rw [map_fst_edgeRows, ← hns]
        exact Api.shows_attachment hserved.edges_eq hcontains
      · intro row hrow
        obtain ⟨e, he, hrow, hjoins⟩ := exists_of_mem_edgeRows hrow
        have hlabel : e.label.isWritable = true := by
          rw [hlabels e he]
          rfl
        rw [← hrow]
        exact ⟨_, Api.shows_edge_of_mem hserved he hlabel, hjoins⟩
  · have hunknown : unknownIds call.topology ids ≠ [] := fun hnil =>
      hknown (unknownIds_eq_nil_iff.mp hnil)
    refine .inl ⟨?_, errorText (unknownLine (unknownIds call.topology ids)),
      Invocation.ending_eq ?_⟩
    · push Not at hknown
      obtain ⟨id, hid, hcontains⟩ := hknown
      rw [← hvertices, ← hns] at hcontains
      exact ⟨id, hid, Api.shows_missing_of_find?
        (Store.find?_eq_none_iff.mpr (Bool.eq_false_iff.mpr hcontains))⟩
    · rw [haction, perform]
      split
      · rename_i hnil
        exact absurd hnil hunknown
      · rfl

/-! ## Selections -/

/-- The lines about a selection: its type, and its ids if it is one by id. -/
def selectionReport (typeName : String) : Option (List Int) → List String
  | none => ["Selection: " ++ typeName]
  | some numbers => ["Selection: " ++ typeName,
      "  Node ids: [" ++ String.intercalate ", " (numbers.map Decimal.text) ++ "]"]

/-- A command on a selection prints what the route to selections answers to the same
ids and the same content type. -/
def SelectionsAgree (api : Api O) (served : Topology O) (ids : List String)
    (contentType : String) (ending : Ending) : Prop :=
  ∃ (typeName : String) (shown : Option (List Int)) (document : Json),
    Prints ending (selectionReport typeName shown) ∧
    document.at? ["type"] = some (.str typeName) ∧
    document.at? ["ids"] = some (.arr ((shown.getD []).map .int)) ∧
    (shown = none ↔ typeName = "Selection") ∧
    ∀ body : Json, body.at? ["vertices"] = some (.arr (ids.map .str)) →
      body.at? ["content_type"] = some (.str contentType) →
      api.Serves "POST" .selection body served (served, .document 200 document)

theorem areWritable_map_int {numbers : List Int}
    (h : ∀ n ∈ numbers, IntegerLiteral.Writable n) :
    NodeId.areWritable (numbers.map .int) = true ∧ Json.areWritable (numbers.map .int) = true := by
  induction numbers with
  | nil => exact ⟨rfl, rfl⟩
  | cons n numbers ih =>
      rw [List.forall_mem_cons] at h
      obtain ⟨hids, hdocuments⟩ := ih h.2
      rw [List.map_cons, List.map_cons, NodeId.areWritable, Json.areWritable, NodeId.isWritable,
        Json.isWritable, hids, hdocuments, decide_eq_true h.1]
      exact ⟨rfl, rfl⟩

theorem selectionLines_eq {selection : Selection} {shown : Option (List Int)}
    (h : selection.Shows shown) (hwritable : ∀ n ∈ shown.getD [], IntegerLiteral.Writable n) :
    selectionLines selection = .ok (selectionReport selection.typeName shown) := by
  rw [selectionLines, h.listing]
  cases shown with
  | none => rfl
  | some numbers =>
      have htexts : (numbers.map NodeId.int).map NodeId.shown = numbers.map Decimal.text := by
        rw [List.map_map]
        exact List.map_congr_left fun n _ => by rw [Function.comp, NodeId.shown]
      change (if NodeId.areWritable (numbers.map .int) then
        Except.ok ["Selection: " ++ selection.typeName, "  Node ids: [" ++
          String.intercalate ", " ((numbers.map NodeId.int).map NodeId.shown) ++ "]"]
        else .error Fault.integerTooLong) = _
      have hids : NodeId.areWritable (numbers.map .int) = true := (areWritable_map_int hwritable).1
      rw [if_pos hids, htexts]
      rfl

theorem exists_selectionDocument {selection : Selection} {shown : Option (List Int)}
    (h : selection.Shows shown) (hwritable : ∀ n ∈ shown.getD [], IntegerLiteral.Writable n)
    (contentType : Option ContentType) :
    ∃ document, Api.selectionDocument contentType selection = .ok document ∧
      document.at? ["type"] = some (.str selection.typeName) ∧
      document.at? ["ids"] = some (.arr ((shown.getD []).map .int)) := by
  have hdocuments : ((shown.getD []).map NodeId.int).map NodeId.toJson =
      (shown.getD []).map Json.int := by
    rw [List.map_map]
    exact List.map_congr_left fun n _ => by rw [Function.comp, NodeId.toJson]
  have hcontent : ((contentType.map fun c => Json.str c.value).getD .null).isWritable = true := by
    cases contentType <;> rfl
  let document : Json := .obj [("type", .str selection.typeName),
    ("content_type", (contentType.map fun c => Json.str c.value).getD .null),
    ("ids", .arr ((shown.getD []).map .int))]
  have hdocument : document.isWritable = true := by
    simp [document, Json.isWritable, Json.fieldsWritable, hcontent,
      (areWritable_map_int hwritable).2]
  refine ⟨document, ?_, rfl, rfl⟩
  rw [Api.selectionDocument, h.sorted]
  change Rest.written (.obj [_, _, ("ids", .arr (((shown.getD []).map NodeId.int).map _))]) = _
  rw [hdocuments]
  exact Rest.written_eq_ok_iff.mpr ⟨hdocument, rfl⟩

theorem bodyField_of_at? {body value : Json} {name : String}
    (h : body.at? [name] = some value) (absent : Json) :
    Rest.bodyField body name absent = .ok value := by
  rw [Json.at?] at h
  cases body with
  | obj fields =>
      cases hfield : Fields.get? fields name with
      | none =>
          simp [Json.fields?, hfield] at h
      | some found =>
          simp only [Json.fields?, Option.bind_some, hfield, Json.at?] at h
          rw [Rest.bodyField, hfield]
          exact congrArg Except.ok (Option.some.inj h)
  | null | bool _ | int _ | float _ | str _ | arr _ => cases h

/-- The vertices that a request selects are those of the named ids that are there. -/
theorem selected_eq {t : Topology Unit} {served : Topology O}
    (hvertices : served.vertices = t.vertices) {ids : List String} {body : Json}
    (hbody : body.at? ["vertices"] = some (.arr (ids.map .str))) :
    Api.selected body served = .ok (ids.map fun id => (t.named id).map .vertexRef) := by
  have hkeys : (ids.map Json.str).mapM (Rest.lookUp served) = .ok (ids.map t.named) := by
    rw [List.mapM_map]
    apply Result.mapM_of_forall
    intro id _
    rw [← Topology.named_eq_of_vertices_eq hvertices]
    rfl
  rw [Api.selected, bodyField_of_at? hbody]
  change ((ids.map Json.str).mapM (Rest.lookUp served) >>= _) = _
  rw [hkeys]
  change Except.ok _ = _
  rw [List.map_map]
  rfl

theorem selectionsAgree_of_perform {call : Invocation} {ids : List String}
    {contentType : String} (haction : call.action = .select ids contentType) {api : Api O}
    {served : Topology O} {vs : List Vertex} {es : List Edge}
    (h : call.topology.Presentable vs es)
    (hnodeIds : ∀ v ∈ vs, v.nodeId.IsNodeId ∧ v.nodeId.isWritable = true)
    (hvertices : served.vertices = call.topology.vertices) :
    SelectionsAgree api served ids contentType call.ending := by
  obtain ⟨selection, shown, hshows, hstored, hselect, hselect'⟩ :=
    Topology.exists_selection h (fun v hv => (hnodeIds v hv).1) ids (ContentType.ofName contentType)
  have hwritable : ∀ n ∈ shown.getD [], IntegerLiteral.Writable n := by
    intro n hn
    obtain ⟨v, hv, hnodeId⟩ := hstored n hn
    have hwritten := (hnodeIds v hv).2
    rw [hnodeId, Json.isWritable] at hwritten
    exact of_decide_eq_true hwritten
  obtain ⟨document, hdocument, htype, hids⟩ :=
    exists_selectionDocument hshows hwritable (ContentType.ofName contentType)
  refine ⟨selection.typeName, shown, document, ?_, htype, hids, hshows.none_iff, ?_⟩
  · apply prints_of_eq
    apply Invocation.ending_eq
    rw [haction, perform, keysOf, List.map_map]
    change (call.topology.select (ids.map fun id =>
      some (.vertexRef ⟨call.topology.ns, id⟩)) _ >>= _) = _
    rw [hselect]
    change (selectionLines selection >>= _) = _
    rw [selectionLines_eq hshows hwritable]
    rfl
  · intro body hbody hbody'
    apply Api.serves_of_route (by decide)
    have hselection : Api.selection body served = .ok document := by
      rw [Api.selection, bodyField_of_at? hbody', selected_eq hvertices hbody]
      change (served.select _ (ContentType.ofName contentType) >>= _) = _
      rw [Topology.select_eq_of_vertices_eq hvertices, hselect']
      exact hdocument
    change api.post .selection body served = _
    simp only [Api.post, hselection]

/-! ## Counts -/

/-- A command on the size prints the counts that the route to the health answers. -/
def CountsAgree (api : Api O) (served : Topology O) (ending : Ending) : Prop :=
  ∃ (title : String) (vertices edges : Nat) (rest : List String) (health : Json),
    Prints ending ([title, countLine "Vertices" vertices, countLine "Edges" edges] ++ rest) ∧
    api.Shows .health served (.document 200 health) ∧
    health.at? ["vertices"] = some (.int vertices) ∧ health.at? ["edges"] = some (.int edges)

theorem exists_infoLines {t : Topology Unit} {vs : List Vertex}
    (h : t.vertices.entries = vs.map .vertex) :
    ∃ rest, infoLines t = .ok (["Namespace: " ++ t.ns, countLine "Vertices" t.vertices.size,
      countLine "Edges" t.edges.size] ++ rest) := by
  rw [infoLines, h, Entity.toVertices_map_vertex]
  refine ⟨[countLine "Vertices bound to nodes" (vs.countP fun v => v.nodeId != .null)] ++
    if vs.countP Vertex.isCollapsible = 0 then []
    else [countLine "Collapsible vertices" (vs.countP Vertex.isCollapsible)], ?_⟩
  rw [← List.append_assoc]
  rfl

theorem countsAgree_of_perform {call : Invocation} (haction : call.action = .info)
    {api : Api O} {served : Topology O} {vs : List Vertex} {es : List Edge}
    (h : call.topology.Presentable vs es)
    (hvertices : served.vertices = call.topology.vertices)
    (hedges : served.edges = call.topology.edges) :
    CountsAgree api served call.ending := by
  obtain ⟨rest, hlines⟩ := exists_infoLines h.vertices_eq
  refine ⟨"Namespace: " ++ call.topology.ns, served.vertices.size, served.edges.size, rest,
    api.health served, prints_of_eq (Invocation.ending_eq ?_), Api.shows_of_get rfl, rfl,
    rfl⟩
  rw [haction, perform, hlines, hvertices, hedges]
  rfl

/-! ## All commands -/

theorem load_eq_of_read {content : String} {document : Json}
    (h : Json.readCharacters content = .ok document) :
    (GraphSource.text content).load = (GraphSource.document document).load := by
  change (Json.readCharacters content >>= Graph.ofDocument) = _
  rw [h]
  rfl

/-- The command on the edges of the vertex `a` of a file in the namespace `n`. -/
theorem exists_call {content : String} {document : Json}
    (hread : Json.readCharacters content = .ok document) (lines : List String)
    (h : (loadTopology {} (some "n") "f" (.document document) >>= fun t =>
      (edgesLines t ["a"]).map fun lines => (t.ns, unknownIds t ["a"], lines)) =
        .ok ("n", [], lines)) :
    ∃ call : Invocation, call.content = content ∧ call.settings = {} ∧
      call.topology.ns = "n" ∧ call.action = .edges ["a"] ∧ Prints call.ending lines := by
  obtain ⟨t, ht, h⟩ := Result.of_bind_ok h
  rw [loadTopology, ← load_eq_of_read hread] at ht
  cases hlines : edgesLines t ["a"] with
  | error fault =>
      rw [hlines] at h
      cases h
  | ok found =>
      rw [hlines] at h
      obtain ⟨hns, hrest⟩ := Prod.mk.inj (Except.ok.inj h)
      obtain ⟨hknown, rfl⟩ := Prod.mk.inj hrest
      let call : Invocation :=
        { env := [], files := fun _ => some (.text content),
          arguments := ["-n", "n", "edges", "f", "a"], ns := some "n", name := .edges,
          rest := ["f", "a"], settings := {}, path := "f", action := .edges ["a"], content,
          topology := t
          read_eq := by decide +kernel
          settings_eq := rfl
          action_eq := by decide +kernel
          file_eq := rfl
          topology_eq := ht }
      refine ⟨call, rfl, rfl, hns, rfl, prints_of_eq (Invocation.ending_eq ?_)⟩
      change perform {} t (.edges ["a"]) = _
      rw [perform, hknown, hlines]
      rfl

/-- A file with an edge from `a` to another node, as a string of the file writes it. -/
def linkedTo (other : String) : String :=
  "\x7b\"nodes\":[\x7b\"id\":\"a\"\x7d,\x7b\"id\":\"" ++ other ++ "\"\x7d]," ++
    "\"links\":[\x7b\"source\":\"a\",\"target\":\"" ++ other ++ "\"\x7d]\x7d"

/-- The document of the file, with the name of the other node. -/
def linkedDocument (other : String) : Json :=
  .obj [("nodes", .arr [.obj [("id", .str "a")], .obj [("id", .str other)]]),
    ("links", .arr [.obj [("source", .str "a"), ("target", .str other)]])]

theorem read_plain : Json.readCharacters (linkedTo "b") = .ok (linkedDocument "b") := by
  decide +kernel

theorem read_control :
    Json.readCharacters (linkedTo "\\u001b[0mb") = .ok (linkedDocument "\x1b[0mb") := by
  decide +kernel

theorem read_surrogate :
    Json.readCharacters (linkedTo "\\ud800") = .ok (linkedDocument "\uD7FF\uE001") := by
  decide +kernel

/-- Its edge, as it is stored. -/
def linkingEdge (other : String) : Edge where
  key := ⟨"n", "e0"⟩
  source := .forEdge ⟨"n", "a"⟩ "e0"
  target := .forEdge ⟨"n", other⟩ "e0"

/-- What a provider has after a refresh from the document. -/
def linkedTopology (other : String) : Topology Unit :=
  (provided.refresh (.silent Unit) 0 (GraphSource.document (linkedDocument other)).load).1

theorem refresh_linked {content other : String}
    (hread : Json.readCharacters content = .ok (linkedDocument other))
    (h : (provided.refresh (.silent Unit) 0
      (GraphSource.document (linkedDocument other)).load).2 = .ok ()) :
    provided.refresh Api.silent.watch Api.silent.provider (GraphSource.text content).load =
      (linkedTopology other, .ok ()) := by
  rw [load_eq_of_read hread]
  exact (Prod.eta _).symm.trans (congrArg (Prod.mk _) h)

end NetworkTopology.Cli
