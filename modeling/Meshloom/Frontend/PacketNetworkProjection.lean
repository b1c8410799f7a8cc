import Meshloom.Frontend.PacketNetworkProofs

/-! What is drawn of the packet network: hidden nodes are left out of the observed paths, unknown
repeaters that go on like a known one are taken for it, and the paths that are left are linked. A link
is dashed where a repeater between its ends is hidden. -/
namespace Meshloom.PacketNetwork
open LinkStore

structure PacketNetworkVisibilityOptions where
  showAmbiguousNodes : Bool
  showAmbiguousPaths : Bool
  collapseLikelyKnownSiblingRepeaters : Bool

structure PathStep where
  nodeId : Option Id
  markHiddenLinkWhenOmitted : Bool
  hiddenLabel : Option Text

structure ProjectedPacketNetworkPath where
  nodes : List Id
  dashedLinkDetails : Dict Text (List Text)

structure ProjectedPacketNetworkLink where
  sourceId : Id
  targetId : Id
  lastActivity : Time
  hasDirectObservation : Bool
  hasHiddenIntermediate : Bool
  hiddenHopLabels : List Text

structure PacketNetworkProjection where
  nodes : Dict Id PacketNetworkNode
  links : Dict Text ProjectedPacketNetworkLink

/-- A list that stands for a set. -/
def addUnique {α : Type} [DecidableEq α] (set : List α) (element : α) : List α :=
  if element ∈ set then set else set ++ [element]

section Compact

/-- The variables of the loop over the steps. -/
structure Compacting where
  nodes : List Id
  dashedLinkDetails : Dict Text (List Text)
  pendingHiddenLink : Bool
  pendingHiddenLabels : List Text

/-- The link from the node before, dashed when a repeater between the two is hidden. -/
def dash (c : Compacting) (nodeId : Id) : Dict Text (List Text) :=
  match c.nodes.getLast? with
  | none => c.dashedLinkDetails
  | some previousNodeId =>
    if c.pendingHiddenLink = true ∧ previousNodeId ≠ nodeId then
      let key := buildLinkKey previousNodeId nodeId
      c.dashedLinkDetails.set key
        (c.pendingHiddenLabels.foldl addUnique ((c.dashedLinkDetails.get? key).getD []))
    else c.dashedLinkDetails

def compactStep (c : Compacting) (step : PathStep) : Compacting :=
  match step.nodeId.filter (· ≠ []) with
  | some nodeId =>
    { nodes := if c.nodes.getLast? = some nodeId then c.nodes else c.nodes ++ [nodeId]
      dashedLinkDetails := dash c nodeId
      pendingHiddenLink := false
      pendingHiddenLabels := [] }
  | none =>
    if step.markHiddenLinkWhenOmitted = true ∧ c.nodes ≠ [] then
      { c with
        pendingHiddenLink := true
        pendingHiddenLabels :=
          ((step.hiddenLabel.filter (· ≠ [])).toList).foldl addUnique c.pendingHiddenLabels }
    else c

def compactPathSteps (steps : List PathStep) : ProjectedPacketNetworkPath :=
  let compacted := steps.foldl compactStep ⟨[], Dict.empty, false, []⟩
  ⟨compacted.nodes, compacted.dashedLinkDetails⟩

end Compact

section Project
variable (state : PacketNetworkState) (visibility : PacketNetworkVisibilityOptions)

def isPacketNetworkNodeVisible : Option PacketNetworkNode → Bool
  | none => false
  | some node =>
    if node.id = selfId then true
    else if !node.isAmbiguous then true
    else if node.type = .repeater then visibility.showAmbiguousPaths
    else visibility.showAmbiguousNodes

/-- Every two nodes that follow each other in an observation, in order. -/
def observedPairs : List (Id × Id) := state.observations.flatMap fun observation => adjacent observation.nodes

def noteNextHop (knownRepeaterNextHops : Dict Id (List Id)) (pair : Id × Id) : Dict Id (List Id) :=
  match state.nodes.get? pair.1 with
  | some currentNode =>
    if currentNode.type = .repeater ∧ currentNode.isAmbiguous = false then
      knownRepeaterNextHops.set currentNode.id
        (addUnique ((knownRepeaterNextHops.get? currentNode.id).getD []) pair.2)
    else knownRepeaterNextHops
  | none => knownRepeaterNextHops

/-- The known repeater that an unknown one probably is. -/
def probableNode (currentNodeId : Id) : Option PacketNetworkNode := do
  let currentNode ← state.nodes.get? currentNodeId
  guard (currentNode.type = .repeater ∧ currentNode.isAmbiguous = true)
  let probableIdentityNodeId ← (currentNode.probableIdentityNodeId.join).filter (· ≠ [])
  let probable ← state.nodes.get? probableIdentityNodeId
  guard (probable.type = .repeater ∧ probable.isAmbiguous = false)
  return probable

def noteAlias (knownRepeaterNextHops : Dict Id (List Id)) (aliases : Dict Id Id) (pair : Id × Id) :
    Dict Id Id :=
  match probableNode state pair.1 with
  | some probable =>
    if pair.2 ∈ (knownRepeaterNextHops.get? probable.id).getD [] then aliases.set pair.1 probable.id
    else aliases
  | none => aliases

def buildKnownSiblingRepeaterAliasMap : Dict Id Id :=
  if visibility.collapseLikelyKnownSiblingRepeaters = false ∨ visibility.showAmbiguousPaths = false then
    Dict.empty
  else
    let knownRepeaterNextHops := (observedPairs state).foldl (noteNextHop state) Dict.empty
    (observedPairs state).foldl (noteAlias state knownRepeaterNextHops) Dict.empty

/-- Only a hidden repeater between others makes a dashed link. -/
def pathStep (repeaterAliases : Dict Id Id) (length : Nat) (hop : Id × Nat) : PathStep :=
  let node := state.nodes.get? hop.1
  let visible := isPacketNetworkNodeVisible visibility node
  { nodeId := if visible then some ((repeaterAliases.get? hop.1).getD hop.1) else none
    markHiddenLinkWhenOmitted := !visible && node.any (fun node => node.type = .repeater) &&
      decide (0 < hop.2 ∧ hop.2 + 1 < length)
    hiddenLabel := none }

def projectCanonicalPathWithAliases (canonicalPath : List Id) (repeaterAliases : Dict Id Id) :
    ProjectedPacketNetworkPath :=
  let projected := compactPathSteps
    (canonicalPath.zipIdx.map (pathStep state visibility repeaterAliases canonicalPath.length))
  { projected with nodes := dedupeConsecutive projected.nodes }

def projectCanonicalPath (canonicalPath : List Id) : ProjectedPacketNetworkPath :=
  projectCanonicalPathWithAliases state visibility canonicalPath
    (buildKnownSiblingRepeaterAliasMap state visibility)

/-- One observation of a link; what is behind hidden nodes is dashed. -/
def observeLink (activityAtMs : Time) (dashed : Option (List Text)) (sourceId targetId : Id) :
    Option ProjectedPacketNetworkLink → ProjectedPacketNetworkLink
  | some existing =>
    { existing with
      lastActivity := max existing.lastActivity activityAtMs
      hasHiddenIntermediate := existing.hasHiddenIntermediate || dashed.isSome
      hiddenHopLabels := (dashed.getD []).foldl addUnique existing.hiddenHopLabels
      hasDirectObservation := existing.hasDirectObservation || dashed.isNone }
  | none => ⟨sourceId, targetId, activityAtMs, dashed.isNone, dashed.isSome, dashed.getD []⟩

def projectLink (activityAtMs : Time) (dashedLinkDetails : Dict Text (List Text))
    (links : Dict Text ProjectedPacketNetworkLink) (pair : Id × Id) : Dict Text ProjectedPacketNetworkLink :=
  if pair.1 = pair.2 then links
  else
    let key := buildLinkKey pair.1 pair.2
    links.set key (observeLink activityAtMs (dashedLinkDetails.get? key) pair.1 pair.2 (links.get? key))

def projectNode (nodes : Dict Id PacketNetworkNode) (nodeId : Id) : Dict Id PacketNetworkNode :=
  match state.nodes.get? nodeId with
  | some node => nodes.set nodeId node
  | none => nodes

def projectObservation (repeaterAliases : Dict Id Id) (projection : PacketNetworkProjection)
    (observation : PacketNetworkObservation) : PacketNetworkProjection :=
  let projected := projectCanonicalPathWithAliases state visibility observation.nodes repeaterAliases
  if projected.nodes.length < 2 then projection
  else
    { nodes := projected.nodes.foldl (projectNode state) projection.nodes
      links := (adjacent projected.nodes).foldl
        (projectLink observation.activityAtMs projected.dashedLinkDetails) projection.links }

def projectPacketNetwork : PacketNetworkProjection :=
  let repeaterAliases := buildKnownSiblingRepeaterAliasMap state visibility
  let nodes := match state.nodes.get? selfId with
    | some selfNode => Dict.empty.set selfId selfNode
    | none => Dict.empty
  state.observations.foldl (projectObservation state visibility repeaterAliases) ⟨nodes, Dict.empty⟩

end Project

section Typed
variable {host : Host} {context : PacketNetworkContext} {id : Id}

/-- A node is stored under its id, and one that is a repeater does not stand for a name. -/
def Typed (state : PacketNetworkState) : Prop :=
  ∀ id node, state.nodes.get? id = some node → node.id = id ∧ (node.type = .repeater → Plain id)

theorem resolve_repeater (made : (resolve host context patterns source isRepeater showAmbiguous
    traffic).2 = .node update) (repeater : update.type = .repeater) : Plain update.id := by
  cases source with
  | pubkey value => exact resolvePubkey_plain made
  | hop value => exact resolveHop_plain made
  | name value =>
      have named : resolveName context value = .node update := made
      unfold resolveName at named
      split at named
      · rw [ownOr_node named]
        exact prefix12_plain _
      · cases named
        contradiction

theorem Typed.addOrUpdateNode (typed : Typed state) (time : Time) {update : NodeUpdate}
    (plain : update.type = .repeater → Plain update.id)
    (found : (addOrUpdateNode state.nodes time update).get? id = some node) :
    node.id = id ∧ (node.type = .repeater → Plain id) := by
  by_cases same : id = update.id
  · subst same
    unfold PacketNetwork.addOrUpdateNode at found
    split at found
    · rename_i existing before
      rw [Dict.get?_set, if_pos rfl] at found
      cases found
      exact typed _ existing before
    · rw [Dict.get?_set, if_pos rfl] at found
      cases found
      exact ⟨rfl, plain⟩
  · rw [addOrUpdateNode_elsewhere state.nodes time same] at found
    exact typed id node found

theorem Typed.enter (typed : Typed state) (time : Time)
    (plain : ∀ update, resolved.2 = .node update → update.type = .repeater → Plain update.id) :
    Typed (enter state time resolved).1 := by
  unfold PacketNetwork.enter
  split
  · exact typed
  · exact typed
  · rename_i update made
    exact fun id node found => typed.addOrUpdateNode time (plain update made) found

theorem Typed.enterHead (typed : Typed state) (time : Time) (head : Head) :
    Typed (enterHead host context state time head).1 := by
  cases head with
  | nothing => exact typed
  | self => exact typed
  | source source showAmbiguous => exact typed.enter time fun _ made => resolve_repeater made

theorem Typed.enterHops (typed : Typed state) (time : Time) (source : Option Id) (hops : List Hex) :
    Typed (enterHops host context time source state hops).1 := by
  induction hops generalizing state with
  | nil => exact typed
  | cons hop rest ih => exact ih (typed.enter time fun _ made => resolve_repeater made)

theorem Typed.of_nodes (typed : Typed before)
    (same : ∀ id, (after.nodes.get? id).map (fun node => (node.id, node.type)) =
      (before.nodes.get? id).map fun node => (node.id, node.type)) : Typed after := by
  intro id node found
  have here := same id
  rw [found, Option.map_some, eq_comm, Option.map_eq_some_iff] at here
  obtain ⟨old, found', fields⟩ := here
  obtain ⟨ids, types⟩ := Prod.mk.inj fields
  rw [← ids, ← types]
  exact typed id old found'

theorem linkAll_nodes (time : Time) (state : PacketNetworkState) (ends : List (Id × Id)) :
    (ends.foldl (linkNodes time) state).nodes = state.nodes := by
  induction ends generalizing state with
  | nil => rfl
  | cons pair rest ih => rw [List.foldl_cons, ih, linkNodes_nodes]

theorem Typed.ingest (typed : Typed state) (packet : Packet) :
    Typed (ingestPacketIntoPacketNetwork host context state packet).1 := by
  have built : Typed (buildCanonicalPathForPacket host context state packet.parsed packet.senderInfo
      packet.activityAtMs).1 := (typed.enterHead packet.activityAtMs _).enterHops packet.activityAtMs _ _
  unfold ingestPacketIntoPacketNetwork
  dsimp only
  split
  · exact built
  · refine built.of_nodes fun id => ?_
    rw [linkAll_nodes]
    exact setReasons_map _ (fun _ _ => rfl) _ _ _ id

theorem typed_lone (self : node.id = selfId) : Typed
    { links := Dict.empty, neighborIds := Dict.empty, nodes := Dict.empty.set selfId node,
      observations := [], trafficPatterns := Dict.empty } := by
  intro id other found
  rw [Dict.get?_set] at found
  split at found
  · rename_i own
    cases found
    exact ⟨self.trans own.symm, fun _ => own ▸ self_plain⟩
  · contradiction

theorem Typed.ensureSelf (typed : Typed state) (selfName : Text) (now : Time) :
    Typed (ensureSelfNode state selfName now) := by
  unfold ensureSelfNode
  split
  · rename_i existing here
    intro id node found
    rw [Dict.get?_set] at found
    split at found
    · rename_i own
      cases found
      exact own ▸ typed selfId existing here
    · exact typed id node found
  · intro id node found
    rw [Dict.get?_set] at found
    split at found
    · rename_i own
      cases found
      exact ⟨own.symm, fun _ => own ▸ self_plain⟩
    · exact typed id node found

theorem typed_run (selfName : Text) (now : Time) (events : List Event) : Typed (run selfName now events) := by
  induction events using List.reverseRecOn with
  | nil => exact typed_lone rfl
  | append_singleton events event ih =>
      rw [run_snoc]
      cases event with
      | ingest host context packet => exact ih.ingest packet
      | prune cutoff => exact fun id node found => ih id node (nodes_pruned cutoff found)
      | ensureSelf selfName now => exact ih.ensureSelf selfName now
      | clear selfName now => exact typed_lone rfl

end Typed

section Aliases
variable {state : PacketNetworkState} {visibility : PacketNetworkVisibilityOptions} {id : Id}

/-- A node that is there and is drawn. -/
def Visible (state : PacketNetworkState) (visibility : PacketNetworkVisibilityOptions) (id : Id) : Prop :=
  isPacketNetworkNodeVisible visibility (state.nodes.get? id) = true

theorem Visible.present (visible : Visible state visibility id) : Present state id := by
  unfold Visible at visible
  cases found : state.nodes.get? id with
  | none =>
      rw [found] at visible
      contradiction
  | some node =>
      rw [Present, found]
      rfl

/-- A probable node is a known repeater, which is always drawn. -/
theorem probableNode_known (typed : Typed state) (found : probableNode state id = some probable) :
    Plain probable.id ∧ Visible state visibility probable.id := by
  simp only [probableNode, Option.bind_eq_bind, Option.bind_eq_some_iff, guard,
     Option.pure_def] at found
  obtain ⟨node, _, _, _, other, _, probable', here, _, check, last⟩ := found
  cases last
  split at check
  · rename_i known
    obtain ⟨own, plain⟩ := typed other probable here
    refine ⟨own ▸ plain known.1, ?_⟩
    rw [Visible, own, here]
    simp [isPacketNetworkNodeVisible, known.2]
  · contradiction

theorem aliases_known (typed : Typed state) {known : Dict Id (List Id)} (pairs : List (Id × Id))
    (found : (pairs.foldl (noteAlias state known) Dict.empty).get? id = some other) :
    Plain other ∧ Visible state visibility other := by
  induction pairs using List.reverseRecOn with
  | nil => contradiction
  | append_singleton pairs pair ih =>
      rw [List.foldl_append, List.foldl_cons, List.foldl_nil] at found
      unfold noteAlias at found
      split at found
      · rename_i probable isProbable
        split at found
        · rw [Dict.get?_set] at found
          split at found
          · cases found
            exact probableNode_known typed isProbable
          · exact ih found
        · exact ih found
      · exact ih found

theorem aliasMap_known (typed : Typed state)
    (found : (buildKnownSiblingRepeaterAliasMap state visibility).get? id = some other) :
    Plain other ∧ Visible state visibility other := by
  unfold buildKnownSiblingRepeaterAliasMap at found
  split at found
  · contradiction
  · exact aliases_known typed (observedPairs state) found

end Aliases

section Paths
variable {state : PacketNetworkState} {visibility : PacketNetworkVisibilityOptions} {id : Id}

/-- The nodes of the compacted steps are nodes of the steps, in order. -/
theorem compact_sublist (c : Compacting) (steps : List PathStep) :
    (steps.foldl compactStep c).nodes.Sublist (c.nodes ++ steps.filterMap (·.nodeId)) := by
  induction steps generalizing c with
  | nil => simp
  | cons step rest ih =>
      rw [List.foldl_cons]
      refine (ih _).trans ?_
      unfold compactStep
      split
      · rename_i nodeId given
        have named := (Option.filter_eq_some_iff.mp given).1
        rw [List.filterMap_cons, named]
        dsimp only
        split
        · exact List.Sublist.append_left (List.sublist_cons_self _ _) _
        · rw [List.append_assoc]
          exact List.Sublist.refl _
      · have kept : (c.nodes ++ rest.filterMap (·.nodeId)).Sublist
            (c.nodes ++ (step :: rest).filterMap (·.nodeId)) :=
          List.Sublist.append_left ((List.sublist_cons_self step rest).filterMap _) _
        split <;> exact kept

theorem sublist_head {head : Option Id} {rest left : List Id} (sub : left.Sublist (head.toList ++ rest)) :
    ∃ head' : Option Id, ∃ rest', left = head'.toList ++ rest' ∧ (∀ x ∈ head', x ∈ head) ∧ rest'.Sublist rest := by
  cases head with
  | none => exact ⟨none, left, rfl, fun _ here => by contradiction, sub⟩
  | some first =>
      rcases List.sublist_cons_iff.mp sub with without | ⟨others, rfl, within⟩
      · exact ⟨none, left, rfl, fun _ here => by contradiction, without⟩
      · exact ⟨some first, others, rfl, fun _ here => here, within⟩

theorem filterMap_cons_toList {α β : Type} (f : α → Option β) (a : α) (rest : List α) :
    (a :: rest).filterMap f = (f a).toList ++ rest.filterMap f := by
  cases made : f a <;> simp [made]

/-- A step of a path names a drawn node: its own or the known repeater that it is taken for. -/
theorem pathStep_named (typed : Typed state) {length : Nat} {hop : Id × Nat}
    (named : (pathStep state visibility (buildKnownSiblingRepeaterAliasMap state visibility) length hop).nodeId
      = some id) : Visible state visibility id ∧ (id = hop.1 ∨ Plain id) := by
  unfold pathStep at named
  dsimp only at named
  split at named
  · rename_i visible
    cases found : (buildKnownSiblingRepeaterAliasMap state visibility).get? hop.1 with
    | none =>
        rw [found] at named
        cases named
        exact ⟨visible, .inl rfl⟩
    | some other =>
        rw [found] at named
        cases named
        obtain ⟨plain, drawn⟩ := aliasMap_known typed found
        exact ⟨drawn, .inr plain⟩
  · contradiction

variable (visibility) in
theorem projected_shaped (typed : Typed state) (shaped : Shaped path) :
    Shaped (projectCanonicalPath state visibility path).nodes ∧
      ∀ id ∈ (projectCanonicalPath state visibility path).nodes, Visible state visibility id := by
  let aliases := buildKnownSiblingRepeaterAliasMap state visibility
  let step := pathStep state visibility aliases path.length
  have compacted := compact_sublist ⟨[], Dict.empty, false, []⟩ (path.zipIdx.map step)
  rw [List.nil_append, List.filterMap_map] at compacted
  have nodes : (projectCanonicalPath state visibility path).nodes =
      dedupeConsecutive ((path.zipIdx.map step).foldl compactStep ⟨[], Dict.empty, false, []⟩).nodes := rfl
  rw [nodes]
  have drawn : ∀ id ∈ ((path.zipIdx.map step).foldl compactStep ⟨[], Dict.empty, false, []⟩).nodes,
      Visible state visibility id := by
    intro id listed
    obtain ⟨hop, _, named⟩ := List.mem_filterMap.mp (compacted.subset listed)
    exact (pathStep_named typed named).1
  refine ⟨?_, fun id listed => drawn id ((List.destutter_sublist _ _).subset listed)⟩
  cases path with
  | nil =>
      rw [List.sublist_nil.mp compacted]
      exact ⟨fun _ here => by contradiction, fun _ listed => by contradiction, .nil⟩
  | cons first rest =>
      rw [List.zipIdx_cons, filterMap_cons_toList] at compacted
      obtain ⟨head, others, same, from_head, from_rest⟩ := sublist_head compacted
      rw [List.zipIdx_cons, same]
      refine shaped_dedupe head (fun id here => ?_) fun id listed => ?_
      · rcases (pathStep_named typed (from_head id here)).2 with own | plain
        · exact shaped.head id (own ▸ rfl)
        · exact .inl plain
      · obtain ⟨hop, member, named⟩ := List.mem_filterMap.mp (from_rest.subset listed)
        rcases (pathStep_named typed named).2 with rfl | plain
        · exact shaped.tail _ (List.fst_mem_of_mem_zipIdx member)
        · exact plain

end Paths

section Links
variable {state : PacketNetworkState} {visibility : PacketNetworkVisibilityOptions} {id : Id}

/-- Two nodes that follow each other on a drawn path, and the labels when their link is dashed. -/
structure Segment where
  ends : Id × Id
  activityAtMs : Time
  dashed : Option (List Text)

def Segment.key (segment : Segment) : Text := buildLinkKey segment.ends.1 segment.ends.2

def segmentsOf (state : PacketNetworkState) (visibility : PacketNetworkVisibilityOptions)
    (observation : PacketNetworkObservation) : List Segment :=
  let projected := projectCanonicalPath state visibility observation.nodes
  (adjacent projected.nodes).map fun ends =>
    ⟨ends, observation.activityAtMs, projected.dashedLinkDetails.get? (buildLinkKey ends.1 ends.2)⟩

def segments (state : PacketNetworkState) (visibility : PacketNetworkVisibilityOptions) : List Segment :=
  state.observations.flatMap (segmentsOf state visibility)

def addSegment (links : Dict Text ProjectedPacketNetworkLink) (segment : Segment) :
    Dict Text ProjectedPacketNetworkLink :=
  if segment.ends.1 = segment.ends.2 then links
  else links.set segment.key
    (observeLink segment.activityAtMs segment.dashed segment.ends.1 segment.ends.2 (links.get? segment.key))

/-- What a drawn link says of the segments under its key. -/
structure Tells (link : ProjectedPacketNetworkLink) (under : Segment → Prop) : Prop where
  ends : ∃ segment, under segment ∧ segment.ends = (link.sourceId, link.targetId)
  direct : link.hasDirectObservation = true ↔ ∃ segment, under segment ∧ segment.dashed = none
  hidden : link.hasHiddenIntermediate = true ↔ ∃ segment, under segment ∧ segment.dashed.isSome = true
  latest : (∀ segment, under segment → segment.activityAtMs ≤ link.lastActivity) ∧
    ∃ segment, under segment ∧ segment.activityAtMs = link.lastActivity

/-- Each link tells of the segments with its key, and each segment has a link. -/
structure Summary (links : Dict Text ProjectedPacketNetworkLink) (list : List Segment) : Prop where
  tells : ∀ k link, links.get? k = some link → Tells link fun segment => segment ∈ list ∧ segment.key = k
  covers : ∀ segment ∈ list, (links.get? segment.key).isSome = true

theorem tells_first (segment : Segment) :
    Tells (observeLink segment.activityAtMs segment.dashed segment.ends.1 segment.ends.2 none)
      fun other => other = segment where
  ends := ⟨segment, rfl, rfl⟩
  direct := by simp [observeLink]
  hidden := by simp [observeLink]
  latest := ⟨fun other same => same ▸ le_rfl, segment, rfl, rfl⟩

theorem tells_next {under : Segment → Prop} (tells : Tells link under) (segment : Segment) (a b : Id) :
    Tells (observeLink segment.activityAtMs segment.dashed a b (some link))
      fun other => under other ∨ other = segment where
  ends := by
    obtain ⟨other, within, ends⟩ := tells.ends
    exact ⟨other, .inl within, ends⟩
  direct := by
    simp only [observeLink, Bool.or_eq_true, tells.direct, Option.isNone_iff_eq_none, or_and_right, exists_or,
      exists_eq_left]
  hidden := by
    simp only [observeLink, Bool.or_eq_true, tells.hidden, or_and_right, exists_or, exists_eq_left]
  latest := by
    obtain ⟨bound, other, within, attained⟩ := tells.latest
    refine ⟨?_, ?_⟩
    · rintro x (before | rfl)
      · exact (bound x before).trans (le_max_left _ _)
      · exact le_max_right _ _
    · rcases le_total link.lastActivity segment.activityAtMs with later | earlier
      · exact ⟨segment, .inr rfl, (max_eq_right later).symm⟩
      · exact ⟨other, .inl within, attained.trans (max_eq_left earlier).symm⟩

theorem Tells.congr {under under' : Segment → Prop} (tells : Tells link under)
    (same : ∀ segment, under segment ↔ under' segment) : Tells link under' :=
  (funext fun segment => propext (same segment) : under = under') ▸ tells

theorem Summary.add (summary : Summary links list) (segment : Segment)
    (distinct : segment.ends.1 ≠ segment.ends.2) : Summary (addSegment links segment) (list ++ [segment]) := by
  unfold addSegment
  rw [if_neg distinct]
  constructor
  · intro k link found
    rw [Dict.get?_set] at found
    split at found
    · rename_i here
      subst here
      cases found
      cases before : links.get? segment.key with
      | none =>
          refine (tells_first segment).congr fun other => ?_
          simp only [List.mem_append, List.mem_singleton]
          constructor
          · rintro rfl
            exact ⟨.inr rfl, rfl⟩
          · rintro ⟨old | new, same⟩
            · have covered := summary.covers other old
              rw [same, before] at covered
              contradiction
            · exact new
      | some old =>
          refine (tells_next (summary.tells _ old before) segment _ _).congr fun other => ?_
          simp only [List.mem_append, List.mem_singleton]
          constructor
          · rintro (⟨listed, same⟩ | rfl)
            · exact ⟨.inl listed, same⟩
            · exact ⟨.inr rfl, rfl⟩
          · rintro ⟨listed | rfl, same⟩
            · exact .inl ⟨listed, same⟩
            · exact .inr rfl
    · rename_i elsewhere
      refine (summary.tells k link found).congr fun other => ?_
      simp only [List.mem_append, List.mem_singleton]
      constructor
      · rintro ⟨listed, same⟩
        exact ⟨.inl listed, same⟩
      · rintro ⟨listed | rfl, same⟩
        · exact ⟨listed, same⟩
        · exact absurd same.symm elsewhere
  · intro other listed
    rw [Dict.get?_set]
    split
    · rfl
    · rename_i elsewhere
      rcases List.mem_append.mp listed with old | new
      · exact summary.covers other old
      · cases List.mem_singleton.mp new
        exact absurd rfl elsewhere

theorem summary_all {list : List Segment} (distinct : ∀ segment ∈ list, segment.ends.1 ≠ segment.ends.2) :
    Summary (list.foldl addSegment Dict.empty) list := by
  induction list using List.reverseRecOn with
  | nil => exact ⟨fun _ _ found => by contradiction, fun _ listed => by contradiction⟩
  | append_singleton list segment ih =>
      rw [List.foldl_append, List.foldl_cons, List.foldl_nil]
      exact (ih fun other listed => distinct other (List.mem_append_left _ listed)).add segment
        (distinct segment (by simp))

theorem adjacent_short {path : List Id} (short : path.length < 2) : adjacent path = [] := by
  cases path with
  | nil => rfl
  | cons first rest =>
      cases rest with
      | nil => rfl
      | cons next rest =>
          simp only [List.length_cons] at short
          omega

/-- The links are drawn segment by segment. -/
theorem projected_links (state : PacketNetworkState) (visibility : PacketNetworkVisibilityOptions) :
    (projectPacketNetwork state visibility).links = (segments state visibility).foldl addSegment Dict.empty := by
  have each (projection : PacketNetworkProjection) (observation : PacketNetworkObservation) :
      (projectObservation state visibility (buildKnownSiblingRepeaterAliasMap state visibility) projection
        observation).links = (segmentsOf state visibility observation).foldl addSegment projection.links := by
    unfold projectObservation segmentsOf
    dsimp only
    rw [List.foldl_map]
    split
    · rename_i short
      have none : adjacent (projectCanonicalPath state visibility observation.nodes).nodes = [] :=
        adjacent_short short
      rw [none]
      rfl
    · rfl
  have all (list : List PacketNetworkObservation) (projection : PacketNetworkProjection) :
      (list.foldl (projectObservation state visibility (buildKnownSiblingRepeaterAliasMap state visibility))
        projection).links = (list.flatMap (segmentsOf state visibility)).foldl addSegment projection.links := by
    induction list generalizing projection with
    | nil => rfl
    | cons observation rest ih => rw [List.foldl_cons, ih, each, List.flatMap_cons, List.foldl_append]
  exact all state.observations _

end Links

section Drawn
variable {state : PacketNetworkState} {visibility : PacketNetworkVisibilityOptions} {id : Id}

/-- The nodes that are drawn are nodes of the network that may be. -/
def Rendered (state : PacketNetworkState) (visibility : PacketNetworkVisibilityOptions)
    (nodes : Dict Id PacketNetworkNode) : Prop :=
  ∀ id node, nodes.get? id = some node → state.nodes.get? id = some node ∧ Visible state visibility id

theorem projectNode_here (nodes : Dict Id PacketNetworkNode) (present : Present state id) :
    ((projectNode state nodes id).get? id).isSome = true := by
  obtain ⟨node, found⟩ := Option.isSome_iff_exists.mp present
  unfold projectNode
  rw [found]
  simp

theorem projectNode_kept {nodes : Dict Id PacketNetworkNode} (other : Id)
    (drawn : (nodes.get? id).isSome = true) : ((projectNode state nodes other).get? id).isSome = true := by
  unfold projectNode
  split
  · rw [Dict.get?_set]
    split
    · rfl
    · exact drawn
  · exact drawn

theorem rendered_next (rendered : Rendered state visibility nodes) (visible : Visible state visibility id) :
    Rendered state visibility (projectNode state nodes id) := by
  unfold projectNode
  split
  · rename_i node found
    intro other drawn here
    rw [Dict.get?_set] at here
    split at here
    · rename_i same
      cases here
      exact same ▸ ⟨found, visible⟩
    · exact rendered other drawn here
  · exact rendered

theorem projectNodes_kept {nodes : Dict Id PacketNetworkNode} (path : List Id)
    (drawn : (nodes.get? id).isSome = true) : ((path.foldl (projectNode state) nodes).get? id).isSome = true := by
  induction path generalizing nodes with
  | nil => exact drawn
  | cons other rest ih => exact ih (projectNode_kept other drawn)

theorem rendered_all (rendered : Rendered state visibility nodes) (path : List Id)
    (visible : ∀ id ∈ path, Visible state visibility id) :
    Rendered state visibility (path.foldl (projectNode state) nodes) ∧
      ∀ id ∈ path, ((path.foldl (projectNode state) nodes).get? id).isSome = true := by
  induction path generalizing nodes with
  | nil => exact ⟨rendered, fun _ listed => by contradiction⟩
  | cons first rest ih =>
      have drawn := visible first List.mem_cons_self
      obtain ⟨rendered', all⟩ := ih (rendered_next rendered drawn)
        fun id listed => visible id (List.mem_cons_of_mem _ listed)
      refine ⟨rendered', fun id listed => ?_⟩
      rcases List.mem_cons.mp listed with rfl | later
      · exact projectNodes_kept rest (projectNode_here nodes drawn.present)
      · exact all id later

variable (visibility) in
theorem projectObservations (typed : Typed state) (list : List PacketNetworkObservation)
    (shaped : ∀ observation ∈ list, Shaped observation.nodes) (projection : PacketNetworkProjection)
    (rendered : Rendered state visibility projection.nodes) :
    let result := list.foldl (projectObservation state visibility
      (buildKnownSiblingRepeaterAliasMap state visibility)) projection
    Rendered state visibility result.nodes ∧
      (∀ id, (projection.nodes.get? id).isSome = true → (result.nodes.get? id).isSome = true) ∧
      ∀ observation ∈ list, ∀ pair ∈ adjacent (projectCanonicalPath state visibility observation.nodes).nodes,
        (result.nodes.get? pair.1).isSome = true ∧ (result.nodes.get? pair.2).isSome = true := by
  induction list generalizing projection with
  | nil => exact ⟨rendered, fun _ drawn => drawn, fun _ listed => by contradiction⟩
  | cons observation rest ih =>
      let projected := projectCanonicalPath state visibility observation.nodes
      let next := projectObservation state visibility (buildKnownSiblingRepeaterAliasMap state visibility)
        projection observation
      obtain ⟨path, visible⟩ := projected_shaped visibility typed
        (shaped observation List.mem_cons_self)
      have step : Rendered state visibility next.nodes ∧
          (∀ id, (projection.nodes.get? id).isSome = true → (next.nodes.get? id).isSome = true) ∧
          ∀ pair ∈ adjacent projected.nodes, (next.nodes.get? pair.1).isSome = true ∧
            (next.nodes.get? pair.2).isSome = true := by
        by_cases short : projected.nodes.length < 2
        · have same : next = projection := if_pos short
          rw [same, adjacent_short short]
          exact ⟨rendered, fun _ drawn => drawn, fun _ listed => by contradiction⟩
        · have same : next.nodes = projected.nodes.foldl (projectNode state) projection.nodes :=
            congrArg PacketNetworkProjection.nodes (if_neg short)
          obtain ⟨rendered', all⟩ := rendered_all rendered projected.nodes visible
          rw [same]
          refine ⟨rendered', fun id drawn => projectNodes_kept _ drawn, fun pair listed => ?_⟩
          obtain ⟨_, _, left, right⟩ := path.fits listed
          exact ⟨all _ left, all _ right⟩
      obtain ⟨rendered', kept, shown⟩ := step
      obtain ⟨rendered'', kept', shown'⟩ := ih
        (fun other listed => shaped other (List.mem_cons_of_mem _ listed)) next rendered'
      refine ⟨rendered'', fun id drawn => kept' id (kept id drawn), fun other listed => ?_⟩
      rcases List.mem_cons.mp listed with rfl | later
      · exact fun pair here => (shown pair here).imp (kept' _) (kept' _)
      · exact shown' other later

variable (visibility) in
theorem projected_nodes (sound : Sound state) (typed : Typed state) :
    Rendered state visibility (projectPacketNetwork state visibility).nodes ∧
      ∀ observation ∈ state.observations,
        ∀ pair ∈ adjacent (projectCanonicalPath state visibility observation.nodes).nodes,
          ((projectPacketNetwork state visibility).nodes.get? pair.1).isSome = true ∧
          ((projectPacketNetwork state visibility).nodes.get? pair.2).isSome = true := by
  obtain ⟨own, found⟩ := Option.isSome_iff_exists.mp sound.self
  have first : Rendered state visibility (Dict.empty.set selfId own) := by
    intro id node here
    rw [Dict.get?_set] at here
    split at here
    · rename_i same
      cases here
      refine same ▸ ⟨found, ?_⟩
      rw [Visible, found]
      simp [isPacketNetworkNodeVisible, (typed selfId own found).1]
    · contradiction
  have shaped : ∀ observation ∈ state.observations, Shaped observation.nodes := fun observation listed =>
    (sound.observed observation listed).2.1
  obtain ⟨rendered, _, shown⟩ := projectObservations visibility typed state.observations shaped
    ⟨Dict.empty.set selfId own, Dict.empty⟩ first
  unfold projectPacketNetwork
  rw [found]
  exact ⟨rendered, shown⟩

/-- Two nodes that follow each other on what is drawn of an observation. -/
def Shows (state : PacketNetworkState) (visibility : PacketNetworkVisibilityOptions)
    (observation : PacketNetworkObservation) (a b : Id) : Prop :=
  ∃ pair ∈ adjacent (projectCanonicalPath state visibility observation.nodes).nodes, SamePair pair.1 pair.2 a b

/-- A repeater is hidden between the two somewhere on it. -/
def Dashes (state : PacketNetworkState) (visibility : PacketNetworkVisibilityOptions)
    (observation : PacketNetworkObservation) (a b : Id) : Prop :=
  ((projectCanonicalPath state visibility observation.nodes).dashedLinkDetails.get?
    (buildLinkKey a b)).isSome = true

theorem key_samePair {pair : Id × Id} (fits : Fits pair.1 pair.2) (fits' : Fits a b) :
    buildLinkKey pair.1 pair.2 = buildLinkKey a b ↔ SamePair pair.1 pair.2 a b := by
  constructor
  · intro same
    rcases linkKey.inj _ _ _ _ fits fits' same with ⟨left, right⟩ | ⟨left, right⟩
    · exact .inl ⟨left.symm, right.symm⟩
    · exact .inr ⟨right.symm, left.symm⟩
  · rintro (⟨rfl, rfl⟩ | ⟨rfl, rfl⟩)
    · rfl
    · exact linkKey.symm _ _

variable (visibility) in
theorem segment_fits {segment : Segment} (sound : Sound state) (typed : Typed state)
    (listed : segment ∈ segments state visibility) :
    Fits segment.ends.1 segment.ends.2 ∧ segment.ends.1 ≠ segment.ends.2 := by
  obtain ⟨observation, member, made⟩ := List.mem_flatMap.mp listed
  obtain ⟨pair, here, rfl⟩ := List.mem_map.mp made
  have shaped := (projected_shaped visibility typed (sound.observed observation member).2.1).1
  exact ⟨(shaped.fits here).1, (shaped.fits here).2.1⟩

theorem under_iff (sound : Sound state) (typed : Typed state) (fits : Fits a b) {P : Segment → Prop} {Q :
    PacketNetworkObservation → Prop} (reads : ∀ observation ∈ state.observations, ∀ ends,
      buildLinkKey ends.1 ends.2 = buildLinkKey a b →
      (P ⟨ends, observation.activityAtMs, (projectCanonicalPath state visibility
        observation.nodes).dashedLinkDetails.get? (buildLinkKey a b)⟩ ↔ Q observation)) :
    (∃ segment, (segment ∈ segments state visibility ∧ segment.key = buildLinkKey a b) ∧ P segment) ↔
      ∃ observation ∈ state.observations, Shows state visibility observation a b ∧ Q observation := by
  constructor
  · rintro ⟨segment, ⟨listed, same⟩, holds⟩
    have fits' := (segment_fits visibility sound typed listed).1
    obtain ⟨observation, member, made⟩ := List.mem_flatMap.mp listed
    obtain ⟨pair, here, rfl⟩ := List.mem_map.mp made
    have key : buildLinkKey pair.1 pair.2 = buildLinkKey a b := same
    rw [key] at holds
    exact ⟨observation, member, ⟨pair, here, (key_samePair fits' fits).mp key⟩,
      (reads observation member pair key).mp holds⟩
  · rintro ⟨observation, member, ⟨pair, here, pairs⟩, holds⟩
    have listed : ∃ segment ∈ segments state visibility, segment = ⟨pair, observation.activityAtMs,
        (projectCanonicalPath state visibility observation.nodes).dashedLinkDetails.get?
          (buildLinkKey pair.1 pair.2)⟩ :=
      ⟨_, List.mem_flatMap.mpr ⟨observation, member, List.mem_map.mpr ⟨pair, here, rfl⟩⟩, rfl⟩
    obtain ⟨segment, listed, rfl⟩ := listed
    have key := (key_samePair (segment_fits visibility sound typed listed).1 fits).mpr pairs
    refine ⟨_, ⟨listed, key⟩, ?_⟩
    rw [key]
    exact (reads observation member pair key).mpr holds

theorem link_tells (sound : Sound state) (typed : Typed state)
    (found : (projectPacketNetwork state visibility).links.get? k = some link) :
    k = buildLinkKey link.sourceId link.targetId ∧ Fits link.sourceId link.targetId ∧
      link.sourceId ≠ link.targetId ∧
      Tells link fun segment => segment ∈ segments state visibility ∧ segment.key = k := by
  rw [projected_links] at found
  have summary := summary_all fun segment listed => (segment_fits visibility sound typed listed).2
  have tells := summary.tells k link found
  obtain ⟨segment, ⟨listed, same⟩, ends⟩ := tells.ends
  obtain ⟨fits, distinct⟩ := segment_fits visibility sound typed listed
  rw [ends] at fits distinct
  refine ⟨?_, fits, distinct, tells⟩
  rw [← same, Segment.key, ends]

/-- What is drawn of a network, after every run: nodes of the network that may be seen, and links that
are kept under the key of their ends, which are two of these nodes. -/
theorem drawn_consistent (selfName : Text) (now : Time) (events : List Event)
    (visibility : PacketNetworkVisibilityOptions) :
    let state := run selfName now events
    let projection := projectPacketNetwork state visibility
    (∀ id node, projection.nodes.get? id = some node → state.nodes.get? id = some node ∧
      isPacketNetworkNodeVisible visibility (some node) = true) ∧
    ∀ k link, projection.links.get? k = some link → k = buildLinkKey link.sourceId link.targetId ∧
      link.sourceId ≠ link.targetId ∧ (projection.nodes.get? link.sourceId).isSome = true ∧
      (projection.nodes.get? link.targetId).isSome = true := by
  intro state projection
  have sound : Sound state := sound_run selfName now events
  have typed : Typed state := typed_run selfName now events
  obtain ⟨rendered, shown⟩ := projected_nodes visibility sound typed
  refine ⟨fun id node found => ?_, fun k link found => ?_⟩
  · obtain ⟨here, visible⟩ := rendered id node found
    rw [Visible, here] at visible
    exact ⟨here, visible⟩
  · obtain ⟨under, _, distinct, tells⟩ := link_tells sound typed found
    obtain ⟨segment, ⟨listed, _⟩, ends⟩ := tells.ends
    obtain ⟨observation, member, made⟩ := List.mem_flatMap.mp listed
    obtain ⟨pair, here, rfl⟩ := List.mem_map.mp made
    obtain ⟨left, right⟩ := shown observation member pair here
    have pairs : pair = (link.sourceId, link.targetId) := ends
    rw [pairs] at left right
    exact ⟨under, distinct, left, right⟩

/-- A drawn link stands for the observations on whose drawn path its ends follow each other: there is
one exactly when there is such an observation, its activity is that of the latest one, and it is
direct or dashed exactly when one of them is. -/
theorem drawn_links_observed (selfName : Text) (now : Time) (events : List Event)
    (visibility : PacketNetworkVisibilityOptions) :
    let state := run selfName now events
    let projection := projectPacketNetwork state visibility
    (∀ a b, (∃ k link, projection.links.get? k = some link ∧ SamePair link.sourceId link.targetId a b) ↔
      ∃ observation ∈ state.observations, Shows state visibility observation a b) ∧
    ∀ k link, projection.links.get? k = some link →
      (∀ observation ∈ state.observations,
        Shows state visibility observation link.sourceId link.targetId →
          observation.activityAtMs ≤ link.lastActivity) ∧
      (∃ observation ∈ state.observations,
        Shows state visibility observation link.sourceId link.targetId ∧
          observation.activityAtMs = link.lastActivity) ∧
      (link.hasDirectObservation = true ↔ ∃ observation ∈ state.observations,
        Shows state visibility observation link.sourceId link.targetId ∧
          ¬ Dashes state visibility observation link.sourceId link.targetId) ∧
      (link.hasHiddenIntermediate = true ↔ ∃ observation ∈ state.observations,
        Shows state visibility observation link.sourceId link.targetId ∧
          Dashes state visibility observation link.sourceId link.targetId) := by
  intro state projection
  have sound : Sound state := sound_run selfName now events
  have typed : Typed state := typed_run selfName now events
  refine ⟨fun a b => ⟨?_, ?_⟩, fun k link found => ?_⟩
  · rintro ⟨k, link, found, joins⟩
    obtain ⟨_, _, _, tells⟩ := link_tells sound typed found
    obtain ⟨segment, ⟨listed, _⟩, ends⟩ := tells.ends
    obtain ⟨observation, member, made⟩ := List.mem_flatMap.mp listed
    obtain ⟨pair, here, rfl⟩ := List.mem_map.mp made
    have pairs : pair = (link.sourceId, link.targetId) := ends
    exact ⟨observation, member, pair, here, by rw [pairs]; exact joins⟩
  · rintro ⟨observation, member, pair, here, pairs⟩
    have summary := summary_all fun segment listed =>
      (segment_fits visibility sound typed listed).2
    have listed : (⟨pair, observation.activityAtMs, (projectCanonicalPath state visibility
        observation.nodes).dashedLinkDetails.get? (buildLinkKey pair.1 pair.2)⟩ : Segment) ∈
          segments state visibility :=
      List.mem_flatMap.mpr ⟨observation, member, List.mem_map.mpr ⟨pair, here, rfl⟩⟩
    have covered := summary.covers _ listed
    rw [← projected_links] at covered
    obtain ⟨link, found⟩ := Option.isSome_iff_exists.mp covered
    obtain ⟨under, fits, _, _⟩ := link_tells sound typed found
    refine ⟨_, link, found, ?_⟩
    have fits' := (segment_fits visibility sound typed listed).1
    rcases (key_samePair fits' fits).mp under with ⟨left, right⟩ | ⟨left, right⟩
    · rw [left, right]
      exact pairs
    · rw [left, right]
      exact pairs.symm
  · obtain ⟨rfl, fits, _, tells⟩ := link_tells sound typed found
    refine ⟨fun observation member shows => ?_, ?_, ?_, ?_⟩
    · have late := (under_iff sound typed fits (P := fun segment =>
        segment.activityAtMs = observation.activityAtMs) (Q := fun other =>
          other.activityAtMs = observation.activityAtMs) fun _ _ _ _ => Iff.rfl).mpr
            ⟨observation, member, shows, rfl⟩
      obtain ⟨segment, within, same⟩ := late
      exact same ▸ tells.latest.1 segment within
    · exact (under_iff sound typed fits fun _ _ _ _ => Iff.rfl).mp tells.latest.2
    · rw [tells.direct]
      refine under_iff sound typed fits fun observation _ ends same => ?_
      rw [Dashes, Bool.not_eq_true, Option.isSome_eq_false_iff, Option.isNone_iff_eq_none]
    · rw [tells.hidden]
      exact under_iff sound typed fits fun _ _ _ _ => Iff.rfl

end Drawn

section Bridges
variable {step : PathStep} {steps : List PathStep} {c : Compacting}

/-- The node that a step draws. -/
def PathStep.drawn (step : PathStep) : Option Id := step.nodeId.filter (· ≠ [])

/-- The last node that was drawn, and whether a repeater was hidden since. -/
def Pending (steps : List PathStep) (a : Id) (marked : Bool) : Prop :=
  ∃ before first hidden, steps = before ++ first :: hidden ∧ first.drawn = some a ∧
    (∀ step ∈ hidden, step.drawn = none) ∧ hidden.any (·.markHiddenLinkWhenOmitted) = marked

/-- Two nodes drawn one after the other, with a hidden repeater between them. -/
def Bridged (steps : List PathStep) (a b : Id) : Prop :=
  ∃ before first hidden last after, steps = before ++ first :: (hidden ++ last :: after) ∧
    first.drawn = some a ∧ last.drawn = some b ∧ (∀ step ∈ hidden, step.drawn = none) ∧
    ∃ step ∈ hidden, step.markHiddenLinkWhenOmitted = true

theorem pending_drawn (steps : List PathStep) (drawn : step.drawn = some b) :
    Pending (steps ++ [step]) a marked ↔ b = a ∧ false = marked := by
  constructor
  · rintro ⟨before, first, hidden, same, named, unnamed, any⟩
    rcases List.eq_nil_or_concat' hidden with rfl | ⟨rest, last, rfl⟩
    · obtain ⟨_, ends⟩ := List.append_inj' same rfl
      cases ends
      exact ⟨Option.some.inj (drawn.symm.trans named), any⟩
    · rw [← List.cons_append, ← List.append_assoc] at same
      obtain ⟨_, ends⟩ := List.append_inj' same rfl
      cases ends
      have absent := unnamed step (by simp)
      rw [drawn] at absent
      contradiction
  · rintro ⟨rfl, rfl⟩
    exact ⟨steps, step, [], rfl, drawn, fun _ listed => by contradiction, rfl⟩

theorem pending_hidden (steps : List PathStep) (hidden : step.drawn = none) :
    Pending (steps ++ [step]) a marked ↔
      ∃ earlier, Pending steps a earlier ∧ (earlier || step.markHiddenLinkWhenOmitted) = marked := by
  constructor
  · rintro ⟨before, first, skipped, same, named, unnamed, any⟩
    rcases List.eq_nil_or_concat' skipped with rfl | ⟨rest, last, rfl⟩
    · obtain ⟨_, ends⟩ := List.append_inj' same rfl
      cases ends
      rw [hidden] at named
      contradiction
    · rw [← List.cons_append, ← List.append_assoc] at same
      obtain ⟨rfl, ends⟩ := List.append_inj' same rfl
      cases ends
      refine ⟨_, ⟨before, first, rest, rfl, named, fun other listed => unnamed other (by simp [listed]), rfl⟩, ?_⟩
      rw [← any]
      simp
  · rintro ⟨earlier, ⟨before, first, rest, rfl, named, unnamed, rfl⟩, rfl⟩
    refine ⟨before, first, rest ++ [step], by simp, named, fun other listed => ?_, by simp⟩
    rcases List.mem_append.mp listed with old | new
    · exact unnamed other old
    · exact List.mem_singleton.mp new ▸ hidden

theorem bridged_snoc (steps : List PathStep) :
    Bridged (steps ++ [step]) a b ↔ Bridged steps a b ∨ step.drawn = some b ∧ Pending steps a true := by
  constructor
  · rintro ⟨before, first, hidden, last, after, same, named, named', unnamed, marked⟩
    rcases List.eq_nil_or_concat' after with rfl | ⟨rest, final, rfl⟩
    · rw [← List.cons_append, ← List.append_assoc] at same
      obtain ⟨rfl, ends⟩ := List.append_inj' same rfl
      cases ends
      exact .inr ⟨named', before, first, hidden, rfl, named, unnamed, List.any_eq_true.mpr marked⟩
    · have regrouped : before ++ first :: (hidden ++ last :: (rest ++ [final])) =
          before ++ first :: (hidden ++ last :: rest) ++ [final] := by simp
      rw [regrouped] at same
      obtain ⟨rfl, _⟩ := List.append_inj' same rfl
      exact .inl ⟨before, first, hidden, last, rest, rfl, named, named', unnamed, marked⟩
  · rintro (⟨before, first, hidden, last, after, rfl, named, named', unnamed, marked⟩ |
      ⟨named', before, first, hidden, rfl, named, unnamed, marked⟩)
    · exact ⟨before, first, hidden, last, after ++ [step], by simp, named, named', unnamed, marked⟩
    · exact ⟨before, first, hidden, step, [], by simp, named, named', unnamed, List.any_eq_true.mp marked⟩

/-- The variables of the loop after some steps. -/
structure Follows (steps : List PathStep) (c : Compacting) : Prop where
  pending : ∀ a marked, Pending steps a marked ↔ c.nodes.getLast? = some a ∧ c.pendingHiddenLink = marked
  dashes : ∀ k, (c.dashedLinkDetails.get? k).isSome = true ↔
    ∃ a b, Bridged steps a b ∧ a ≠ b ∧ buildLinkKey a b = k

theorem Follows.draw (follows : Follows steps c) (drawn : step.drawn = some b) :
    Follows (steps ++ [step]) (compactStep c step) := by
  unfold PathStep.drawn at drawn
  unfold compactStep
  rw [drawn]
  constructor
  · intro a marked
    rw [pending_drawn steps drawn]
    dsimp only
    split
    · rename_i same
      rw [same, Option.some.injEq]
    · rw [List.getLast?_concat, Option.some.injEq]
  · intro k
    have new (x y : Id) : Bridged (steps ++ [step]) x y ↔ Bridged steps x y ∨
        b = y ∧ c.nodes.getLast? = some x ∧ c.pendingHiddenLink = true := by
      rw [bridged_snoc, follows.pending]
      exact or_congr_right (and_congr_left fun _ => by rw [PathStep.drawn, drawn, Option.some.injEq])
    simp only [new]
    unfold dash
    split
    · rename_i empty
      rw [follows.dashes, empty]
      simp
    · rename_i previous last
      simp only [last, Option.some.injEq]
      split
      · rename_i bridge
        rw [Dict.get?_set]
        split
        · rename_i here
          exact ⟨fun _ => ⟨previous, b, .inr ⟨rfl, rfl, bridge.1⟩, bridge.2, here.symm⟩, fun _ => rfl⟩
        · rename_i elsewhere
          rw [follows.dashes]
          constructor
          · rintro ⟨x, y, old, rest⟩
            exact ⟨x, y, .inl old, rest⟩
          · rintro ⟨x, y, old | ⟨rfl, rfl, _⟩, rest⟩
            · exact ⟨x, y, old, rest⟩
            · exact absurd rest.2.symm elsewhere
      · rename_i plain
        rw [follows.dashes]
        constructor
        · rintro ⟨x, y, old, rest⟩
          exact ⟨x, y, .inl old, rest⟩
        · rintro ⟨x, y, old | ⟨rfl, rfl, marked⟩, rest⟩
          · exact ⟨x, y, old, rest⟩
          · exact absurd ⟨marked, rest.1⟩ plain

theorem Follows.hide (follows : Follows steps c) (hidden : step.drawn = none) :
    Follows (steps ++ [step]) (compactStep c step) := by
  have dashes (k : Text) : (c.dashedLinkDetails.get? k).isSome = true ↔
      ∃ a b, Bridged (steps ++ [step]) a b ∧ a ≠ b ∧ buildLinkKey a b = k := by
    rw [follows.dashes]
    simp only [bridged_snoc, hidden, reduceCtorEq, false_and, or_false]
  unfold PathStep.drawn at hidden
  unfold compactStep
  rw [hidden]
  dsimp only
  split
  · rename_i marks
    refine ⟨fun a marked => ?_, dashes⟩
    simp only [pending_hidden steps hidden, follows.pending, marks.1, Bool.or_true]
    constructor
    · rintro ⟨_, last, same⟩
      exact ⟨last.1, same⟩
    · rintro ⟨last, same⟩
      exact ⟨_, ⟨last, rfl⟩, same⟩
  · rename_i silent
    refine ⟨fun a marked => ?_, dashes⟩
    simp only [pending_hidden steps hidden, follows.pending]
    cases mark : step.markHiddenLinkWhenOmitted with
    | false => simp
    | true =>
        have empty : c.nodes = [] := by simpa [mark] using silent
        simp [empty]

theorem follows_all (steps : List PathStep) :
    Follows steps (steps.foldl compactStep ⟨[], Dict.empty, false, []⟩) := by
  induction steps using List.reverseRecOn with
  | nil =>
      constructor
      · refine fun a marked => ⟨?_, fun here => absurd here.1 (by simp)⟩
        rintro ⟨before, first, hidden, same, _⟩
        simp at same
      · refine fun k => ⟨fun there => by contradiction, ?_⟩
        rintro ⟨a, b, ⟨before, first, hidden, last, after, same, _⟩, _⟩
        simp at same
  | append_singleton steps step ih =>
      rw [List.foldl_append, List.foldl_cons, List.foldl_nil]
      cases drawn : step.drawn with
      | none => exact ih.hide drawn
      | some b => exact ih.draw drawn

end Bridges

section Hidden
variable {state : PacketNetworkState} {visibility : PacketNetworkVisibilityOptions} {path : List Id}
  {id other : Id}

/-- What a node of a path is drawn as. -/
def drawnAs (state : PacketNetworkState) (visibility : PacketNetworkVisibilityOptions) (id : Id) : Option Id :=
  (if isPacketNetworkNodeVisible visibility (state.nodes.get? id) then
    some (((buildKnownSiblingRepeaterAliasMap state visibility).get? id).getD id) else none).filter (· ≠ [])

def HiddenRepeater (state : PacketNetworkState) (visibility : PacketNetworkVisibilityOptions) (id : Id) : Prop :=
  ¬ Visible state visibility id ∧ ∃ node, state.nodes.get? id = some node ∧ node.type = .repeater

/-- Two nodes of a path are drawn one after the other, and between them are hidden nodes, one of which
is a repeater. -/
def Skips (state : PacketNetworkState) (visibility : PacketNetworkVisibilityOptions) (path : List Id)
    (a b : Id) : Prop :=
  ∃ before first hidden last after, path = before ++ first :: (hidden ++ last :: after) ∧
    drawnAs state visibility first = some a ∧ drawnAs state visibility last = some b ∧
    (∀ id ∈ hidden, drawnAs state visibility id = none) ∧ ∃ id ∈ hidden, HiddenRepeater state visibility id

/-- The steps of a path. -/
def stepsOf (state : PacketNetworkState) (visibility : PacketNetworkVisibilityOptions) (path : List Id) :
    List PathStep :=
  path.zipIdx.map (pathStep state visibility (buildKnownSiblingRepeaterAliasMap state visibility) path.length)

theorem pathStep_marks {length : Nat} {aliases : Dict Id Id} {hop : Id × Nat} :
    (pathStep state visibility aliases length hop).markHiddenLinkWhenOmitted = true ↔
      HiddenRepeater state visibility hop.1 ∧ 0 < hop.2 ∧ hop.2 + 1 < length := by
  unfold pathStep HiddenRepeater Visible
  simp only [Bool.and_eq_true, Bool.not_eq_true', decide_eq_true_eq, Option.any_eq_true, Bool.not_eq_true,
    and_assoc]

theorem bridged_steps : Bridged (stepsOf state visibility path) a b ↔ Skips state visibility path a b := by
  have drawn (length : Nat) (hop : Id × Nat) : (pathStep state visibility
      (buildKnownSiblingRepeaterAliasMap state visibility) length hop).drawn = drawnAs state visibility hop.1 := rfl
  constructor
  · rintro ⟨before, first, hidden, last, after, steps, named, named', unnamed, step, listed, marked⟩
    obtain ⟨before', from_first, split, _, at_first⟩ := List.map_eq_append_iff.mp steps
    obtain ⟨first', from_hidden, rfl, rfl, at_hidden⟩ := List.map_eq_cons_iff.mp at_first
    obtain ⟨hidden', from_last, rfl, rfl, at_last⟩ := List.map_eq_append_iff.mp at_hidden
    obtain ⟨last', after', rfl, rfl, _⟩ := List.map_eq_cons_iff.mp at_last
    obtain ⟨hop, member, rfl⟩ := List.mem_map.mp listed
    have whole : path = path.zipIdx.map Prod.fst := (List.zipIdx_map_fst 0 path).symm
    refine ⟨before'.map Prod.fst, first'.1, hidden'.map Prod.fst, last'.1, after'.map Prod.fst, ?_,
      named, named', fun id here => ?_, hop.1, List.mem_map_of_mem member, (pathStep_marks.mp marked).1⟩
    · rw [split] at whole
      simpa using whole
    · obtain ⟨hop, member, rfl⟩ := List.mem_map.mp here
      exact unnamed _ (List.mem_map_of_mem member)
  · rintro ⟨before, first, hidden, last, after, rfl, named, named', unnamed, id, listed, repeater⟩
    unfold stepsOf
    simp only [List.zipIdx_append, List.zipIdx_cons, List.map_append, List.map_cons]
    refine ⟨_, _, _, _, _, rfl, named, named', fun step here => ?_, ?_⟩
    · obtain ⟨hop, member, rfl⟩ := List.mem_map.mp here
      exact unnamed _ (List.fst_mem_of_mem_zipIdx member)
    · have indexed : id ∈ (hidden.zipIdx (0 + before.length + 1)).map Prod.fst := by
        rw [List.zipIdx_map_fst]
        exact listed
      obtain ⟨hop, member, rfl⟩ := List.mem_map.mp indexed
      have low := List.le_snd_of_mem_zipIdx member
      have high := List.snd_lt_add_of_mem_zipIdx member
      refine ⟨_, List.mem_map_of_mem member, pathStep_marks.mpr ⟨repeater, by omega, ?_⟩⟩
      simp only [List.length_append, List.length_cons]
      omega

theorem dashes_iff_bridged (observation : PacketNetworkObservation) (a b : Id) :
    Dashes state visibility observation a b ↔
      ∃ x y, Skips state visibility observation.nodes x y ∧ x ≠ y ∧ buildLinkKey x y = buildLinkKey a b := by
  have follows := follows_all (stepsOf state visibility observation.nodes)
  refine (follows.dashes (buildLinkKey a b)).trans ?_
  simp only [bridged_steps]

theorem drawnAs_named (typed : Typed state) (drawn : drawnAs state visibility id = some other) :
    other = id ∨ Plain other := by
  obtain ⟨named, _⟩ := Option.filter_eq_some_iff.mp drawn
  split at named
  · cases found : (buildKnownSiblingRepeaterAliasMap state visibility).get? id with
    | none =>
        rw [found] at named
        exact .inl (Option.some.inj named).symm
    | some known =>
        rw [found] at named
        cases named
        exact .inr (aliasMap_known typed found).1
  · contradiction

theorem skips_fits (typed : Typed state) (shaped : Shaped path) (skips : Skips state visibility path a b) :
    Fits a b := by
  obtain ⟨before, first, hidden, last, after, rfl, named, named', _⟩ := skips
  have late : last ∈ (before ++ first :: (hidden ++ last :: after)).tail := by
    cases before <;> simp
  have proper : Proper first := by
    cases before with
    | nil => exact shaped.head first rfl
    | cons head rest => exact .inl (shaped.tail first (by simp))
  refine .inr ⟨?_, ?_⟩
  · rcases drawnAs_named typed named with rfl | plain
    · exact proper
    · exact .inl plain
  · rcases drawnAs_named typed named' with rfl | plain
    · exact shaped.tail _ late
    · exact plain

/-- Two nodes that follow each other on what is drawn of an observation have a dashed link exactly when
they stand for nodes of the observed path with only hidden ones between, a repeater among them. -/
theorem dashed_iff_repeater_hidden (selfName : Text) (now : Time) (events : List Event)
    (visibility : PacketNetworkVisibilityOptions) :
    let state := run selfName now events
    ∀ observation ∈ state.observations, ∀ a b, Shows state visibility observation a b →
      (Dashes state visibility observation a b ↔
        Skips state visibility observation.nodes a b ∨ Skips state visibility observation.nodes b a) := by
  intro state observation member a b shows
  have sound : Sound state := sound_run selfName now events
  have typed : Typed state := typed_run selfName now events
  have shaped := (sound.observed observation member).2.1
  obtain ⟨pair, listed, pairs⟩ := shows
  obtain ⟨pairFits, pairApart, _⟩ := (projected_shaped visibility typed shaped).1.fits listed
  have ends : Fits a b ∧ a ≠ b := by
    rcases pairs with ⟨rfl, rfl⟩ | ⟨rfl, rfl⟩
    · exact ⟨pairFits, pairApart⟩
    · exact ⟨fits_symm pairFits, pairApart.symm⟩
  rw [dashes_iff_bridged]
  constructor
  · rintro ⟨x, y, skips, _, same⟩
    have found : SamePair (x, y).1 (x, y).2 a b := (key_samePair (skips_fits typed shaped skips) ends.1).mp same
    rcases found with ⟨rfl, rfl⟩ | ⟨rfl, rfl⟩
    · exact .inl skips
    · exact .inr skips
  · rintro (skips | skips)
    · exact ⟨a, b, skips, ends.2, rfl⟩
    · exact ⟨b, a, skips, ends.2.symm, linkKey.symm _ _⟩

theorem relayed_dashed :
    Skips (run [] 0 [relayed ['A'] ⟨['0', 'a'], rfl⟩]) ⟨true, false, false⟩
        [nameStart ++ ['A'], ['?', '0', 'a'], selfId] (nameStart ++ ['A']) selfId ∨
      Skips (run [] 0 [relayed ['A'] ⟨['0', 'a'], rfl⟩]) ⟨true, false, false⟩
        [nameStart ++ ['A'], ['?', '0', 'a'], selfId] selfId (nameStart ++ ['A']) := by
  have heard : (run [] 0 [relayed ['A'] ⟨['0', 'a'], rfl⟩]).observations =
      [⟨1, [nameStart ++ ['A'], ['?', '0', 'a'], selfId]⟩] := by rfl
  have drawn : (projectCanonicalPath (run [] 0 [relayed ['A'] ⟨['0', 'a'], rfl⟩]) ⟨true, false, false⟩
      [nameStart ++ ['A'], ['?', '0', 'a'], selfId]).nodes = [nameStart ++ ['A'], selfId] := by decide
  refine (dashed_iff_repeater_hidden [] 0 [relayed ['A'] ⟨['0', 'a'], rfl⟩] ⟨true, false, false⟩
    ⟨1, [nameStart ++ ['A'], ['?', '0', 'a'], selfId]⟩ (heard ▸ List.mem_singleton_self _) _ _
    ⟨(nameStart ++ ['A'], selfId), ?_, .inl ⟨rfl, rfl⟩⟩).mp ?_
  · rw [drawn]
    decide
  · unfold Dashes
    decide

end Hidden

end Meshloom.PacketNetwork
