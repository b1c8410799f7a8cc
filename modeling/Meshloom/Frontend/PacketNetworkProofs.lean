import Meshloom.Frontend.PacketNetwork

/-! What holds of the packet network after every run. Only the first node of a path may stand for a
name, and among such paths the keys of the links tell pairs apart; so the links, the neighbours and
the observations agree at any time. The graph of a run is the union of those of its packets, whatever
their order, and pruning loses nothing that was active since. -/
namespace Meshloom.PacketNetwork
open LinkStore

section Keys

/-- The id of a radio, of a hop or of an unknown node. -/
def Plain (id : Id) : Prop := '-' ∉ id ∧ id.head? ≠ some 'n'

/-- The id of any node: that of a name starts with `name:`. -/
def Proper (id : Id) : Prop := Plain id ∨ id.head? = some 'n'

/-- Two nodes that may follow each other on a path. -/
def Fits (a b : Id) : Prop := Plain a ∧ Proper b ∨ Proper a ∧ Plain b

theorem Fits.left (fits : Fits a b) : Proper a := fits.elim (fun h => .inl h.1) (fun h => h.1)

theorem fits_symm (fits : Fits a b) : Fits b a :=
  fits.elim (fun h => .inr ⟨h.2, h.1⟩) (fun h => .inl ⟨h.2, h.1⟩)

/-- Texts are cut at the first mark. -/
theorem cut_inj {mark : Char} {a b c d : Text} (absent : mark ∉ a) (absent' : mark ∉ c)
    (same : a ++ mark :: b = c ++ mark :: d) : a = c ∧ b = d := by
  induction a generalizing c with
  | nil =>
      cases c with
      | nil => exact ⟨rfl, (List.cons.inj same).2⟩
      | cons x c =>
          have first : mark = x := (List.cons.inj same).1
          exact absurd (first ▸ List.mem_cons_self) absent'
  | cons x a ih =>
      cases c with
      | nil =>
          have first : x = mark := (List.cons.inj same).1
          exact absurd (first ▸ List.mem_cons_self) absent
      | cons y c =>
          obtain ⟨rfl, rest⟩ := List.cons.inj same
          obtain ⟨rfl, rfl⟩ := ih (fun member => absent (List.mem_cons_of_mem _ member))
            (fun member => absent' (List.mem_cons_of_mem _ member)) rest
          exact ⟨rfl, rfl⟩

/-- What starts with a plain node does not start with a name. -/
theorem head_apart (plain : Plain a) (named : c.head? = some 'n') (b d : Text) :
    a ++ '-' :: b ≠ c ++ '-' :: d := by
  intro same
  have heads := congrArg List.head? same
  rw [List.head?_append, List.head?_append, named] at heads
  cases a with
  | nil => simp at heads
  | cons x a =>
      have first : x = 'n' := by simpa using heads
      exact plain.2 (by rw [first]; rfl)

theorem written_inj (fits : Fits a b) (fits' : Fits c d)
    (same : a ++ arrow ++ b = c ++ arrow ++ d) : a = c ∧ b = d := by
  have marked (x y : Id) : x ++ arrow ++ y = x ++ '-' :: '>' :: y := by simp [arrow]
  rw [marked, marked] at same
  by_cases plain : Plain a
  · by_cases plain' : Plain c
    · obtain ⟨left, right⟩ := cut_inj plain.1 plain'.1 same
      exact ⟨left, (List.cons.inj right).2⟩
    · exact absurd same (head_apart plain (fits'.left.resolve_left plain') _ _)
  · have named := fits.left.resolve_left plain
    by_cases plain' : Plain c
    · exact absurd same.symm (head_apart plain' named _ _)
    · -- Both start with a name, so it is the last mark that cuts them.
      have last : Plain b := (fits.resolve_left fun h => plain h.1).2
      have last' : Plain d := (fits'.resolve_left fun h => plain' h.1).2
      have reversed := congrArg List.reverse same
      simp only [List.reverse_append, List.reverse_cons, List.append_assoc, List.cons_append,
        List.nil_append] at reversed
      have ends (x y : Text) : x ++ '>' :: '-' :: y = (x ++ ['>']) ++ '-' :: y := by simp
      rw [ends, ends] at reversed
      have unmarked {x : Id} (absent : '-' ∉ x) : '-' ∉ x.reverse ++ ['>'] := by simpa using absent
      obtain ⟨right, left⟩ := cut_inj (unmarked last.1) (unmarked last'.1) reversed
      exact ⟨List.reverse_injective left, List.reverse_injective (List.append_cancel_right right)⟩

/-- The keys of the links tell apart the pairs that a path can have. -/
def linkKey : PairKey Id Text where
  key := buildLinkKey
  Fits := Fits
  symm a b := by
    unfold buildLinkKey
    by_cases first : Utf16.before a b = true
    · by_cases second : Utf16.before b a = true
      · rw [Utf16.before_antisymm first second]
      · rw [if_pos first, if_neg second]
    · rw [if_neg first, if_pos ((Utf16.before_total a b).resolve_left first)]
  fits_symm _ _ := fits_symm
  inj a b c d fits fits' same := by
    unfold buildLinkKey at same
    split at same <;> split at same
    · exact .inl (written_inj fits fits' same)
    · exact .inr (written_inj fits (fits_symm fits') same)
    · exact .inr (written_inj (fits_symm fits) fits' same).symm
    · exact .inl (written_inj (fits_symm fits) (fits_symm fits') same).symm

end Keys

section Ids

theorem hex_letters : ∀ n < 128, isHex (Char.ofNat n) = true →
    (Char.ofNat n).toLower ≠ '-' ∧ (Char.ofNat n).toLower ≠ 'n' := by decide

theorem lower_letter {c : Char} (digit : isHex c = true) : c.toLower ≠ '-' ∧ c.toLower ≠ 'n' := by
  have small : c.toNat < 128 := by
    have bound {top : Char} (below : c ≤ top) : c.toNat ≤ top.toNat := below
    simp only [isHex, Bool.or_eq_true, Bool.and_eq_true, decide_eq_true_eq] at digit
    rcases digit with (⟨_, below⟩ | ⟨_, below⟩) | ⟨_, below⟩
    all_goals exact (bound below).trans_lt (by decide)
  have lower := hex_letters c.toNat small
  rw [Char.ofNat_toNat] at lower
  exact lower digit

theorem mem_lower {hex : Hex} (member : c ∈ hex.lower) : c ≠ '-' ∧ c ≠ 'n' := by
  obtain ⟨digit, listed, rfl⟩ := List.mem_map.mp member
  exact lower_letter (List.all_eq_true.mp hex.digits digit listed)

theorem self_plain : Plain selfId := ⟨by decide, by decide⟩

theorem prefix12_plain (key : Hex) : Plain (prefix12 key) := by
  have letters : ∀ c ∈ prefix12 key, c ≠ '-' ∧ c ≠ 'n' := fun c member =>
    mem_lower (List.mem_of_mem_take member)
  exact ⟨fun member => (letters _ member).1 rfl,
    fun first => (letters _ (List.mem_of_head? first)).2 rfl⟩

theorem mem_normalizeHopToken (token : normalizeHopToken hop = some digits) : '-' ∉ digits := by
  obtain ⟨lower, -⟩ := Option.filter_eq_some_iff.mp token
  obtain ⟨hex, -, rfl⟩ := Option.map_eq_some_iff.mp lower
  exact fun member => (mem_lower member).1 rfl

theorem repeaterNodeId_plain (hop : Hex) (nextHop : Option Hex) :
    Plain (buildAmbiguousRepeaterNodeId hop nextHop) := by
  unfold buildAmbiguousRepeaterNodeId
  split
  · exact ⟨by decide, by decide⟩
  · rename_i hopKey nextHopKey token token'
    refine ⟨?_, by simp⟩
    simp [mem_normalizeHopToken token, mem_normalizeHopToken token']
  · rename_i hopKey token token'
    refine ⟨?_, by simp⟩
    simp [mem_normalizeHopToken token]

variable {host : Host} {context : PacketNetworkContext}

theorem ownOr_node (made : ownOr context update = .node u) : u = update := by
  unfold ownOr at made
  split at made
  · cases made
  · cases made
    rfl

theorem resolvePubkey_plain (made : resolvePubkey context value = .node update) : Plain update.id := by
  unfold resolvePubkey at made
  split at made
  · cases made
  · rw [ownOr_node made]
    exact prefix12_plain value

theorem resolveName_proper (made : resolveName context value = .node update) : Proper update.id := by
  unfold resolveName at made
  split at made
  · rw [ownOr_node made]
    exact .inl (prefix12_plain _)
  · cases made
    exact .inr rfl

theorem resolveHop_plain (made : (resolveHop host context patterns value isRepeater showAmbiguous
    traffic).2 = .node update) : Plain update.id := by
  unfold resolveHop at made
  split at made
  · rw [ownOr_node made]
    exact prefix12_plain _
  · split at made
    · split at made
      · cases made
        exact prefix12_plain _
      · split at made
        · cases made
        · cases made
          exact repeaterNodeId_plain _ _
    · cases made

theorem resolve_proper (made : (resolve host context patterns source isRepeater showAmbiguous
    traffic).2 = .node update) : Proper update.id := by
  cases source with
  | pubkey value => exact .inl (resolvePubkey_plain made)
  | name value => exact resolveName_proper made
  | hop value => exact .inl (resolveHop_plain made)

end Ids

section Nodes
variable {id : Id}

def Present (state : PacketNetworkState) (id : Id) : Prop := (state.nodes.get? id).isSome = true

/-- The node is there and was active at the time or later. -/
def Active (state : PacketNetworkState) (id : Id) (time : Time) : Prop :=
  ∃ node, state.nodes.get? id = some node ∧ time ≤ node.lastActivity

/-- The node is on a path of the time: our own is there, and any other was active. -/
def Known (state : PacketNetworkState) (time : Time) (id : Id) : Prop :=
  Present state id ∧ (id ≠ selfId → Active state id time)

theorem Active.present (active : Active state id time) : Present state id := by
  obtain ⟨node, found, _⟩ := active
  rw [Present, found]
  rfl

/-- Nodes are added and brought up to date, and nothing else is changed. -/
structure Grows (before after : PacketNetworkState) : Prop where
  links : after.links = before.links
  neighborIds : after.neighborIds = before.neighborIds
  observations : after.observations = before.observations
  active : ∀ id time, Active before id time → Active after id time

theorem present_iff_active : Present state id ↔ ∃ time, Active state id time := by
  constructor
  · intro present
    obtain ⟨node, found⟩ := Option.isSome_iff_exists.mp present
    exact ⟨node.lastActivity, node, found, le_rfl⟩
  · rintro ⟨time, active⟩
    exact active.present

theorem Grows.present (grows : Grows before after) (present : Present before id) : Present after id := by
  obtain ⟨time, active⟩ := present_iff_active.mp present
  exact (grows.active id time active).present

theorem Grows.known (grows : Grows before after) (known : Known before time id) :
    Known after time id :=
  ⟨grows.present known.1, fun other => grows.active id time (known.2 other)⟩

theorem Grows.refl (state : PacketNetworkState) : Grows state state :=
  ⟨rfl, rfl, rfl, fun _ _ active => active⟩

theorem Grows.trans (first : Grows a b) (second : Grows b c) : Grows a c where
  links := second.links.trans first.links
  neighborIds := second.neighborIds.trans first.neighborIds
  observations := second.observations.trans first.observations
  active id time active := second.active id time (first.active id time active)

theorem addOrUpdateNode_here (nodes : Dict Id PacketNetworkNode) (time : Time) (update : NodeUpdate) :
    ∃ node, (addOrUpdateNode nodes time update).get? update.id = some node ∧
      time ≤ node.lastActivity ∧
      ∀ old, nodes.get? update.id = some old → old.lastActivity ≤ node.lastActivity := by
  unfold addOrUpdateNode
  cases found : nodes.get? update.id with
  | some existing =>
      refine ⟨_, by rw [Dict.get?_set, if_pos rfl], le_max_right _ _, fun old same => ?_⟩
      cases same
      exact le_max_left _ _
  | none =>
      refine ⟨_, by rw [Dict.get?_set, if_pos rfl], le_rfl, fun old same => ?_⟩
      contradiction

theorem addOrUpdateNode_elsewhere (nodes : Dict Id PacketNetworkNode) (time : Time)
    {update : NodeUpdate} (other : id ≠ update.id) :
    (addOrUpdateNode nodes time update).get? id = nodes.get? id := by
  unfold addOrUpdateNode
  split <;> rw [Dict.get?_set, if_neg other]

theorem active_addOrUpdateNode {update : NodeUpdate} {time : Time} {patterns : TrafficPatterns}
    (active : Active state id earlier) :
    Active { state with trafficPatterns := patterns, nodes := addOrUpdateNode state.nodes time update }
      id earlier := by
  obtain ⟨node, found, recent⟩ := active
  by_cases same : id = update.id
  · obtain ⟨updated, here, _, later⟩ := addOrUpdateNode_here state.nodes time update
    rw [same] at found
    exact ⟨updated, same ▸ here, recent.trans (later node found)⟩
  · exact ⟨node, (addOrUpdateNode_elsewhere state.nodes time same).trans found, recent⟩

theorem enter_grows (state : PacketNetworkState) (time : Time) (resolved : TrafficPatterns × Resolution) :
    Grows state (enter state time resolved).1 := by
  unfold enter
  split
  · exact ⟨rfl, rfl, rfl, fun _ _ active => active⟩
  · exact ⟨rfl, rfl, rfl, fun _ _ active => active⟩
  · exact ⟨rfl, rfl, rfl, fun _ _ active => active_addOrUpdateNode active⟩

/-- The node that is entered is there, and is our own or the resolved one. -/
theorem enter_known (self : Present state selfId) (entered : (enter state time resolved).2 = some id) :
    Known (enter state time resolved).1 time id ∧
      (id = selfId ∨ ∃ update, resolved.2 = .node update ∧ id = update.id) := by
  unfold enter at entered ⊢
  split at entered
  · contradiction
  · rename_i own
    cases entered
    rw [own]
    exact ⟨⟨self, fun other => absurd rfl other⟩, .inl rfl⟩
  · rename_i update node
    rw [node]
    split at entered
    · contradiction
    · cases entered
      obtain ⟨updated, here, recent, _⟩ := addOrUpdateNode_here state.nodes time update
      have active : Active
          { state with
            trafficPatterns := resolved.1
            nodes := addOrUpdateNode state.nodes time update } update.id time := ⟨updated, here, recent⟩
      exact ⟨⟨active.present, fun _ => active⟩, .inr ⟨update, rfl, rfl⟩⟩

end Nodes

section Path
variable {host : Host} {context : PacketNetworkContext} {id : Id}

theorem enterHead_known (self : Present state selfId)
    (entered : (enterHead host context state time head).2 = some id) :
    Known (enterHead host context state time head).1 time id ∧ Proper id := by
  cases head with
  | nothing => contradiction
  | self =>
      cases entered
      exact ⟨⟨self, fun other => absurd rfl other⟩, .inl self_plain⟩
  | source source showAmbiguous =>
      obtain ⟨known, rfl | ⟨update, made, rfl⟩⟩ := enter_known self entered
      · exact ⟨known, .inl self_plain⟩
      · exact ⟨known, resolve_proper made⟩

theorem enterHead_grows (state : PacketNetworkState) (time : Time) (head : Head) :
    Grows state (enterHead host context state time head).1 := by
  cases head with
  | nothing => exact .refl state
  | self => exact .refl state
  | source source showAmbiguous => exact enter_grows state time _

theorem enterHops_grows (time : Time) (source : Option Id) (state : PacketNetworkState) (hops : List Hex) :
    Grows state (enterHops host context time source state hops).1 := by
  induction hops generalizing state with
  | nil => exact .refl state
  | cons hop rest ih => exact (enter_grows state time _).trans (ih _)

theorem enterHops_known (self : Present state selfId) (hops : List Hex) :
    ∀ id ∈ (enterHops host context time source state hops).2,
      Known (enterHops host context time source state hops).1 time id ∧ Plain id := by
  induction hops generalizing state with
  | nil =>
      intro id listed
      contradiction
  | cons hop rest ih =>
      intro id listed
      rw [enterHops, List.mem_append, Option.mem_toList] at listed
      rcases listed with here | later
      · obtain ⟨known, same⟩ := enter_known self here
        refine ⟨(enterHops_grows time source _ rest).known known, ?_⟩
        rcases same with rfl | ⟨update, made, rfl⟩
        · exact self_plain
        · exact resolveHop_plain made
      · exact ih ((enter_grows state time _).present self) id later

/-- Only the first node may stand for a name, and no node follows itself. -/
structure Shaped (path : List Id) : Prop where
  head : ∀ id ∈ path.head?, Proper id
  tail : ∀ id ∈ path.tail, Plain id
  chain : path.IsChain (· ≠ ·)

theorem destutter_cons (id : Id) (rest : List Id) : ∃ left, (id :: rest).destutter (· ≠ ·) = id :: left ∧
    ∀ x ∈ left, x ∈ rest := by
  rw [List.destutter_cons']
  induction rest with
  | nil => exact ⟨[], rfl, fun x listed => listed⟩
  | cons next rest ih =>
      rw [List.destutter'_cons]
      split
      · exact ⟨_, rfl, fun x listed => (List.destutter'_sublist _ _ _).subset listed⟩
      · obtain ⟨left, same, kept⟩ := ih
        exact ⟨left, same, fun x listed => List.mem_cons_of_mem _ (kept x listed)⟩

theorem shaped_dedupe (head : Option Id) (proper : ∀ id ∈ head, Proper id)
    (plain : ∀ id ∈ rest, Plain id) : Shaped (dedupeConsecutive (head.toList ++ rest)) := by
  have first (id : Id) (others : List Id) (proper : Proper id) (plain : ∀ x ∈ others, Plain x) :
      Shaped (dedupeConsecutive (id :: others)) := by
    obtain ⟨left, same, kept⟩ := destutter_cons id others
    have chain := List.isChain_destutter (· ≠ ·) (id :: others)
    rw [same] at chain
    rw [dedupeConsecutive, same]
    refine ⟨fun x here => ?_, fun x listed => plain x (kept x listed), chain⟩
    cases here
    exact proper
  cases head with
  | some id => exact first id rest (proper id rfl) plain
  | none =>
      cases rest with
      | nil => exact ⟨fun _ here => by contradiction, fun _ listed => by contradiction, .nil⟩
      | cons id rest =>
          exact first id rest (.inl (plain id List.mem_cons_self))
            fun x listed => plain x (List.mem_cons_of_mem _ listed)

variable (host context) in
theorem built_grows (state : PacketNetworkState) (parsed : ParsedPacket) (senderInfo : Option Text)
    (time : Time) : Grows state (buildCanonicalPathForPacket host context state parsed senderInfo time).1 :=
  (enterHead_grows state time _).trans (enterHops_grows time _ _ _)

variable (host context) in
theorem built_known (self : Present state selfId) (parsed : ParsedPacket) (senderInfo : Option Text)
    (time : Time) :
    let built := buildCanonicalPathForPacket host context state parsed senderInfo time
    (∀ id ∈ built.2, Known built.1 time id) ∧ Shaped built.2 := by
  intro built
  let head := enterHead host context state time (headOf context parsed senderInfo)
  let hops := enterHops host context time head.2 head.1 parsed.pathBytes
  have self' : Present head.1 selfId := (enterHead_grows state time _).present self
  have grows : Grows head.1 hops.1 := enterHops_grows time _ _ _
  let last : List Id := if endsAtSelf context parsed (head.2.toList ++ hops.2) then [selfId] else []
  have path : built.2 = dedupeConsecutive (head.2.toList ++ (hops.2 ++ last)) := by
    change dedupeConsecutive (if endsAtSelf context parsed (head.2.toList ++ hops.2) then
      head.2.toList ++ hops.2 ++ [selfId] else head.2.toList ++ hops.2) = _
    unfold last
    split <;> simp
  have self_last : ∀ id ∈ last, id = selfId := by
    intro id listed
    unfold last at listed
    split at listed
    · exact List.mem_singleton.mp listed
    · contradiction
  rw [path]
  constructor
  · intro id listed
    have member := (List.destutter_sublist (· ≠ ·) _).subset listed
    simp only [List.mem_append, Option.mem_toList] at member
    rcases member with here | hop | own
    · exact grows.known (enterHead_known self here).1
    · exact (enterHops_known self' _ id hop).1
    · rw [self_last id own]
      exact ⟨grows.present self', fun other => absurd rfl other⟩
  · refine shaped_dedupe head.2 (fun id here => (enterHead_known self here).2) fun id listed => ?_
    rcases List.mem_append.mp listed with hop | own
    · exact (enterHops_known self' _ id hop).2
    · exact self_last id own ▸ self_plain

theorem mem_adjacent_cons {x y : Id} {rest : List Id} :
    pair ∈ adjacent (x :: y :: rest) ↔ pair = (x, y) ∨ pair ∈ adjacent (y :: rest) := by
  rw [adjacent, List.tail_cons, List.zip_cons_cons, List.mem_cons]
  rfl

/-- Nodes that follow each other are different, and their link has a key of its own. -/
theorem Shaped.fits (shaped : Shaped path) (listed : pair ∈ adjacent path) :
    Fits pair.1 pair.2 ∧ pair.1 ≠ pair.2 ∧ pair.1 ∈ path ∧ pair.2 ∈ path := by
  have plain_rest (x : Id) (rest : List Id) (plain : ∀ id ∈ x :: rest, Plain id)
      (chain : (x :: rest).IsChain (· ≠ ·)) : ∀ pair ∈ adjacent (x :: rest),
        Fits pair.1 pair.2 ∧ pair.1 ≠ pair.2 ∧ pair.1 ∈ x :: rest ∧ pair.2 ∈ x :: rest := by
    induction rest generalizing x with
    | nil =>
        intro pair listed
        contradiction
    | cons y rest ih =>
        intro pair listed
        rcases mem_adjacent_cons.mp listed with rfl | later
        · exact ⟨.inl ⟨plain x List.mem_cons_self, .inl (plain y (List.mem_cons_of_mem _ List.mem_cons_self))⟩,
            (List.isChain_cons_cons.mp chain).1, List.mem_cons_self,
            List.mem_cons_of_mem _ List.mem_cons_self⟩
        · obtain ⟨fits, distinct, left, right⟩ := ih y
            (fun id listed => plain id (List.mem_cons_of_mem _ listed))
            (List.isChain_cons_cons.mp chain).2 pair later
          exact ⟨fits, distinct, List.mem_cons_of_mem _ left, List.mem_cons_of_mem _ right⟩
  cases path with
  | nil => contradiction
  | cons x rest =>
      cases rest with
      | nil => contradiction
      | cons y rest =>
          rcases mem_adjacent_cons.mp listed with rfl | later
          · exact ⟨.inr ⟨shaped.head x rfl, shaped.tail y List.mem_cons_self⟩,
              (List.isChain_cons_cons.mp shaped.chain).1, List.mem_cons_self,
              List.mem_cons_of_mem _ List.mem_cons_self⟩
          · obtain ⟨fits, distinct, left, right⟩ := plain_rest y rest shaped.tail
              (List.isChain_cons_cons.mp shaped.chain).2 pair later
            exact ⟨fits, distinct, List.mem_cons_of_mem _ left, List.mem_cons_of_mem _ right⟩

end Path

section Runs
variable {host : Host} {context : PacketNetworkContext} {id : Id}

/-- The links are kept under their keys, join nodes that were active when they were, and make the
neighbours. -/
structure Tied (state : PacketNetworkState) : Prop where
  kept : Kept linkKey state.links
  mirrors : Mirrors state.links state.neighborIds
  ends : ∀ k link, state.links.get? k = some link →
    Known state link.lastActivity link.sourceId ∧ Known state link.lastActivity link.targetId

structure Sound (state : PacketNetworkState) : Prop where
  self : Present state selfId
  tied : Tied state
  observed : ∀ observation ∈ state.observations, 2 ≤ observation.nodes.length ∧ Shaped observation.nodes ∧
    (∀ id ∈ observation.nodes, Known state observation.activityAtMs id) ∧
    ∀ pair ∈ adjacent observation.nodes, Linked state.links pair.1 pair.2

theorem Sound.grows (sound : Sound before) (grows : Grows before after) : Sound after where
  self := grows.present sound.self
  tied :=
    { kept := grows.links ▸ sound.tied.kept
      mirrors := by
        rw [grows.links, grows.neighborIds]
        exact sound.tied.mirrors
      ends := by
        intro k link found
        rw [grows.links] at found
        exact (sound.tied.ends k link found).imp grows.known grows.known }
  observed := by
    intro observation listed
    rw [grows.observations] at listed
    obtain ⟨long, shaped, known, linked⟩ := sound.observed observation listed
    rw [grows.links]
    exact ⟨long, shaped, fun id member => grows.known (known id member), linked⟩

theorem known_of_nodes (same : after.nodes = before.nodes) : Known after time id ↔ Known before time id := by
  unfold Known Present Active
  rw [same]

theorem Known.later (known : Known state time id) (known' : Known state time' id) :
    Known state (max time time') id := by
  refine ⟨known.1, fun other => ?_⟩
  obtain ⟨node, found, recent⟩ := known.2 other
  obtain ⟨node', found', recent'⟩ := known'.2 other
  cases found.symm.trans found'
  exact ⟨node, found, max_le recent recent'⟩

theorem linkNodes_nodes (time : Time) (state : PacketNetworkState) (pair : Id × Id) :
    (linkNodes time state pair).nodes = state.nodes := by
  unfold linkNodes
  split <;> rfl

theorem linkNodes_observations (time : Time) (state : PacketNetworkState) (pair : Id × Id) :
    (linkNodes time state pair).observations = state.observations := by
  unfold linkNodes
  split <;> rfl

theorem linked_linkNodes (tied : Tied state) (fits : Fits pair.1 pair.2) (distinct : pair.1 ≠ pair.2)
    (time : Time) : Linked (linkNodes time state pair).links x y ↔
      Linked state.links x y ∨ SamePair pair.1 pair.2 x y := by
  rw [linkNodes, if_neg distinct]
  exact linked_addLink tied.kept fits time

theorem Tied.link (tied : Tied state) (fits : Fits pair.1 pair.2) (distinct : pair.1 ≠ pair.2)
    (known : Known state time pair.1) (known' : Known state time pair.2) :
    Tied (linkNodes time state pair) := by
  have nodes : ∀ {t id}, Known state t id → Known (linkNodes time state pair) t id := fun {t id} =>
    (known_of_nodes (linkNodes_nodes time state pair)).mpr
  have links : (linkNodes time state pair).links = addLink linkKey.key state.links pair.1 pair.2 time := by
    rw [linkNodes, if_neg distinct]
    rfl
  refine ⟨?_, ?_, fun k link found => ?_⟩
  · rw [links]
    exact kept_addLink tied.kept distinct fits time
  · rw [linkNodes, if_neg distinct]
    exact mirrors_add tied.kept tied.mirrors fits time
  · rw [links, get?_addLink] at found
    split at found
    · rename_i under
      cases before : state.links.get? k with
      | none =>
          rw [before] at found
          cases found
          exact ⟨nodes known, nodes known'⟩
      | some old =>
          rw [before] at found
          cases found
          obtain ⟨left, right⟩ := tied.ends k old before
          obtain ⟨under', -, fits'⟩ := tied.kept k old before
          -- The link that is there has the ends of the pair, in one order or the other.
          rcases linkKey.inj _ _ _ _ fits fits' (under.symm.trans under') with ⟨first, second⟩ | ⟨first, second⟩
          · exact ⟨nodes (left.later (first ▸ known)), nodes (right.later (second ▸ known'))⟩
          · exact ⟨nodes (left.later (second ▸ known')), nodes (right.later (first ▸ known))⟩
    · exact (tied.ends k link found).imp nodes nodes

/-- Links for all pairs of a path are added, and no other. -/
theorem link_all {ends : List (Id × Id)} (tied : Tied state) (fits : ∀ pair ∈ ends, (Fits pair.1 pair.2 ∧ pair.1 ≠ pair.2) ∧
    Known state time pair.1 ∧ Known state time pair.2) :
    Tied (ends.foldl (linkNodes time) state) ∧
    (ends.foldl (linkNodes time) state).nodes = state.nodes ∧
    (ends.foldl (linkNodes time) state).observations = state.observations ∧
    ∀ x y, Linked (ends.foldl (linkNodes time) state).links x y ↔
      Linked state.links x y ∨ ∃ pair ∈ ends, SamePair pair.1 pair.2 x y := by
  induction ends generalizing state with
  | nil => exact ⟨tied, rfl, rfl, fun x y => by simp⟩
  | cons pair rest ih =>
      obtain ⟨⟨fit, distinct⟩, known, known'⟩ := fits pair List.mem_cons_self
      have nodes := linkNodes_nodes time state pair
      obtain ⟨tied', nodes', observations, linked⟩ := ih (tied.link fit distinct known known') (by
        intro other member
        obtain ⟨shape, left, right⟩ := fits other (List.mem_cons_of_mem _ member)
        exact ⟨shape, (known_of_nodes nodes).mpr left, (known_of_nodes nodes).mpr right⟩)
      refine ⟨tied', nodes'.trans nodes,
        observations.trans (linkNodes_observations time state pair), fun x y => ?_⟩
      rw [List.foldl_cons, linked, linked_linkNodes tied fit distinct, List.exists_mem_cons_iff, or_assoc]

/-- The reason of its last activity is all that changes in a node. -/
theorem setReason_map {α : Type} (field : PacketNetworkNode → α)
    (blind : ∀ node reason, field { node with lastActivityReason := reason } = field node) (label : Text)
    (nodes : Dict Id PacketNetworkNode) (step : Id × Nat) (id : Id) :
    ((setReason label nodes step).get? id).map field = (nodes.get? id).map field := by
  unfold setReason
  split
  · rename_i node found
    split
    · rfl
    · rw [Dict.get?_set]
      split
      · rename_i same
        rw [same, found, Option.map_some, Option.map_some, blind]
      · rfl
  · rfl

theorem setReasons_map {α : Type} (field : PacketNetworkNode → α)
    (blind : ∀ node reason, field { node with lastActivityReason := reason } = field node) (label : Text)
    (nodes : Dict Id PacketNetworkNode) (steps : List (Id × Nat)) (id : Id) :
    ((steps.foldl (setReason label) nodes).get? id).map field = (nodes.get? id).map field := by
  induction steps generalizing nodes with
  | nil => rfl
  | cons step rest ih => rw [List.foldl_cons, ih, setReason_map field blind]

theorem setReasons_activity (label : Text) (nodes : Dict Id PacketNetworkNode) (steps : List (Id × Nat))
    (id : Id) : ((steps.foldl (setReason label) nodes).get? id).map (·.lastActivity) =
      (nodes.get? id).map (·.lastActivity) :=
  setReasons_map _ (fun _ _ => rfl) label nodes steps id

theorem present_of_activity {nodes nodes' : Dict Id PacketNetworkNode}
    (same : (nodes'.get? id).map (·.lastActivity) = (nodes.get? id).map (·.lastActivity)) :
    (nodes'.get? id).isSome = (nodes.get? id).isSome := by
  rw [← Option.isSome_map, same, Option.isSome_map]

theorem setReasons_grows (label : Text) (state : PacketNetworkState) (steps : List (Id × Nat)) :
    Grows state { state with nodes := steps.foldl (setReason label) state.nodes } := by
  refine ⟨rfl, rfl, rfl, ?_⟩
  rintro id time ⟨node, found, recent⟩
  have same := setReasons_activity label state.nodes steps id
  rw [found, Option.map_some, Option.map_eq_some_iff] at same
  obtain ⟨marked, here, activity⟩ := same
  exact ⟨marked, here, activity ▸ recent⟩

variable (host context) in
/-- What hearing a packet adds: the nodes that were entered, and the links of a path of two nodes
and more. -/
theorem ingest_spec (sound : Sound state) (packet : Packet) :
    let built := buildCanonicalPathForPacket host context state packet.parsed packet.senderInfo
      packet.activityAtMs
    let after := (ingestPacketIntoPacketNetwork host context state packet).1
    Sound after ∧ (∀ id, Present after id ↔ Present built.1 id) ∧
      ∀ x y, Linked after.links x y ↔ Linked state.links x y ∨
        2 ≤ built.2.length ∧ ∃ pair ∈ adjacent built.2, SamePair pair.1 pair.2 x y := by
  intro built after
  have grows : Grows state built.1 := built_grows host context state _ _ _
  obtain ⟨known, shaped⟩ := built_known host context sound.self packet.parsed packet.senderInfo
    packet.activityAtMs
  have sound_built := sound.grows grows
  by_cases short : built.2.length < 2
  · have same : after = built.1 := by
      change (ingestPacketIntoPacketNetwork host context state packet).1 = built.1
      unfold ingestPacketIntoPacketNetwork
      rw [if_pos short]
    rw [same]
    refine ⟨sound_built, fun _ => Iff.rfl, fun x y => ?_⟩
    rw [grows.links]
    exact (or_iff_left fun both => absurd both.1 (by omega)).symm
  · let label := getPacketLabel packet.parsed.payloadType
    let marked : PacketNetworkState :=
      { built.1 with nodes := built.2.zipIdx.foldl (setReason label) built.1.nodes }
    let observed : PacketNetworkState :=
      { marked with observations := built.1.observations ++ [⟨packet.activityAtMs, built.2⟩] }
    have same : after = (adjacent built.2).foldl (linkNodes packet.activityAtMs) observed := by
      change (ingestPacketIntoPacketNetwork host context state packet).1 = _
      unfold ingestPacketIntoPacketNetwork
      rw [if_neg short]
    have marks : Grows built.1 marked := setReasons_grows label built.1 built.2.zipIdx
    have sound_marked := sound_built.grows marks
    have tied : Tied observed := ⟨sound_marked.tied.kept, sound_marked.tied.mirrors, sound_marked.tied.ends⟩
    have here : ∀ id ∈ built.2, Known observed packet.activityAtMs id := fun id listed =>
      marks.known (known id listed)
    have fits : ∀ pair ∈ adjacent built.2, (Fits pair.1 pair.2 ∧ pair.1 ≠ pair.2) ∧
        Known observed packet.activityAtMs pair.1 ∧ Known observed packet.activityAtMs pair.2 := by
      intro pair listed
      obtain ⟨fits, distinct, left, right⟩ := shaped.fits listed
      exact ⟨⟨fits, distinct⟩, here _ left, here _ right⟩
    obtain ⟨tied', nodes, observations, linked⟩ := link_all tied fits
    rw [← same] at tied' nodes observations linked
    have kept : ∀ {t id}, Known observed t id → Known after t id := fun {t id} =>
      (known_of_nodes nodes).mpr
    have links : observed.links = state.links := grows.links
    refine ⟨⟨(kept ⟨sound_marked.self, fun other => absurd rfl other⟩ : Known after 0 selfId).1, tied', ?_⟩,
      fun id => ?_, fun x y => ?_⟩
    · intro observation listed
      rw [observations] at listed
      rcases List.mem_append.mp listed with old | new
      · obtain ⟨long, shaped', known', linked'⟩ := sound_marked.observed observation old
        exact ⟨long, shaped', fun id member => kept (known' id member),
          fun pair member => (linked _ _).mpr (.inl (linked' pair member))⟩
      · cases List.mem_singleton.mp new
        exact ⟨Nat.le_of_not_lt short, shaped, fun id member => kept (here id member),
          fun pair member => (linked _ _).mpr (.inr ⟨pair, member, .inl ⟨rfl, rfl⟩⟩)⟩
    · rw [Present, nodes, Present]
      exact iff_of_eq (congrArg (· = true) (present_of_activity (setReasons_activity label _ _ id)))
    · rw [linked, links]
      exact or_congr_right (iff_and_self.mpr fun _ => Nat.le_of_not_lt short)

theorem known_kept (sub : ∀ id node, after.nodes.get? id = some node → state.nodes.get? id = some node)
    (known : Known state time id) (there : Present after id) : Known after time id := by
  refine ⟨there, fun other => ?_⟩
  obtain ⟨node, found⟩ := Option.isSome_iff_exists.mp there
  obtain ⟨before, found', recent⟩ := known.2 other
  cases (sub id node found).symm.trans found'
  exact ⟨node, found, recent⟩

theorem present_pruned (cutoff : Time) :
    Present (prunePacketNetworkState state cutoff) id ↔
      Present state id ∧ (id = selfId ∨ Active state id cutoff) := by
  unfold prunePacketNetworkState
  split
  · rename_i stale
    simp only [Present, Option.isSome_iff_exists, Dict.get?_filter, isStale, Active]
    constructor
    · rintro ⟨node, found, fresh⟩
      refine ⟨⟨node, found⟩, ?_⟩
      by_cases own : id = selfId
      · exact .inl own
      · exact .inr ⟨node, found, by simpa [own] using fresh⟩
    · rintro ⟨⟨node, found⟩, rfl | ⟨node', found', recent⟩⟩
      · exact ⟨node, found, by simp⟩
      · exact ⟨node', found', by simp [recent]⟩
  · rename_i fresh
    refine ⟨fun present => ⟨present, ?_⟩, And.left⟩
    obtain ⟨node, found⟩ := Option.isSome_iff_exists.mp present
    by_cases own : id = selfId
    · exact .inl own
    · refine .inr ⟨node, found, ?_⟩
      by_contra old
      refine fresh (List.any_eq_true.mpr ⟨(id, node), (Dict.mem_iff_get? _).mpr found, ?_⟩)
      simpa [isStale, own] using old

/-- A node of a path that was active at the cutoff or later is not pruned. -/
theorem Known.spared (known : Known state time id) (recent : cutoff ≤ time) :
    Present (prunePacketNetworkState state cutoff) id := by
  refine (present_pruned cutoff).mpr ⟨known.1, ?_⟩
  by_cases own : id = selfId
  · exact .inl own
  · obtain ⟨node, found, later⟩ := known.2 own
    exact .inr ⟨node, found, recent.trans later⟩

theorem nodes_pruned (cutoff : Time) (found : (prunePacketNetworkState state cutoff).nodes.get? id = some node) :
    state.nodes.get? id = some node := by
  unfold prunePacketNetworkState at found
  split at found
  · exact ((Dict.get?_filter _ _).mp found).1
  · exact found

/-- The links that are left are those whose ends are. -/
theorem links_pruned (sound : Sound state) (cutoff : Time) :
    (prunePacketNetworkState state cutoff).links.get? k = some link ↔ state.links.get? k = some link ∧
      Present (prunePacketNetworkState state cutoff) link.sourceId ∧
      Present (prunePacketNetworkState state cutoff) link.targetId := by
  unfold prunePacketNetworkState
  split
  · rw [Dict.get?_filter, Bool.and_eq_true]
    rfl
  · refine ⟨fun found => ⟨found, ?_⟩, And.left⟩
    exact (sound.tied.ends k link found).imp And.left And.left

theorem observations_pruned (sound : Sound state) (cutoff : Time) :
    observation ∈ (prunePacketNetworkState state cutoff).observations ↔
      observation ∈ state.observations ∧
      ∀ id ∈ observation.nodes, Present (prunePacketNetworkState state cutoff) id := by
  unfold prunePacketNetworkState
  split
  · rw [List.mem_filter, List.all_eq_true]
    rfl
  · refine ⟨fun listed => ⟨listed, fun id member => ?_⟩, And.left⟩
    exact ((sound.observed observation listed).2.2.1 id member).1

theorem prune_sound (sound : Sound state) (cutoff : Time) : Sound (prunePacketNetworkState state cutoff) := by
  have self := (present_pruned cutoff).mpr ⟨sound.self, .inl rfl⟩
  have left {time : Time} {id : Id} (known : Known state time id)
      (there : Present (prunePacketNetworkState state cutoff) id) :
      Known (prunePacketNetworkState state cutoff) time id :=
    known_kept (fun _ _ found => nodes_pruned cutoff found) known there
  refine ⟨self, ⟨fun k link found => ?_, ?_, fun k link found => ?_⟩, fun observation listed => ?_⟩
  · exact sound.tied.kept k link ((links_pruned sound cutoff).mp found).1
  · unfold prunePacketNetworkState
    split
    · exact mirrors_rebuild _
    · exact sound.tied.mirrors
  · obtain ⟨before, source, target⟩ := (links_pruned sound cutoff).mp found
    obtain ⟨known, known'⟩ := sound.tied.ends k link before
    exact ⟨left known source, left known' target⟩
  · obtain ⟨before, there⟩ := (observations_pruned sound cutoff).mp listed
    obtain ⟨long, shaped, known, linked⟩ := sound.observed observation before
    refine ⟨long, shaped, fun id member => left (known id member) (there id member), fun pair member => ?_⟩
    obtain ⟨k, link, found, joins⟩ := linked pair member
    have first := there pair.1 (List.of_mem_zip (show (pair.1, pair.2) ∈ _ from member)).1
    have second := there pair.2 (List.mem_of_mem_tail
      (List.of_mem_zip (show (pair.1, pair.2) ∈ _ from member)).2)
    refine ⟨k, link, (links_pruned sound cutoff).mpr ⟨found, ?_⟩, joins⟩
    rcases joins with ⟨source, target⟩ | ⟨source, target⟩
    · exact ⟨source ▸ first, target ▸ second⟩
    · exact ⟨target ▸ second, source ▸ first⟩

/-- A network of our own node only. -/
theorem lone_sound (node : PacketNetworkNode) : Sound
    { links := Dict.empty, neighborIds := Dict.empty, nodes := Dict.empty.set selfId node,
      observations := [], trafficPatterns := Dict.empty } := by
  refine ⟨?_, ⟨fun k link found => by contradiction, fun a b => ?_, fun k link found => by contradiction⟩,
    fun _ listed => by contradiction⟩
  · simp [Present]
  · refine ⟨fun near => by contradiction, ?_⟩
    rintro ⟨k, link, found, _⟩
    contradiction

theorem ensureSelf_grows (state : PacketNetworkState) (selfName : Text) (now : Time) :
    Grows state (ensureSelfNode state selfName now) := by
  have renamed (named : PacketNetworkNode) (later : ∀ node, state.nodes.get? selfId = some node →
      node.lastActivity ≤ named.lastActivity) :
      Grows state { state with nodes := state.nodes.set selfId named } := by
    refine ⟨rfl, rfl, rfl, ?_⟩
    rintro id time ⟨node, found, recent⟩
    by_cases own : id = selfId
    · subst own
      exact ⟨named, by rw [Dict.get?_set, if_pos rfl], recent.trans (later node found)⟩
    · exact ⟨node, by rw [Dict.get?_set, if_neg own, found], recent⟩
  unfold ensureSelfNode
  split
  · rename_i existing found
    refine renamed _ fun node same => ?_
    cases found.symm.trans same
    exact le_rfl
  · rename_i absent
    refine renamed _ fun node same => ?_
    rw [absent] at same
    contradiction

theorem step_sound (sound : Sound state) (event : Event) : Sound (step state event) := by
  cases event with
  | ingest host context packet => exact (ingest_spec host context sound packet).1
  | prune cutoff => exact prune_sound sound cutoff
  | ensureSelf selfName now => exact sound.grows (ensureSelf_grows state selfName now)
  | clear selfName now => exact lone_sound _

theorem run_snoc (selfName : Text) (now : Time) (events : List Event) (event : Event) :
    run selfName now (events ++ [event]) = step (run selfName now events) event := by
  rw [run, List.foldl_append]
  rfl

theorem sound_run (selfName : Text) (now : Time) (events : List Event) : Sound (run selfName now events) := by
  induction events using List.reverseRecOn with
  | nil => exact lone_sound _
  | append_singleton events event ih =>
      rw [run_snoc]
      exact step_sound ih event

/-- After every run our own node is there; each link is stored under the key of its ends, which are
two nodes that are there; the neighbours of a node are those that it is linked to; and the nodes of
an observation are there, each linked to the next. -/
theorem network_consistent (selfName : Text) (now : Time) (events : List Event) :
    let state := run selfName now events
    Present state selfId ∧
    (∀ k link, state.links.get? k = some link → k = buildLinkKey link.sourceId link.targetId ∧
      link.sourceId ≠ link.targetId ∧ Present state link.sourceId ∧ Present state link.targetId) ∧
    (∀ a b, b ∈ neighborsOf state.neighborIds a ↔
      ∃ k link, state.links.get? k = some link ∧ Joins link a b) ∧
    ∀ observation ∈ state.observations, 2 ≤ observation.nodes.length ∧
      (∀ id ∈ observation.nodes, Present state id) ∧
      ∀ pair ∈ adjacent observation.nodes, pair.2 ∈ neighborsOf state.neighborIds pair.1 := by
  intro state
  have sound : Sound state := sound_run selfName now events
  refine ⟨sound.self, fun k link found => ?_, sound.tied.mirrors, fun observation listed => ?_⟩
  · obtain ⟨under, distinct, _⟩ := sound.tied.kept k link found
    obtain ⟨source, target⟩ := sound.tied.ends k link found
    exact ⟨under, distinct, source.1, target.1⟩
  · obtain ⟨long, _, known, linked⟩ := sound.observed observation listed
    exact ⟨long, fun id member => (known id member).1,
      fun pair member => (sound.tied.mirrors _ _).mpr (linked pair member)⟩

/-- Pruning leaves our own node and those that were active since, and it loses no link and no
observation that is as recent. -/
theorem prune_loses_nothing_recent (selfName : Text) (now : Time) (events : List Event) (cutoff : Time) :
    let state := run selfName now events
    let pruned := prunePacketNetworkState state cutoff
    (∀ id, Present pruned id ↔ id = selfId ∨ Active state id cutoff) ∧
    (∀ k link, state.links.get? k = some link → cutoff ≤ link.lastActivity →
      pruned.links.get? k = some link) ∧
    ∀ observation ∈ state.observations, cutoff ≤ observation.activityAtMs →
      observation ∈ pruned.observations := by
  intro state pruned
  have sound : Sound state := sound_run selfName now events
  refine ⟨fun id => ?_, fun k link found recent => ?_, fun observation listed recent => ?_⟩
  · rw [present_pruned]
    refine ⟨And.right, fun left => ⟨?_, left⟩⟩
    rcases left with rfl | active
    · exact sound.self
    · exact active.present
  · obtain ⟨source, target⟩ := sound.tied.ends k link found
    exact (links_pruned sound cutoff).mpr
      ⟨found, source.spared recent, target.spared recent⟩
  · obtain ⟨_, _, known, _⟩ := sound.observed observation listed
    exact (observations_pruned sound cutoff).mpr
      ⟨listed, fun id member => (known id member).spared recent⟩

end Runs

section Prune

/-- The nodes that are left, and of the links and the observations those between them. -/
def restrict (state : PacketNetworkState) (nodes : Dict Id PacketNetworkNode) : PacketNetworkState :=
  let links := state.links.filter fun _ link =>
    (nodes.get? link.sourceId).isSome && (nodes.get? link.targetId).isSome
  { state with
    nodes
    links
    observations := state.observations.filter fun observation =>
      observation.nodes.all fun id => (nodes.get? id).isSome
    neighborIds := rebuild links }

def fresh (cutoff : Time) (nodes : Dict Id PacketNetworkNode) : Dict Id PacketNetworkNode :=
  nodes.filter fun id node => !isStale cutoff id node

def AnyStale (cutoff : Time) (nodes : Dict Id PacketNetworkNode) : Prop :=
  nodes.entries.any (fun entry => isStale cutoff entry.1 entry.2) = true

theorem prune_stale (stale : AnyStale cutoff state.nodes) :
    prunePacketNetworkState state cutoff = restrict state (fresh cutoff state.nodes) := if_pos stale

theorem prune_fresh (none : ¬ AnyStale cutoff state.nodes) : prunePacketNetworkState state cutoff = state :=
  if_neg none

theorem entries_inj {κ ν : Type} {d d' : Dict κ ν} (same : d.entries = d'.entries) : d = d' := by
  cases d
  cases d'
  cases same
  rfl

theorem fresh_eq_self (none : ¬ AnyStale cutoff nodes) : fresh cutoff nodes = nodes := by
  refine entries_inj (List.filter_eq_self.mpr fun entry listed => ?_)
  rw [Bool.not_eq_true']
  by_contra stale
  exact none (List.any_eq_true.mpr ⟨entry, listed, by simpa using stale⟩)

theorem isStale_max (first second : Time) (id : Id) (node : PacketNetworkNode) :
    isStale (max first second) id node = (isStale first id node || isStale second id node) := by
  simp [isStale, Bool.and_or_distrib_left]

theorem fresh_fresh (first second : Time) (nodes : Dict Id PacketNetworkNode) :
    fresh second (fresh first nodes) = fresh (max first second) nodes := by
  refine entries_inj ?_
  simp only [fresh, Dict.filter, List.filter_filter, isStale_max, Bool.not_or]
  exact List.filter_congr fun entry _ => Bool.and_comm _ _

theorem anyStale_max : AnyStale (max first second) nodes ↔
    AnyStale first nodes ∨ AnyStale second (fresh first nodes) := by
  simp only [AnyStale, fresh, Dict.filter, List.any_eq_true, List.mem_filter, isStale_max, Bool.or_eq_true,
    Bool.not_eq_true']
  constructor
  · rintro ⟨entry, listed, stale⟩
    by_cases before : isStale first entry.1 entry.2 = true
    · exact .inl ⟨entry, listed, before⟩
    · exact .inr ⟨entry, ⟨listed, by simpa using before⟩, stale.resolve_left before⟩
  · rintro (⟨entry, listed, stale⟩ | ⟨entry, ⟨listed, _⟩, stale⟩)
    · exact ⟨entry, listed, .inl stale⟩
    · exact ⟨entry, listed, .inr stale⟩

/-- To restrict to fewer nodes is to do it at once. -/
theorem restrict_restrict (state : PacketNetworkState) {more fewer : Dict Id PacketNetworkNode}
    (sub : ∀ id, (fewer.get? id).isSome = true → (more.get? id).isSome = true) :
    restrict (restrict state more) fewer = restrict state fewer := by
  have links : (restrict (restrict state more) fewer).links = (restrict state fewer).links := by
    refine entries_inj ?_
    simp only [restrict, Dict.filter, List.filter_filter]
    refine List.filter_congr fun entry _ => ?_
    cases source : (fewer.get? entry.2.sourceId).isSome
    · simp
    · cases target : (fewer.get? entry.2.targetId).isSome
      · simp
      · simp [sub _ source, sub _ target]
  have observations :
      (restrict (restrict state more) fewer).observations = (restrict state fewer).observations := by
    simp only [restrict, List.filter_filter]
    refine List.filter_congr fun observation _ => ?_
    rw [Bool.and_eq_left_iff_imp]
    intro inside
    exact List.all_eq_true.mpr fun id member => sub id (List.all_eq_true.mp inside id member)
  have neighbors :
      (restrict (restrict state more) fewer).neighborIds = (restrict state fewer).neighborIds :=
    congrArg rebuild links
  have whole (s : PacketNetworkState) : s = ⟨s.links, s.neighborIds, s.nodes, s.observations, s.trafficPatterns⟩ :=
    rfl
  rw [whole (restrict (restrict state more) fewer), links, observations, neighbors]
  rfl

/-- To prune at two cutoffs, in one order or the other, is to prune at the later one. -/
theorem prune_twice (state : PacketNetworkState) (first second : Time) :
    prunePacketNetworkState (prunePacketNetworkState state first) second =
      prunePacketNetworkState state (max first second) := by
  by_cases stale : AnyStale first state.nodes
  · have both : AnyStale (max first second) state.nodes := anyStale_max.mpr (.inl stale)
    rw [prune_stale stale, prune_stale both, ← fresh_fresh]
    by_cases again : AnyStale second (fresh first state.nodes)
    · rw [prune_stale again]
      refine restrict_restrict state fun id left => ?_
      obtain ⟨node, found⟩ := Option.isSome_iff_exists.mp left
      have before : (fresh first state.nodes).get? id = some node := ((Dict.get?_filter _ _).mp found).1
      rw [before]
      rfl
    · rw [prune_fresh again, fresh_eq_self again]
  · rw [prune_fresh stale]
    have nodes := fresh_eq_self stale
    by_cases again : AnyStale second state.nodes
    · have both : AnyStale (max first second) state.nodes := anyStale_max.mpr (.inr (nodes.symm ▸ again))
      rw [prune_stale again, prune_stale both, ← fresh_fresh, nodes]
    · have neither : ¬ AnyStale (max first second) state.nodes := by
        rw [anyStale_max, nodes]
        exact not_or.mpr ⟨stale, again⟩
      rw [prune_fresh again, prune_fresh neither]

end Prune

section Union
variable (host : Host) {context : PacketNetworkContext} {id : Id} {α : Type}

/-- What is added and given back does not depend on what is there. -/
structure Adds (enter : PacketNetworkState → PacketNetworkState × α) (added : Id → Prop) (out : α) :
    Prop where
  present : ∀ state id, Present (enter state).1 id ↔ Present state id ∨ added id
  out : ∀ state, (enter state).2 = out

theorem present_addOrUpdateNode (patterns : TrafficPatterns) (time : Time) (update : NodeUpdate) :
    Present { state with trafficPatterns := patterns, nodes := addOrUpdateNode state.nodes time update } id ↔
      Present state id ∨ id = update.id := by
  by_cases same : id = update.id
  · subst same
    obtain ⟨node, here, _⟩ := addOrUpdateNode_here state.nodes time update
    simp [Present, here]
  · simp [Present, addOrUpdateNode_elsewhere state.nodes time same, same]

theorem enter_adds (time : Time) {resolved : PacketNetworkState → TrafficPatterns × Resolution}
    (same : ∀ state, (resolved state).2 = resolution) :
    ∃ added out, Adds (fun state => enter state time (resolved state)) added out := by
  cases resolution with
  | nothing =>
      exact ⟨fun _ => False, none, fun state id => by simp [enter, same, Present],
        fun state => by simp [enter, same]⟩
  | self =>
      exact ⟨fun _ => False, some selfId, fun state id => by simp [enter, same, Present],
        fun state => by simp [enter, same]⟩
  | node update =>
      refine ⟨fun id => id = update.id, if update.id = [] then none else some update.id,
        fun state id => ?_, fun state => by simp only [enter, same]⟩
      simp only [enter, same]
      exact present_addOrUpdateNode _ time update

/-- While ambiguous repeaters are not split, the traffic heard before has no part in a resolution. -/
theorem resolve_unsplit (unsplit : context.splitAmbiguousByTraffic = false)
    (patterns patterns' : TrafficPatterns) :
    (resolve host context patterns source isRepeater showAmbiguous traffic).2 =
      (resolve host context patterns' source isRepeater showAmbiguous traffic).2 := by
  have never : (traffic.filter fun _ => context.splitAmbiguousByTraffic && isRepeater) = none := by
    cases traffic <;> simp [unsplit]
  cases source with
  | pubkey value => rfl
  | name value => rfl
  | hop value =>
      simp only [resolve, resolveHop, resolveAmbiguous, never]
      split
      · rfl
      · split
        · split
          · rfl
          · split <;> rfl
        · rfl

theorem resolveNode_adds (unsplit : context.splitAmbiguousByTraffic = false) (time : Time)
    (source : Source) (isRepeater showAmbiguous : Bool) (traffic : Option TrafficContext) :
    ∃ added out, Adds (fun state => resolveNode host context state time source isRepeater showAmbiguous traffic)
      added out :=
  enter_adds time fun state => resolve_unsplit host unsplit state.trafficPatterns Dict.empty

theorem enterHead_adds (unsplit : context.splitAmbiguousByTraffic = false) (time : Time) (head : Head) :
    ∃ added out, Adds (fun state => enterHead host context state time head) added out := by
  cases head with
  | nothing => exact ⟨fun _ => False, none, fun state id => by simp [enterHead], fun state => rfl⟩
  | self => exact ⟨fun _ => False, some selfId, fun state id => by simp [enterHead], fun state => rfl⟩
  | source source showAmbiguous => exact resolveNode_adds host unsplit time source false showAmbiguous none

theorem enterHops_adds (unsplit : context.splitAmbiguousByTraffic = false) (time : Time)
    (source : Option Id) (hops : List Hex) :
    ∃ added out, Adds (fun state => enterHops host context time source state hops) added out := by
  induction hops with
  | nil => exact ⟨fun _ => False, [], fun state id => by simp [enterHops], fun state => rfl⟩
  | cons hop rest ih =>
      obtain ⟨added, out, first⟩ := resolveNode_adds host unsplit time (.hop hop) true true
        (some ⟨source, truthy rest.head?⟩)
      obtain ⟨added', out', following⟩ := ih
      refine ⟨fun id => added id ∨ added' id, out.toList ++ out', fun state id => ?_, fun state => ?_⟩
      · rw [← or_assoc, ← first.present]
        exact following.present _ id
      · change (resolveNode host context state time (.hop hop) true true _).2.toList ++ _ = _
        rw [first.out, following.out]

theorem built_adds (unsplit : context.splitAmbiguousByTraffic = false) (parsed : ParsedPacket)
    (senderInfo : Option Text) (time : Time) :
    ∃ added out, Adds (fun state => buildCanonicalPathForPacket host context state parsed senderInfo time)
      added out := by
  obtain ⟨added, head, first⟩ := enterHead_adds host unsplit time (headOf context parsed senderInfo)
  obtain ⟨added', hops, following⟩ := enterHops_adds host unsplit time head parsed.pathBytes
  refine ⟨fun id => added id ∨ added' id,
    dedupeConsecutive (if endsAtSelf context parsed (head.toList ++ hops) then head.toList ++ hops ++ [selfId]
      else head.toList ++ hops), fun state id => ?_, fun state => ?_⟩
  · rw [← or_assoc, ← first.present, ← following.present]
    change Present (enterHops host context time (enterHead host context state time _).2 _ _).1 id ↔ _
    rw [first.out]
  · simp only [buildCanonicalPathForPacket, first.out, following.out]

/-- A packet is heard while ambiguous repeaters are not split. -/
def Event.Hears : Event → Prop
  | .ingest _ context _ => context.splitAmbiguousByTraffic = false
  | .prune _ | .ensureSelf _ _ | .clear _ _ => False

theorem step_adds {event : Event} (hears : event.Hears) : ∃ (added : Id → Prop) (joined : Id → Id → Prop),
    ∀ state, Sound state → (∀ id, Present (step state event) id ↔ Present state id ∨ added id) ∧
      ∀ a b, Linked (step state event).links a b ↔ Linked state.links a b ∨ joined a b := by
  cases event with
  | ingest host context packet =>
      obtain ⟨added, path, adds⟩ := built_adds host hears packet.parsed packet.senderInfo
        packet.activityAtMs
      refine ⟨added, fun a b => 2 ≤ path.length ∧ ∃ pair ∈ adjacent path, SamePair pair.1 pair.2 a b,
        fun state sound => ?_⟩
      obtain ⟨-, present, linked⟩ := ingest_spec host context sound packet
      simp only [adds.out, adds.present] at present linked
      exact ⟨present, linked⟩
  | prune cutoff => exact hears.elim
  | ensureSelf selfName now => exact hears.elim
  | clear selfName now => exact hears.elim

/-- The graph of a run is the union of the graphs of its packets, each heard alone. -/
theorem run_union (selfName : Text) (now : Time) {events : List Event} (hears : ∀ e ∈ events, e.Hears) :
    (∀ id, Present (run selfName now events) id ↔
      id = selfId ∨ ∃ e ∈ events, Present (run selfName now [e]) id) ∧
    ∀ a b, Linked (run selfName now events).links a b ↔
      ∃ e ∈ events, Linked (run selfName now [e]).links a b := by
  have empty_present (id : Id) : Present (run selfName now []) id ↔ id = selfId := by
    simp [run, createPacketNetworkState, Present]
  have empty_linked (a b : Id) : ¬ Linked (run selfName now []).links a b := by
    rintro ⟨k, link, found, _⟩
    contradiction
  induction events using List.reverseRecOn with
  | nil => exact ⟨fun id => by simp [empty_present], fun a b => by simp [empty_linked]⟩
  | append_singleton events event ih =>
      obtain ⟨present, linked⟩ := ih fun e member => hears e (List.mem_append_left _ member)
      obtain ⟨added, joined, adds⟩ := step_adds (hears event (by simp))
      obtain ⟨present', linked'⟩ := adds _ (sound_run selfName now events)
      obtain ⟨alone, alone'⟩ := adds _ (sound_run selfName now [])
      have one : run selfName now [event] = step (run selfName now []) event := rfl
      refine ⟨fun id => ?_, fun a b => ?_⟩
      · rw [run_snoc, present', present]
        simp only [List.mem_append, List.mem_singleton, or_and_right, exists_or, exists_eq_left, one, alone,
          empty_present]
        constructor
        · rintro ((own | before) | new)
          · exact .inl own
          · exact .inr (.inl before)
          · exact .inr (.inr (.inr new))
        · rintro (own | before | own | new)
          · exact .inl (.inl own)
          · exact .inl (.inr before)
          · exact .inl (.inl own)
          · exact .inr new
      · rw [run_snoc, linked', linked]
        simp only [List.mem_append, List.mem_singleton, or_and_right, exists_or, exists_eq_left, one, alone',
          empty_linked, false_or]

/-- The same packets give the same nodes, links and neighbours in any order, and these are those of
the packets heard alone. -/
theorem graph_any_order (selfName : Text) (now : Time) {events other : List Event}
    (hears : ∀ e ∈ events, e.Hears) (same : ∀ e, e ∈ other ↔ e ∈ events) :
    (∀ id, (Present (run selfName now other) id ↔ Present (run selfName now events) id) ∧
      (Present (run selfName now events) id ↔
        id = selfId ∨ ∃ e ∈ events, Present (run selfName now [e]) id)) ∧
    (∀ a b, (Linked (run selfName now other).links a b ↔ Linked (run selfName now events).links a b) ∧
      (Linked (run selfName now events).links a b ↔
        ∃ e ∈ events, Linked (run selfName now [e]).links a b)) ∧
    ∀ a b, (b ∈ neighborsOf (run selfName now other).neighborIds a ↔
        b ∈ neighborsOf (run selfName now events).neighborIds a) ∧
      (b ∈ neighborsOf (run selfName now events).neighborIds a ↔
        ∃ e ∈ events, b ∈ neighborsOf (run selfName now [e]).neighborIds a) := by
  obtain ⟨present, linked⟩ := run_union selfName now hears
  obtain ⟨present', linked'⟩ := run_union selfName now fun e member => hears e ((same e).mp member)
  have mirrors (list : List Event) := (sound_run selfName now list).tied.mirrors
  have unordered (a b : Id) : Linked (run selfName now other).links a b ↔
      Linked (run selfName now events).links a b := by
    rw [linked, linked']
    simp only [same]
  refine ⟨fun id => ⟨?_, present id⟩, fun a b => ⟨unordered a b, linked a b⟩, fun a b => ⟨?_, ?_⟩⟩
  · simp only [present, present', same]
  · rw [mirrors, mirrors, unordered]
  · rw [mirrors, linked]
    simp only [mirrors _ a b]

/-- Nothing is known of any radio. -/
def unknownContext : PacketNetworkContext where
  advertPaths _ := []
  byPrefix12 _ := none
  byName _ := none
  byPrefix _ := []
  myPrefix := none
  splitAmbiguousByTraffic := false
  useAdvertPathHints := true

/-- A channel message that one repeater relayed. -/
def relayed (sender : Text) (hop : Hex) : Event :=
  .ingest ⟨0, fun _ _ => 0⟩ unknownContext
    ⟨⟨.groupText, [hop], none, none, none, some sender, none⟩, none, 1⟩

theorem relayed_hears :
    ∀ e ∈ [relayed ['A'] ⟨['0', 'a'], rfl⟩, relayed ['B'] ⟨['0', 'b'], rfl⟩], e.Hears := by
  intro e listed
  simp only [List.mem_cons, List.not_mem_nil, or_false] at listed
  rcases listed with rfl | rfl
  all_goals rfl

theorem relayed_linked :
    Linked (run [] 0 [relayed ['A'] ⟨['0', 'a'], rfl⟩]).links ['?', '0', 'a'] selfId :=
  ⟨['?', '0', 'a', '-', '>', 's', 'e', 'l', 'f'], ⟨['?', '0', 'a'], selfId, 1⟩, by decide +kernel,
    .inl ⟨rfl, rfl⟩⟩

theorem relayed_any_order :
    (∀ id, Present (run [] 0 [relayed ['B'] ⟨['0', 'b'], rfl⟩, relayed ['A'] ⟨['0', 'a'], rfl⟩,
        relayed ['B'] ⟨['0', 'b'], rfl⟩]) id ↔
      Present (run [] 0 [relayed ['A'] ⟨['0', 'a'], rfl⟩, relayed ['B'] ⟨['0', 'b'], rfl⟩]) id) ∧
    Linked (run [] 0 [relayed ['B'] ⟨['0', 'b'], rfl⟩, relayed ['A'] ⟨['0', 'a'], rfl⟩,
      relayed ['B'] ⟨['0', 'b'], rfl⟩]).links ['?', '0', 'a'] selfId ∧
    selfId ∈ neighborsOf (run [] 0 [relayed ['A'] ⟨['0', 'a'], rfl⟩,
      relayed ['B'] ⟨['0', 'b'], rfl⟩]).neighborIds ['?', '0', 'a'] := by
  have same : ∀ e, e ∈ [relayed ['B'] ⟨['0', 'b'], rfl⟩, relayed ['A'] ⟨['0', 'a'], rfl⟩,
      relayed ['B'] ⟨['0', 'b'], rfl⟩] ↔
        e ∈ [relayed ['A'] ⟨['0', 'a'], rfl⟩, relayed ['B'] ⟨['0', 'b'], rfl⟩] := by
    intro e
    simp only [List.mem_cons, List.not_mem_nil, or_false]
    tauto
  obtain ⟨present, linked, neighbors⟩ := graph_any_order [] 0 relayed_hears same
  refine ⟨fun id => (present id).1, ?_, ?_⟩
  · rw [(linked _ _).1, (linked _ _).2]
    exact ⟨_, List.mem_cons_self, relayed_linked⟩
  · rw [(neighbors _ _).2]
    refine ⟨_, List.mem_cons_self, ?_⟩
    rw [(sound_run [] 0 _).tied.mirrors]
    exact relayed_linked

end Union

section Snapshot
variable {neighbors : Dict Id (List Id)}

/-- No node is listed twice, and a node without neighbours is not listed. -/
def Sets (neighbors : Dict Id (List Id)) : Prop :=
  ∀ id ids, neighbors.get? id = some ids → ids ≠ [] ∧ ids.Nodup

theorem Sets.nodup (sets : Sets neighbors) (id : Id) : (neighborsOf neighbors id).Nodup := by
  unfold neighborsOf
  cases found : neighbors.get? id with
  | none => exact List.nodup_nil
  | some ids => exact (sets id ids found).2

theorem Sets.add (sets : Sets neighbors) (a b : Id) : Sets (addNeighbor neighbors a b) := by
  intro id ids found
  unfold addNeighbor at found
  rw [Dict.get?_set] at found
  split at found
  · cases found
    split
    · rename_i known
      exact ⟨List.ne_nil_of_mem known, sets.nodup a⟩
    · rename_i fresh
      refine ⟨by simp, ?_⟩
      exact List.nodup_append.mpr ⟨sets.nodup a, List.nodup_singleton b, fun x here y new same =>
        fresh (List.mem_singleton.mp new ▸ same ▸ here)⟩
  · exact sets id ids found

theorem Sets.upsert (sets : Sets neighbors) (a b : Id) : Sets (upsertNeighbor neighbors a b) :=
  (sets.add a b).add b a

theorem sets_rebuild (links : Dict Text (Link Id Time)) : Sets (rebuild links) := by
  have all (entries : List (Text × Link Id Time)) (neighbors : Dict Id (List Id))
      (sets : Sets neighbors) : Sets (entries.foldl (fun neighbors entry =>
        upsertNeighbor neighbors entry.2.sourceId entry.2.targetId) neighbors) := by
    induction entries generalizing neighbors with
    | nil => exact sets
    | cons entry rest ih => exact ih _ (sets.upsert _ _)
  exact all links.entries Dict.empty fun _ _ found => by contradiction

theorem sets_linked (time : Time) (ends : List (Id × Id)) {state : PacketNetworkState}
    (sets : Sets state.neighborIds) : Sets (ends.foldl (linkNodes time) state).neighborIds := by
  induction ends generalizing state with
  | nil => exact sets
  | cons pair rest ih =>
      refine ih ?_
      unfold linkNodes
      split
      · exact sets
      · exact sets.upsert _ _

theorem sets_run (selfName : Text) (now : Time) (events : List Event) :
    Sets (run selfName now events).neighborIds := by
  induction events using List.reverseRecOn with
  | nil => exact fun _ _ found => by contradiction
  | append_singleton events event ih =>
      rw [run_snoc]
      cases event with
      | ingest host context packet =>
          have grows := built_grows host context (run selfName now events) packet.parsed packet.senderInfo
            packet.activityAtMs
          have built : Sets (buildCanonicalPathForPacket host context (run selfName now events) packet.parsed
              packet.senderInfo packet.activityAtMs).1.neighborIds := grows.neighborIds ▸ ih
          unfold step ingestPacketIntoPacketNetwork
          dsimp only
          split
          · exact built
          · exact sets_linked _ _ built
      | prune cutoff =>
          unfold step prunePacketNetworkState
          dsimp only
          split
          · exact sets_rebuild _
          · exact ih
      | ensureSelf selfName now =>
          unfold step ensureSelfNode
          dsimp only
          split <;> exact ih
      | clear selfName now => exact fun _ _ found => by contradiction

/-- A set has one order that `sort` may leave it in. -/
theorem sort_unique {ids ids' : List Id} (nodup : ids.Nodup) (nodup' : ids'.Nodup)
    (same : ∀ id, id ∈ ids ↔ id ∈ ids') : ids.mergeSort Utf16.before = ids'.mergeSort Utf16.before := by
  have before_trans (a b c : Id) (first : Utf16.before a b = true) (second : Utf16.before b c = true) :
      Utf16.before a c = true :=
    decide_eq_true ((of_decide_eq_true first).trans (of_decide_eq_true second))
  have sorted (list : List Id) := List.pairwise_mergeSort before_trans
    (fun a b => by simpa using Utf16.before_total a b) list
  have perm : (ids.mergeSort Utf16.before).Perm (ids'.mergeSort Utf16.before) :=
    (List.mergeSort_perm _ _).trans (((List.perm_ext_iff_of_nodup nodup nodup').mpr same).trans
      (List.mergeSort_perm _ _).symm)
  exact perm.eq_of_pairwise (fun _ _ _ _ first second => Utf16.before_antisymm first second)
    (sorted ids) (sorted ids')

theorem snapshot_get (state : PacketNetworkState) (sets : Sets state.neighborIds) (id : Id) :
    (snapshotNeighborIds state).get? id = if neighborsOf state.neighborIds id = [] then none
      else some ((neighborsOf state.neighborIds id).mergeSort Utf16.before) := by
  rw [snapshotNeighborIds, Dict.get?_mapValues]
  unfold neighborsOf
  cases found : state.neighborIds.get? id with
  | none => simp
  | some ids => simp [(sets id ids found).1]

/-- The snapshot of the neighbours after some packets does not depend on their order. -/
theorem snapshot_order_free (selfName : Text) (now : Time) {events other : List Event}
    (hears : ∀ e ∈ events, e.Hears) (same : ∀ e, e ∈ other ↔ e ∈ events) (id : Id) :
    (snapshotNeighborIds (run selfName now other)).get? id =
      (snapshotNeighborIds (run selfName now events)).get? id := by
  have hears' : ∀ e ∈ other, e.Hears := fun e member => hears e ((same e).mp member)
  have mirrors (list : List Event) := (sound_run selfName now list).tied.mirrors
  have members (x : Id) : x ∈ neighborsOf (run selfName now other).neighborIds id ↔
      x ∈ neighborsOf (run selfName now events).neighborIds id := by
    rw [mirrors, mirrors, (run_union selfName now hears).2, (run_union selfName now hears').2]
    simp only [same]
  have sets := sets_run selfName now events
  have sets' := sets_run selfName now other
  rw [snapshot_get _ sets, snapshot_get _ sets', sort_unique (sets'.nodup id) (sets.nodup id) members]
  refine if_congr ?_ rfl rfl
  rw [List.eq_nil_iff_forall_not_mem, List.eq_nil_iff_forall_not_mem]
  exact forall_congr' fun x => not_congr (members x)

theorem relayed_snapshot :
    (snapshotNeighborIds (run [] 0 [relayed ['B'] ⟨['0', 'b'], rfl⟩, relayed ['A'] ⟨['0', 'a'], rfl⟩])).get?
        selfId =
      (snapshotNeighborIds (run [] 0 [relayed ['A'] ⟨['0', 'a'], rfl⟩, relayed ['B'] ⟨['0', 'b'], rfl⟩])).get?
        selfId := by
  have same : ∀ e, e ∈ [relayed ['B'] ⟨['0', 'b'], rfl⟩, relayed ['A'] ⟨['0', 'a'], rfl⟩] ↔
      e ∈ [relayed ['A'] ⟨['0', 'a'], rfl⟩, relayed ['B'] ⟨['0', 'b'], rfl⟩] := by
    intro e
    simp only [List.mem_cons, List.not_mem_nil, or_false]
    exact or_comm
  exact snapshot_order_free [] 0 relayed_hears same selfId

end Snapshot

section Context

theorem addMatches_get (contact : Contact) (byPrefix : Dict Text (List Contact)) (starts : List Text)
    (start : Text) : ((starts.foldl (addMatch contact) byPrefix).get? start).getD [] =
      (byPrefix.get? start).getD [] ++ List.replicate (starts.count start) contact := by
  induction starts generalizing byPrefix with
  | nil => simp
  | cons first rest ih =>
      rw [List.foldl_cons, ih, addMatch, Dict.get?_set]
      by_cases same : start = first
      · subst same
        rw [if_pos rfl, List.count_cons_self, Option.getD_some, List.append_assoc, List.replicate_succ]
        rfl
      · rw [if_neg same, List.count_cons_of_ne (Ne.symm same)]

/-- A key of twelve digits or more starts with each of its starts once. -/
theorem starts_count {digits start : Text} (long : 12 ≤ digits.length) :
    ((List.range' 1 12).map digits.take).count start =
      if (1 ≤ start.length ∧ start.length ≤ 12) ∧ start <+: digits then 1 else 0 := by
  have nodup : ((List.range' 1 12).map digits.take).Nodup := by
    refine (List.nodup_range' ..).map_on fun a left b right same => ?_
    rw [List.mem_range'_1] at left right
    have lengths := congrArg List.length same
    simp only [List.length_take] at lengths
    omega
  rw [nodup.count]
  refine if_congr ?_ rfl rfl
  rw [List.mem_map]
  constructor
  · rintro ⟨len, listed, rfl⟩
    rw [List.mem_range'_1] at listed
    rw [List.length_take]
    exact ⟨by omega, List.take_prefix _ _⟩
  · rintro ⟨bounds, start_of⟩
    refine ⟨start.length, List.mem_range'_1.mpr (by omega), ?_⟩
    exact (List.prefix_iff_eq_take.mp start_of).symm

/-- What is found in the index of some contacts. -/
structure Indexes (contacts : List Contact) (index : ContactIndex) : Prop where
  byPrefix12 : ∀ digits, index.byPrefix12.get? digits =
    (contacts.filter fun contact => prefix12 contact.publicKey = digits).getLast?
  byName : ∀ name, index.byName.get? name = contacts.find? fun contact => contact.name = some name ∧ name ≠ []
  byPrefix : ∀ start, (index.byPrefix.get? start).getD [] = contacts.filter fun contact =>
    (1 ≤ start.length ∧ start.length ≤ 12) ∧ start <+: prefix12 contact.publicKey

variable {contacts : List Contact} {index : ContactIndex}

theorem Indexes.add_byPrefix12 (indexes : Indexes contacts index) (contact : Contact) (digits : Text) :
    (indexContact index contact).byPrefix12.get? digits =
      ((contacts ++ [contact]).filter fun contact => prefix12 contact.publicKey = digits).getLast? := by
  simp only [indexContact, Dict.get?_set, indexes.byPrefix12, List.filter_append]
  by_cases same : digits = prefix12 contact.publicKey
  · simp [same]
  · simp [same, Ne.symm same]

theorem Indexes.add_byName (indexes : Indexes contacts index) (contact : Contact) (name : Text) :
    (indexContact index contact).byName.get? name =
      (contacts ++ [contact]).find? fun contact => contact.name = some name ∧ name ≠ [] := by
  rw [List.find?_append, ← indexes.byName]
  simp only [indexContact]
  cases own : contact.name.filter (· ≠ []) with
  | none =>
      have other : ¬ (contact.name = some name ∧ name ≠ []) := by
        rintro ⟨here, filled⟩
        simp [here, filled] at own
      simp [other]
  | some ownName =>
      obtain ⟨here, nonempty⟩ := Option.filter_eq_some_iff.mp own
      have filled : ownName ≠ [] := by simpa using nonempty
      by_cases same : name = ownName
      · subst same
        cases taken : index.byName.get? name with
        | none => simp [taken, here, filled]
        | some earlier => simp [taken]
      · have other : ¬ (contact.name = some name ∧ name ≠ []) := by
          rintro ⟨mine, -⟩
          exact same (Option.some.inj (mine.symm.trans here))
        dsimp only
        split
        · simp [other]
        · simp [same, other]

theorem Indexes.add_byPrefix (indexes : Indexes contacts index) {contact : Contact}
    (long : 12 ≤ contact.publicKey.chars.length) (start : Text) :
    ((indexContact index contact).byPrefix.get? start).getD [] = (contacts ++ [contact]).filter fun contact =>
      (1 ≤ start.length ∧ start.length ≤ 12) ∧ start <+: prefix12 contact.publicKey := by
  have enough : 12 ≤ (prefix12 contact.publicKey).length := by
    simp only [prefix12, Hex.lower, List.length_take, List.length_map]
    omega
  simp only [indexContact]
  rw [addMatches_get, indexes.byPrefix, List.filter_append, starts_count enough]
  by_cases matching : (1 ≤ start.length ∧ start.length ≤ 12) ∧ start <+: prefix12 contact.publicKey
  · rw [if_pos matching, List.filter_singleton, decide_eq_true matching]
    rfl
  · rw [if_neg matching, List.filter_singleton, decide_eq_false matching]
    rfl

theorem indexes_all (long : ∀ contact ∈ contacts, 12 ≤ contact.publicKey.chars.length) :
    Indexes contacts (contacts.foldl indexContact ⟨Dict.empty, Dict.empty, Dict.empty⟩) := by
  induction contacts using List.reverseRecOn with
  | nil => exact ⟨fun _ => rfl, fun _ => rfl, fun _ => rfl⟩
  | append_singleton contacts contact ih =>
      have indexes := ih fun other listed => long other (List.mem_append_left _ listed)
      rw [List.foldl_append, List.foldl_cons, List.foldl_nil]
      exact
        { byPrefix12 := indexes.add_byPrefix12 contact
          byName := indexes.add_byName contact
          byPrefix := indexes.add_byPrefix (long contact (by simp)) }

/-- A contact is found under the first twelve digits of its key unless a later one has the same, under
its name unless an earlier one has the same, and under each start of these digits, with all others that
have it, in their order. -/
theorem context_lookups (ownKey : Option Hex) (contacts : List Contact)
    (repeaterAdvertPaths : List (Hex × List AdvertPath)) (splitAmbiguousByTraffic useAdvertPathHints : Bool)
    (long : ∀ contact ∈ contacts, 12 ≤ contact.publicKey.chars.length) :
    let context := buildPacketNetworkContext ownKey contacts repeaterAdvertPaths splitAmbiguousByTraffic
      useAdvertPathHints
    (∀ digits, context.byPrefix12 digits =
      (contacts.filter fun contact => prefix12 contact.publicKey = digits).getLast?) ∧
    (∀ name, context.byName name = contacts.find? fun contact => contact.name = some name ∧ name ≠ []) ∧
    ∀ start, context.byPrefix start = contacts.filter fun contact =>
      (1 ≤ start.length ∧ start.length ≤ 12) ∧ start <+: prefix12 contact.publicKey :=
  ⟨(indexes_all long).byPrefix12, (indexes_all long).byName, (indexes_all long).byPrefix⟩

def elder : Contact := ⟨⟨List.replicate 12 'A' ++ ['0'], rfl⟩, some ['A', 'n', 'n'], 2, none⟩

def younger : Contact := ⟨⟨List.replicate 12 'a' ++ ['1'], rfl⟩, some ['A', 'n', 'n'], 1, some 7⟩

/-- Two contacts that share their name and the first digits of their keys. -/
theorem namesakes_found :
    let context := buildPacketNetworkContext none [elder, younger] [] false true
    context.byPrefix12 (List.replicate 12 'a') = some younger ∧
    context.byName ['A', 'n', 'n'] = some elder ∧ context.byName [] = none ∧
    context.byPrefix ['a', 'a'] = [elder, younger] ∧ context.byPrefix ['a', 'b'] = [] := by
  have long : ∀ contact ∈ [elder, younger], 12 ≤ contact.publicKey.chars.length := by decide
  obtain ⟨byPrefix12, byName, byPrefix⟩ := context_lookups none [elder, younger] [] false true long
  refine ⟨?_, ?_, ?_, ?_, ?_⟩
  · rw [byPrefix12]
    decide
  · rw [byName]
    decide
  · rw [byName]
    decide
  · rw [byPrefix]
    decide
  · rw [byPrefix]
    decide

end Context

end Meshloom.PacketNetwork
