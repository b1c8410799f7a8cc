import Meshloom.Bytes
import Meshloom.PyValue
import Meshloom.Text

/-! The nodes of the directory's map (`parse_directory_map_nodes` and `_collect_map_node_pages` of
`app/services/directory.py`): a page of the upstream is parsed to the nodes with a usable
position, and pages are fetched until the upstream's total says that there are no more. -/
namespace Meshloom.DirectoryMapNodes
open Text

abbrev Key := List Char

def nodesPageSize : Nat := 500
def nodesMaxPages : Nat := 40
def pubkeyHexLen : Nat := 64

inductive MapNodeRole where
  | repeater
  | room
  | client
  | companion
  | sensor
  | observer
  | unknown
  deriving DecidableEq

inductive MapNodeSource where
  | communityDb
  | corescope
  | local
  deriving DecidableEq

structure DirectoryMapNode where
  publicKey : Key
  name : List Char
  role : MapNodeRole
  lat : PyFloat
  lon : PyFloat
  source : MapNodeSource
  lastSeen : Option Int
  deriving DecidableEq

/-- `MAP_NODE_ROLES`. -/
def mapNodeRoles : List (String × MapNodeRole) :=
  [("repeater", .repeater), ("room", .room), ("client", .client), ("companion", .companion),
    ("sensor", .sensor), ("observer", .observer)]

def communityAliases : List String := ["community", "community_db", "communitydb"]

/-- `MAP_NODE_SOURCES`. -/
def mapNodeSources : List (String × MapNodeSource) :=
  [("community-db", .communityDb), ("corescope", .corescope), ("local", .local)]

/-- What `datetime.fromisoformat` reads: the seconds since 1970 that the clock of a zone shows, and how
far the zone is ahead of UTC; nothing for a time without a zone. -/
structure DateTime where
  clock : ℚ
  utcOffset : Option ℚ

/-- The least whole number that is rounded beyond the greatest double. -/
def floatBound : Nat := 2 ^ 1024 - 2 ^ 970

/-- What the language does with texts and numbers: `str.lower`, the double nearest to a whole number
(nothing for one that is too large) and to a number of seconds, `float` of a text and
`datetime.fromisoformat` (nothing for a `ValueError`). -/
structure Conversions where
  lower : LowerCase
  nearest : Int → Option ℚ
  overflows : ∀ n, nearest n = none ↔ floatBound ≤ n.natAbs
  round : ℚ → ℚ
  ofText : List Char → Option PyFloat
  fromIsoformat : List Char → Option DateTime

inductive PyError where
  | valueError
  | overflowError
  deriving DecidableEq

def isValidMapLocation (lat lon : PyFloat) : Bool :=
  !(lat.below (-90) || lat.above 90 || lon.below (-180) || lon.above 180) &&
    !(lat = .finite 0 && lon = .finite 0)

section Parse
variable (py : Conversions)

/-- `float(n)`. -/
def floatOf (n : Int) : Except PyError PyFloat :=
  match py.nearest n with
  | some x => .ok (.finite x)
  | none => .error .overflowError

/-- `int(x)`, which is cut towards zero. -/
def truncate (x : ℚ) : Int := x.num.tdiv x.den

def intOf : PyFloat → Except PyError Int
  | .finite x => .ok (truncate x)
  | .infinity _ => .error .overflowError
  | .nan => .error .valueError

def asFloat : PyValue → Except PyError (Option PyFloat)
  | .int n => do return some (← floatOf py n)
  | .float x => .ok (some x)
  | .string s => .ok (py.ofText (strip s))
  | _ => .ok none

def normalizeMapRole : PyValue → MapNodeRole
  | .string role => (mapNodeRoles.lookup (String.ofList (py.lower.apply (strip role)))).getD .unknown
  | _ => .unknown

def normalizeMapSource (default : MapNodeSource) : PyValue → MapNodeSource
  | .string source =>
    let raw := String.ofList (py.lower.apply (strip source))
    if raw ∈ communityAliases then .communityDb else (mapNodeSources.lookup raw).getD default
  | _ => default

abbrev Item := List (List Char × PyValue)

/-- `parsed if parsed > 0 else None`. -/
def positive (parsed : Int) : Option Int := if 0 < parsed then some parsed else none

/-- `text.replace("Z", "+00:00")`. -/
def replaceZulu (text : List Char) : List Char :=
  text.flatMap fun c => if c = 'Z' then "+00:00".toList else [c]

/-- `dt.timestamp()`, of UTC for a time without a zone. -/
def timestamp (dt : DateTime) : ℚ := py.round (dt.clock - dt.utcOffset.getD 0)

def asUnixTimestamp : PyValue → Except PyError (Option Int)
  | .int n => .ok (positive n)
  | .float x => if x = .nan then .ok none else do return positive (← intOf x)
  | .string s =>
    let text := strip s
    if text = [] then .ok none
    else
      match (py.ofText text).map intOf with
      | some (.ok parsed) => .ok (positive parsed)
      | some (.error .overflowError) => .error .overflowError
      -- a text that `float` does not read, and one that it reads as no number
      | some (.error .valueError) | none =>
        .ok ((py.fromIsoformat (replaceZulu text)).bind fun dt => positive (truncate (timestamp py dt)))
  | _ => .ok none

def parseMapLastSeen (item : Item) : Except PyError (Option Int) := do
  match ← asUnixTimestamp py (PyValue.get item "last_seen_at".toList) with
  | some lastSeen => return some lastSeen
  | none => asUnixTimestamp py (PyValue.get item "last_seen".toList)

/-- The key of an item, when it is one. -/
def itemKey (item : Item) : Option Key :=
  match PyValue.get item "public_key".toList with
  | .string publicKey =>
    let key := py.lower.apply (strip publicKey)
    if key.length = pubkeyHexLen ∧ key.all (fun c => (Bytes.hexValue c).isSome) then some key
    else none
  | _ => none

def itemName (key : Key) : PyValue → List Char
  | .string name => if strip name ≠ [] then strip name else key.take 12
  | _ => key.take 12

def mapNode (default : MapNodeSource) (key : Key) (item : Item) (lat lon : PyFloat) (lastSeen : Option Int) :
    DirectoryMapNode where
  publicKey := key
  name := itemName key (PyValue.get item "name".toList)
  role := normalizeMapRole py (PyValue.get item "role".toList)
  lat
  lon
  source := normalizeMapSource py default (PyValue.get item "source".toList)
  lastSeen

/-- The node of an item with a key, when it has a usable position. -/
def parseNode (default : MapNodeSource) (key : Key) (item : Item) :
    Except PyError (Option DirectoryMapNode) := do
  let lat ← asFloat py (PyValue.get item "lat".toList)
  let lon ← asFloat py (PyValue.get item "lon".toList)
  match lat, lon with
  | some lat, some lon =>
    if isValidMapLocation lat lon then
      return some (mapNode py default key item lat lon (← parseMapLastSeen py item))
    else return none
  | _, _ => return none

/-- An item whose key was kept is not looked at again. -/
def addNode (default : MapNodeSource) (nodes : List DirectoryMapNode) (item : PyValue) :
    Except PyError (List DirectoryMapNode) :=
  match item with
  | .object item =>
    match itemKey py item with
    | some key =>
      if key ∈ nodes.map (·.publicKey) then .ok nodes
      else do return nodes ++ (← parseNode py default key item).toList
    | none => .ok nodes
  | _ => .ok nodes

def parseTotal : PyValue → Option Nat
  | .int n => if 0 ≤ n then some n.toNat else none
  | .bool b => some b.toNat
  | _ => none

abbrev Page := List DirectoryMapNode × Option Nat

def parseDirectoryMapNodes (payload : PyValue) (default : MapNodeSource) : Except PyError Page :=
  match payload with
  | .object entries =>
    match PyValue.get entries "nodes".toList with
    | .array rawNodes => do
      return (← rawNodes.foldlM (addNode py default) [], parseTotal (PyValue.get entries "total".toList))
    | _ => .ok ([], none)
  | _ => .ok ([], none)

end Parse

/-- The values of `merged` in the order in which they were put in, and where the search is. -/
structure Progress where
  merged : List DirectoryMapNode
  offset : Nat
  totalOut : Option Nat

/-- A node of a page is put in when its key is not there yet. -/
def mergeNode (merged : List DirectoryMapNode × Nat) (node : DirectoryMapNode) :
    List DirectoryMapNode × Nat :=
  if node.publicKey ∈ merged.1.map (·.publicKey) then merged
  else (merged.1 ++ [node], merged.2 + 1)

/-- The nodes of a page that are not there yet, with how many they are. -/
def mergePage (merged page : List DirectoryMapNode) : List DirectoryMapNode × Nat :=
  page.foldl mergeNode (merged, 0)

/-- One round of the loop, with whether it breaks. -/
def takePage (p : Progress) (page : List DirectoryMapNode) (total : Option Nat) : Progress × Bool :=
  let totalOut := total.or p.totalOut
  if page = [] ∧ p.offset = 0 then ({ p with totalOut }, true)
  else
    let (merged, newOnPage) := mergePage p.merged page
    let offset := p.offset + nodesPageSize
    let done := match totalOut with
      | some total => decide (total ≤ offset)
      | none => decide (page.length < nodesPageSize) || decide (newOnPage = 0)
    (⟨merged, offset, totalOut⟩, done)

/-- The rounds that are left, with the number of pages that they fetch. A fetch is given how many
there were before it, and what it raises ends the loop. -/
def collectFrom (fetchPage : Nat → Nat → Option Page) : Nat → Nat → Progress → Option Progress × Nat
  | 0, _, p => (some p, 0)
  | left + 1, fetched, p =>
    match fetchPage fetched p.offset with
    | none => (none, 1)
    | some (page, total) =>
      let (next, done) := takePage p page total
      if done then (some next, 1)
      else
        let rest := collectFrom fetchPage left (fetched + 1) next
        (rest.1, rest.2 + 1)

def collectMapNodePages (fetchPage : Nat → Nat → Option Page) : Option Page × Nat :=
  let run := collectFrom fetchPage nodesMaxPages 0 ⟨[], 0, none⟩
  (run.1.map fun p => (p.merged, p.totalOut), run.2)

/-- An upstream that answers with the nodes of a fixed directory, a page at a time. -/
def answer (directory : List Item) (offset : Nat) : PyValue :=
  .object [("nodes".toList, .array (((directory.drop offset).take nodesPageSize).map .object)),
    ("total".toList, .int directory.length)]

def fetchDirectory (py : Conversions) (default : MapNodeSource) (directory : List Item) :
    Nat → Nat → Option Page :=
  fun _ offset => (parseDirectoryMapNodes py (answer directory offset) default).toOption

section Located
variable (py : Conversions)

/-- The position of an item, when it is usable. -/
def place (item : Item) : Option (PyFloat × PyFloat) := do
  let lat ← (asFloat py (PyValue.get item "lat".toList)).toOption.join
  let lon ← (asFloat py (PyValue.get item "lon".toList)).toOption.join
  if isValidMapLocation lat lon then some (lat, lon) else none

def locatedNode (default : MapNodeSource) (item : Item) : Option DirectoryMapNode := do
  let key ← itemKey py item
  let (lat, lon) ← place py item
  return mapNode py default key item lat lon (parseMapLastSeen py item).toOption.join

/-- The nodes of the directory with a usable position. -/
def located (default : MapNodeSource) (items : List Item) : List DirectoryMapNode :=
  items.filterMap (locatedNode py default)

/-- An integer that is too large for a float. -/
def TooLarge : PyValue → Prop
  | .int n => floatBound ≤ n.natAbs
  | _ => False

/-- A time that is infinite. -/
def Endless : PyValue → Prop
  | .float (.infinity _) => True
  | .string s => strip s ≠ [] ∧ ∃ negative, py.ofText (strip s) = some (.infinity negative)
  | _ => False

/-- The last time at which a node was seen is infinite. -/
def SeenEndless (item : Item) : Prop :=
  Endless py (PyValue.get item "last_seen_at".toList) ∨
    asUnixTimestamp py (PyValue.get item "last_seen_at".toList) = .ok none ∧
      Endless py (PyValue.get item "last_seen".toList)

/-- An item that cannot be converted: it has a key, and a coordinate too large for a float, or a usable
position and an infinite time. -/
def Overflows (item : Item) : Prop :=
  (itemKey py item).isSome ∧ (TooLarge (PyValue.get item "lat".toList) ∨
    TooLarge (PyValue.get item "lon".toList) ∨ (place py item).isSome ∧ SeenEndless py item)

/-- All items can be converted. -/
def Converts (items : List Item) : Prop := ∀ item ∈ items, ¬ Overflows py item

end Located

section Bound

theorem collectFrom_fetches (fetchPage : Nat → Nat → Option Page) (left fetched : Nat)
    (p : Progress) : (collectFrom fetchPage left fetched p).2 ≤ left := by
  induction left generalizing fetched p with
  | zero => exact Nat.le_refl 0
  | succ left ih =>
      rw [collectFrom]
      split
      · exact Nat.succ_le_succ (Nat.zero_le left)
      · dsimp only
        split
        · exact Nat.succ_le_succ (Nat.zero_le left)
        · exact Nat.succ_le_succ (ih _ _)

theorem collectMapNodePages_fetches (fetchPage : Nat → Nat → Option Page) :
    (collectMapNodePages fetchPage).2 ≤ nodesMaxPages := by
  rw [collectMapNodePages]
  exact collectFrom_fetches fetchPage nodesMaxPages 0 _

end Bound

section Pages
variable {py : Conversions} {default : MapNodeSource} {items : List Item}
  {nodes page : List DirectoryMapNode}

theorem asFloat_error {value : PyValue} (large : TooLarge value) :
    asFloat py value = .error .overflowError := by
  cases value with
  | int n =>
      have none_near : py.nearest n = none := (py.overflows n).mpr large
      simp [asFloat, floatOf, none_near, bind, Except.bind]
  | null | bool | float | string | array | object => exact large.elim

theorem asFloat_ok {value : PyValue} (fits : ¬ TooLarge value) :
    asFloat py value = .ok (asFloat py value).toOption.join := by
  cases value with
  | int n =>
      cases near : py.nearest n with
      | none => exact absurd ((py.overflows n).mp near) fits
      | some x => simp [asFloat, floatOf, near, bind, Except.bind, pure, Except.pure, Except.toOption]
  | null | bool | float | string | array | object => rfl

theorem asUnixTimestamp_error {value : PyValue} (endless : Endless py value) :
    asUnixTimestamp py value = .error .overflowError := by
  cases value with
  | float x =>
      cases x with
      | infinity negative => rfl
      | finite | nan => exact endless.elim
  | string s =>
      obtain ⟨filled, negative, infinite⟩ := endless
      simp [asUnixTimestamp, filled, infinite, intOf]
  | null | bool | int | array | object => exact endless.elim

theorem asUnixTimestamp_ok {value : PyValue} (ends : ¬ Endless py value) :
    ∃ seen, asUnixTimestamp py value = .ok seen := by
  cases value with
  | float x =>
      cases x with
      | finite x => exact ⟨_, rfl⟩
      | infinity negative => exact absurd trivial ends
      | nan => exact ⟨_, rfl⟩
  | string s =>
      by_cases blank : strip s = []
      · exact ⟨none, by simp [asUnixTimestamp, blank]⟩
      · cases read : py.ofText (strip s) with
        | none => exact ⟨_, by simp only [asUnixTimestamp, blank, read]; rfl⟩
        | some x =>
            cases x with
            | finite x => exact ⟨_, by simp only [asUnixTimestamp, blank, read]; rfl⟩
            | infinity negative => exact absurd ⟨blank, negative, read⟩ ends
            | nan => exact ⟨_, by simp only [asUnixTimestamp, blank, read]; rfl⟩
  | null | bool | int | array | object => exact ⟨_, rfl⟩

theorem parseMapLastSeen_error {item : Item} (endless : SeenEndless py item) :
    parseMapLastSeen py item = .error .overflowError := by
  rw [parseMapLastSeen]
  obtain endless | ⟨unseen, endless⟩ := endless
  · rw [asUnixTimestamp_error endless]
    rfl
  · rw [unseen]
    exact asUnixTimestamp_error endless

theorem parseMapLastSeen_ok {item : Item} (ends : ¬ SeenEndless py item) :
    parseMapLastSeen py item = .ok (parseMapLastSeen py item).toOption.join := by
  have reads : ∃ seen, parseMapLastSeen py item = .ok seen := by
    rw [SeenEndless, not_or] at ends
    obtain ⟨first, read⟩ := asUnixTimestamp_ok ends.1
    cases first with
    | some lastSeen => exact ⟨some lastSeen, by rw [parseMapLastSeen, read]; rfl⟩
    | none =>
        obtain ⟨second, read'⟩ := asUnixTimestamp_ok fun endless => ends.2 ⟨read, endless⟩
        exact ⟨second, by rw [parseMapLastSeen, read]; exact read'⟩
  obtain ⟨seen, read⟩ := reads
  rw [read]
  rfl

theorem parseNode_fits {item : Item} (key : Key)
    (fits_lat : ¬ TooLarge (PyValue.get item "lat".toList))
    (fits_lon : ¬ TooLarge (PyValue.get item "lon".toList)) :
    parseNode py default key item =
      match place py item with
      | some (lat, lon) => do
        return some (mapNode py default key item lat lon (← parseMapLastSeen py item))
      | none => .ok none := by
  rw [parseNode, asFloat_ok fits_lat, asFloat_ok fits_lon, place]
  generalize (asFloat py (PyValue.get item "lat".toList)).toOption.join = lat
  generalize (asFloat py (PyValue.get item "lon".toList)).toOption.join = lon
  cases lat with
  | none => rfl
  | some lat =>
      cases lon with
      | none => rfl
      | some lon =>
          by_cases valid : isValidMapLocation lat lon = true
          · simp [valid, bind, Except.bind]
          · simp [valid, bind, Except.bind, pure, Except.pure]

/-- What becomes of an item with a key. -/
theorem parseNode_spec {item : Item} {key : Key} (keyed : itemKey py item = some key) :
    (Overflows py item ∧ ∃ error, parseNode py default key item = .error error) ∨
      ¬ Overflows py item ∧ parseNode py default key item = .ok (locatedNode py default item) := by
  by_cases large_lat : TooLarge (PyValue.get item "lat".toList)
  · refine .inl ⟨⟨by rw [keyed]; rfl, .inl large_lat⟩, .overflowError, ?_⟩
    rw [parseNode, asFloat_error large_lat]
    rfl
  by_cases large_lon : TooLarge (PyValue.get item "lon".toList)
  · refine .inl ⟨⟨by rw [keyed]; rfl, .inr (.inl large_lon)⟩, .overflowError, ?_⟩
    rw [parseNode, asFloat_ok large_lat, asFloat_error large_lon]
    rfl
  have same := @parseNode_fits py default item key large_lat large_lon
  have only : Overflows py item ↔ (place py item).isSome ∧ SeenEndless py item := by
    simp only [Overflows, keyed, Option.isSome_some, true_and, large_lat, large_lon, false_or]
  rw [only, same, locatedNode, keyed]
  cases place py item with
  | none => exact .inr ⟨fun overflows => absurd overflows.1 Bool.false_ne_true, rfl⟩
  | some position =>
      by_cases endless : SeenEndless py item
      · refine .inl ⟨⟨rfl, endless⟩, .overflowError, ?_⟩
        dsimp only
        rw [parseMapLastSeen_error endless]
        rfl
      · refine .inr ⟨fun overflows => endless overflows.2, ?_⟩
        dsimp only
        rw [parseMapLastSeen_ok endless]
        rfl

theorem locatedNode_key {item : Item} {node : DirectoryMapNode}
    (found : locatedNode py default item = some node) : itemKey py item = some node.publicKey := by
  obtain ⟨key, keyed, found⟩ := Option.bind_eq_some_iff.mp found
  obtain ⟨position, _, made⟩ := Option.bind_eq_some_iff.mp found
  cases made
  exact keyed

/-- A located node has the key of its item. -/
theorem located_keys (items : List Item) :
    ((located py default items).map (·.publicKey)).Sublist (items.filterMap (itemKey py)) := by
  induction items with
  | nil => exact .slnil
  | cons item rest ih =>
      rw [located, List.filterMap_cons]
      cases found : locatedNode py default item with
      | none =>
          refine ih.trans ?_
          rw [List.filterMap_cons]
          split
          · exact .refl _
          · exact List.sublist_cons_self _ _
      | some node =>
          rw [List.filterMap_cons_some (locatedNode_key found)]
          exact ih.cons_cons _

theorem converts_cons {item : Item} :
    Converts py (item :: items) ↔ ¬ Overflows py item ∧ Converts py items :=
  List.forall_mem_cons

/-- Of items with distinct keys none is passed over, and one that cannot be converted ends it all. -/
theorem foldlM_addNode (distinct : (nodes.map (·.publicKey) ++ items.filterMap (itemKey py)).Nodup) :
    (Converts py items → (items.map PyValue.object).foldlM (addNode py default) nodes =
      .ok (nodes ++ located py default items)) ∧
    (¬ Converts py items → ((items.map PyValue.object).foldlM (addNode py default) nodes).toOption =
      none) := by
  induction items generalizing nodes with
  | nil =>
      refine ⟨fun _ => ?_, fun fails => absurd (fun _ member => absurd member List.not_mem_nil) fails⟩
      rw [located, List.filterMap_nil, List.append_nil]
      rfl
  | cons item rest ih =>
      rw [List.map_cons, List.foldlM_cons, converts_cons]
      cases keyed : itemKey py item with
      | none =>
          have added : addNode py default nodes (.object item) = .ok nodes := by
            simp [addNode, keyed]
          have fine : ¬ Overflows py item := fun overflows => by simp [Overflows, keyed] at overflows
          have same : located py default (item :: rest) = located py default rest :=
            List.filterMap_cons_none (by simp [locatedNode, keyed])
          rw [List.filterMap_cons_none keyed] at distinct
          rw [added, same]
          refine ⟨fun converts => (ih distinct).1 converts.2, fun fails => (ih distinct).2 ?_⟩
          exact fun converts => fails ⟨fine, converts⟩
      | some key =>
          rw [List.filterMap_cons_some keyed] at distinct
          have fresh : key ∉ nodes.map (·.publicKey) := by
            rw [List.nodup_append] at distinct
            exact fun member => distinct.2.2 _ member _ List.mem_cons_self rfl
          have added : addNode py default nodes (.object item) =
              do return nodes ++ (← parseNode py default key item).toList := by
            simp only [addNode, keyed, if_neg fresh]
          rw [added]
          obtain ⟨overflows, error, parsed⟩ | ⟨fine, parsed⟩ := @parseNode_spec py default item key keyed
          · rw [parsed]
            exact ⟨fun converts => absurd overflows converts.1, fun _ => rfl⟩
          · have onward : ((nodes ++ (locatedNode py default item).toList).map (·.publicKey) ++
                rest.filterMap (itemKey py)).Nodup := by
              refine List.Nodup.sublist ?_ distinct
              rw [List.map_append, List.append_assoc]
              refine List.Sublist.append_left ?_ _
              cases found : locatedNode py default item with
              | none => exact List.sublist_cons_self _ _
              | some node =>
                  cases keyed.symm.trans (locatedNode_key found)
                  exact .refl _
            have same : located py default (item :: rest) =
                (locatedNode py default item).toList ++ located py default rest := by
              rw [located, List.filterMap_cons]
              cases locatedNode py default item with
              | none => rfl
              | some node => rfl
            obtain ⟨goes, stops⟩ := ih onward
            rw [parsed, same, ← List.append_assoc]
            refine ⟨fun converts => goes converts.2, fun fails => stops fun converts => ?_⟩
            exact fails ⟨fine, converts⟩

theorem parse_answer (directory : List Item) (fetched offset : Nat)
    (distinct : (directory.filterMap (itemKey py)).Nodup) :
    (Converts py ((directory.drop offset).take nodesPageSize) →
      fetchDirectory py default directory fetched offset =
        some (located py default ((directory.drop offset).take nodesPageSize), some directory.length)) ∧
    (¬ Converts py ((directory.drop offset).take nodesPageSize) →
      fetchDirectory py default directory fetched offset = none) := by
  have part : ((directory.drop offset).take nodesPageSize).Sublist directory :=
    (List.take_sublist _ _).trans (List.drop_sublist _ _)
  have fresh : (([] : List DirectoryMapNode).map (·.publicKey) ++
      ((directory.drop offset).take nodesPageSize).filterMap (itemKey py)).Nodup :=
    (part.filterMap _).nodup distinct
  obtain ⟨converts, fails⟩ := @foldlM_addNode py default _ [] fresh
  have read : PyValue.get
      [("nodes".toList, .array (((directory.drop offset).take nodesPageSize).map .object)),
        ("total".toList, .int directory.length)] "nodes".toList =
      .array (((directory.drop offset).take nodesPageSize).map .object) := by
    simp [PyValue.get]
  have total : parseTotal (PyValue.get
      [("nodes".toList, .array (((directory.drop offset).take nodesPageSize).map .object)),
        ("total".toList, .int directory.length)] "total".toList) = some directory.length := by
    simp [PyValue.get, parseTotal, List.lookup]
  rw [fetchDirectory, answer, parseDirectoryMapNodes, read]
  dsimp only
  rw [total]
  refine ⟨fun all => ?_, fun some_ => ?_⟩
  · rw [converts all]
    rfl
  · have stopped := fails some_
    cases folded : (((directory.drop offset).take nodesPageSize).map PyValue.object).foldlM
        (addNode py default) [] with
    | error error => rfl
    | ok nodes =>
        rw [folded] at stopped
        contradiction

/-- New nodes of a page are put behind the others. -/
theorem mergePage_new (distinct : ((nodes ++ page).map (·.publicKey)).Nodup) :
    mergePage nodes page = (nodes ++ page, page.length) := by
  have all : ∀ new, page.foldl mergeNode (nodes, new) = (nodes ++ page, new + page.length) := by
    induction page generalizing nodes with
    | nil => simp
    | cons node rest ih =>
        intro new
        have fresh : node.publicKey ∉ nodes.map (·.publicKey) := by
          rw [List.map_append, List.nodup_append] at distinct
          exact fun member => distinct.2.2 _ member _ (by simp) rfl
        rw [List.foldl_cons, mergeNode, if_neg fresh, ih (by simpa using distinct)]
        simp [Nat.add_assoc, Nat.add_comm 1]
  simpa [mergePage] using all 0

end Pages

section Directory
variable {py : Conversions} {default : MapNodeSource} {directory : List Item} {p : Progress}

theorem located_append (front back : List Item) :
    located py default (front ++ back) = located py default front ++ located py default back :=
  List.filterMap_append

theorem located_take (directory : List Item) (offset size : Nat) :
    located py default (directory.take (offset + size)) =
      located py default (directory.take offset) ++
        located py default ((directory.drop offset).take size) := by
  rw [List.take_add, located_append]

/-- One round of the loop puts the next page behind the others, unless it is the first and empty. -/
theorem takePage_directory (distinct : ((located py default directory).map (·.publicKey)).Nodup)
    (merged : p.merged = located py default (directory.take p.offset))
    (goes_on : ¬ (located py default ((directory.drop p.offset).take nodesPageSize) = [] ∧
      p.offset = 0)) :
    takePage p (located py default ((directory.drop p.offset).take nodesPageSize))
        (some directory.length) =
      (⟨located py default (directory.take (p.offset + nodesPageSize)), p.offset + nodesPageSize,
        some directory.length⟩, decide (directory.length ≤ p.offset + nodesPageSize)) := by
  have part : (located py default (directory.take (p.offset + nodesPageSize))).Sublist
      (located py default directory) := (List.take_sublist _ _).filterMap _
  have fresh := (part.map (·.publicKey)).nodup distinct
  rw [located_take, ← merged] at fresh
  unfold takePage
  dsimp only
  rw [if_neg goes_on, mergePage_new fresh, located_take, ← merged]
  rfl

/-- An item further on is on this page or behind it. -/
theorem mem_drop_page {item : Item} {offset : Nat} (listed : item ∈ directory.drop offset) :
    item ∈ (directory.drop offset).take nodesPageSize ∨
      item ∈ directory.drop (offset + nodesPageSize) := by
  rw [← List.take_append_drop nodesPageSize (directory.drop offset), List.mem_append,
    List.drop_drop] at listed
  exact listed

/-- From a round on, the pages that are left bring what is left of the directory, unless one of them
cannot be converted. -/
theorem collectFrom_directory (distinct : (directory.filterMap (itemKey py)).Nodup)
    (left fetched : Nat) (merged : p.merged = located py default (directory.take p.offset))
    (started : p.offset ≠ 0 ∨ located py default (directory.take nodesPageSize) ≠ [])
    (enough : directory.length ≤ p.offset + left * nodesPageSize)
    (known : p.totalOut = some directory.length ∨ 0 < left) :
    (Converts py (directory.drop p.offset) →
      (collectFrom (fetchDirectory py default directory) left fetched p).1.map
          (fun p => (p.merged, p.totalOut)) =
        some (located py default directory, some directory.length)) ∧
    (¬ Converts py (directory.drop p.offset) →
      (collectFrom (fetchDirectory py default directory) left fetched p).1 = none) := by
  induction left generalizing fetched p with
  | zero =>
      have total : p.totalOut = some directory.length := known.resolve_right (Nat.lt_irrefl 0)
      have whole : directory.take p.offset = directory := List.take_of_length_le (by omega)
      have nothing : directory.drop p.offset = [] := List.drop_eq_nil_of_le (by omega)
      refine ⟨fun _ => ?_, fun fails => absurd ?_ fails⟩
      · rw [collectFrom, Option.map_some, merged, total, whole]
      · rw [nothing]
        exact fun item listed => absurd listed List.not_mem_nil
  | succ left ih =>
      have goes_on : ¬ (located py default ((directory.drop p.offset).take nodesPageSize) = [] ∧
          p.offset = 0) := by
        rintro ⟨nothing, first⟩
        rcases started with later | some_node
        · exact later first
        · rw [first, List.drop_zero] at nothing
          exact some_node nothing
      obtain ⟨answers, stops⟩ := @parse_answer py default directory fetched p.offset distinct
      rw [collectFrom]
      by_cases page : Converts py ((directory.drop p.offset).take nodesPageSize)
      · have behind : Converts py (directory.drop p.offset) ↔
            Converts py (directory.drop (p.offset + nodesPageSize)) := by
          constructor
          · intro converts item listed
            rw [← List.drop_drop] at listed
            exact converts item (List.mem_of_mem_drop listed)
          · intro converts item listed
            exact (mem_drop_page listed).elim (page item) (converts item)
        rw [answers page]
        dsimp only
        rw [takePage_directory ((located_keys directory).nodup distinct) merged goes_on, behind]
        dsimp only
        split
        · rename_i done
          have most : directory.length ≤ p.offset + nodesPageSize := of_decide_eq_true done
          have whole : directory.take (p.offset + nodesPageSize) = directory :=
            List.take_of_length_le most
          refine ⟨fun _ => by rw [Option.map_some, whole], fun fails => absurd ?_ fails⟩
          rw [List.drop_eq_nil_of_le most]
          exact fun item listed => absurd listed List.not_mem_nil
        · refine ih (p := ⟨located py default (directory.take (p.offset + nodesPageSize)),
            p.offset + nodesPageSize, some directory.length⟩) (fetched + 1) rfl (.inl ?_) ?_ (.inl rfl)
          · simp [nodesPageSize]
          · dsimp only
            rw [Nat.add_mul, Nat.one_mul] at enough
            omega
      · rw [stops page]
        refine ⟨fun converts => absurd ?_ page, fun _ => rfl⟩
        exact fun item listed => converts item (List.mem_of_mem_take listed)

/-- A first page without a usable position ends the search. -/
theorem collect_first_empty (distinct : (directory.filterMap (itemKey py)).Nodup)
    (converts : Converts py (directory.take nodesPageSize))
    (nothing : located py default (directory.take nodesPageSize) = []) :
    (collectMapNodePages (fetchDirectory py default directory)).1 =
      some ([], some directory.length) := by
  have first (left : Nat) : (collectFrom (fetchDirectory py default directory) (left + 1) 0
      ⟨[], 0, none⟩).1 = some ⟨[], 0, some directory.length⟩ := by
    rw [collectFrom, (parse_answer directory 0 0 distinct).1 converts]
    dsimp only
    rw [List.drop_zero, nothing]
    rfl
  rw [collectMapNodePages, nodesMaxPages, first]
  rfl

/-- A first page that cannot be converted raises. -/
theorem collect_first_raises (distinct : (directory.filterMap (itemKey py)).Nodup)
    (fails : ¬ Converts py (directory.take nodesPageSize)) :
    (collectMapNodePages (fetchDirectory py default directory)).1 = none := by
  have first (left : Nat) :
      (collectFrom (fetchDirectory py default directory) (left + 1) 0 ⟨[], 0, none⟩).1 = none := by
    rw [collectFrom, (parse_answer directory 0 0 distinct).2 fails]
  rw [collectMapNodePages, nodesMaxPages, first]
  rfl

/-- Of a directory that fits, the search returns all nodes with a usable position exactly when its first
page can be converted, and either there is no such node, or one is on the first page and the whole
directory can be converted; whatever the upstream, it ends within its pages. -/
theorem collects_located_iff (distinct : (directory.filterMap (itemKey py)).Nodup)
    (fits : directory.length ≤ nodesMaxPages * nodesPageSize) :
    ((collectMapNodePages (fetchDirectory py default directory)).1 =
        some (located py default directory, some directory.length) ↔
      Converts py (directory.take nodesPageSize) ∧ (located py default directory = [] ∨
        located py default (directory.take nodesPageSize) ≠ [] ∧ Converts py directory)) ∧
    ∀ fetchPage, (collectMapNodePages fetchPage).2 ≤ nodesMaxPages := by
  refine ⟨?_, collectMapNodePages_fetches⟩
  by_cases first : Converts py (directory.take nodesPageSize)
  · by_cases nothing : located py default (directory.take nodesPageSize) = []
    · rw [collect_first_empty distinct first nothing]
      constructor
      · intro same
        have both := Option.some.inj same
        exact ⟨first, .inl (congrArg Prod.fst both).symm⟩
      · rintro ⟨-, none_at_all | ⟨some_node, -⟩⟩
        · rw [none_at_all]
        · exact absurd nothing some_node
    · have enough : directory.length ≤ 0 + nodesMaxPages * nodesPageSize := by
        rw [Nat.zero_add]
        exact fits
      have some_left : 0 < nodesMaxPages := by decide
      have listed : located py default directory ≠ [] := by
        intro none_at_all
        have part : (located py default (directory.take nodesPageSize)).Sublist
          (located py default directory) := (List.take_sublist _ _).filterMap _
        rw [none_at_all, List.sublist_nil] at part
        exact nothing part
      obtain ⟨whole, broken⟩ := @collectFrom_directory py default directory ⟨[], 0, none⟩ distinct
        nodesMaxPages 0 rfl (.inr nothing) enough (.inr some_left)
      rw [List.drop_zero] at whole broken
      rw [collectMapNodePages]
      constructor
      · intro same
        refine ⟨first, .inr ⟨nothing, ?_⟩⟩
        by_contra fails
        rw [broken fails] at same
        contradiction
      · rintro ⟨-, none_at_all | ⟨-, converts⟩⟩
        · exact absurd none_at_all listed
        · exact whole converts
  · rw [collect_first_raises distinct first]
    refine iff_of_false (Option.some_ne_none _).symm ?_
    rintro ⟨converts, -⟩
    exact first converts

section Example

/-- A double for each whole number that is not too large, without rounding. -/
def exactDouble (n : Int) : Option ℚ := if floatBound ≤ n.natAbs then none else some n

theorem exactDouble_none (n : Int) : exactDouble n = none ↔ floatBound ≤ n.natAbs := by
  unfold exactDouble
  split
  · next large => exact iff_of_true rfl large
  · next fits => exact iff_of_false (Option.some_ne_none _) fits

private def python : Conversions where
  lower := .asciiOnly
  nearest := exactDouble
  overflows := exactDouble_none
  round := id
  ofText _ := none
  fromIsoformat _ := none

private def digit (n : Nat) : Char := Char.ofNat (48 + n % 10)

private def keyed (n : Nat) : Item :=
  [("public_key".toList,
    .string (List.replicate 61 'a' ++ [digit (n / 100), digit (n / 10), digit n]))]

private def placed (n : Nat) : Item :=
  [("lat".toList, .int 48), ("lon".toList, .int 11), ("last_seen".toList, .int 1700000000)] ++ keyed n

private def itemOf (pins : List Nat) (n : Nat) : Item := if n ∈ pins then placed n else keyed n

/-- A directory of two pages, of which some nodes have a position. -/
private def twoPages (pins : List Nat) : List Item := (List.range 501).map (itemOf pins)

private def number (key : Key) : Nat :=
  (key.drop 61).foldl (fun n c => 10 * n + (c.toNat - 48)) 0

private theorem digit_spec (n : Nat) : (digit n).toLower = digit n ∧ isSpace (digit n) = false ∧
    (Bytes.hexValue (digit n)).isSome ∧ (digit n).toNat - 48 = n % 10 := by
  have each : ∀ k < 10, (Char.ofNat (48 + k)).toLower = Char.ofNat (48 + k) ∧
      isSpace (Char.ofNat (48 + k)) = false ∧ (Bytes.hexValue (Char.ofNat (48 + k))).isSome ∧
      (Char.ofNat (48 + k)).toNat - 48 = k := by
    decide
  exact each (n % 10) (Nat.mod_lt n (by decide))

private theorem itemKey_keyed (n : Nat) : itemKey python (keyed n) =
    some (List.replicate 61 'a' ++ [digit (n / 100), digit (n / 10), digit n]) := by
  set key := List.replicate 61 'a' ++ [digit (n / 100), digit (n / 10), digit n] with key_eq
  have stripped : strip key = key := by
    refine strip_fixed ?_ ?_
    · intro c first
      obtain rfl : 'a' = c := Option.some.inj first
      decide
    · intro c last
      rw [key_eq, List.getLast?_append_cons] at last
      cases last
      exact (digit_spec n).2.1
  have lowered : python.lower.apply key = key := by
    change key.map Char.toLower = key
    simp [key_eq, digit_spec]
  have valid : key.length = pubkeyHexLen ∧ key.all (fun c => (Bytes.hexValue c).isSome) := by
    refine ⟨rfl, ?_⟩
    rw [key_eq, List.all_append, List.all_replicate]
    simp only [List.all_cons, List.all_nil, digit_spec]
    decide
  have found : PyValue.get (keyed n) "public_key".toList = .string key := rfl
  simp only [itemKey, found, stripped, lowered, if_pos valid]

private theorem itemKey_itemOf (pins : List Nat) (n : Nat) :
    itemKey python (itemOf pins n) = itemKey python (keyed n) := by
  unfold itemOf
  split
  · rfl
  · rfl

private theorem number_itemOf (pins : List Nat) (small : n < 1000) :
    (itemKey python (itemOf pins n)).map number = some n := by
  rw [itemKey_itemOf, itemKey_keyed, Option.map_some]
  have tail : (List.replicate 61 'a' ++ [digit (n / 100), digit (n / 10), digit n]).drop 61 =
      [digit (n / 100), digit (n / 10), digit n] := rfl
  simp only [number, tail, List.foldl_cons, List.foldl_nil, digit_spec]
  congr 1
  omega

private theorem twoPages_distinct (pins : List Nat) :
    ((twoPages pins).filterMap (itemKey python)).Nodup := by
  have numbers : ((twoPages pins).filterMap (itemKey python)).map number = List.range 501 := by
    rw [List.map_filterMap, twoPages, List.filterMap_map]
    refine Eq.trans (List.filterMap_congr fun n member => ?_) List.filterMap_some
    exact number_itemOf pins ((List.mem_range.mp member).trans (by decide))
  refine List.Nodup.of_map number ?_
  rw [numbers]
  exact List.nodup_range

private theorem twoPages_converts (pins : List Nat) : Converts python (twoPages pins) := by
  intro item listed
  obtain ⟨n, _, rfl⟩ := List.mem_map.mp listed
  have small : ¬ floatBound ≤ 48 ∧ ¬ floatBound ≤ 11 := by decide +kernel
  unfold itemOf
  split
  · rintro ⟨_, large | large | ⟨_, endless | ⟨_, endless⟩⟩⟩
    · exact small.1 large
    · exact small.2 large
    · exact endless
    · exact endless
  · rintro ⟨_, large | large | ⟨_, endless | ⟨_, endless⟩⟩⟩
    · exact large
    · exact large
    · exact endless
    · exact endless

private theorem twoPages_fits (pins : List Nat) :
    (twoPages pins).length ≤ nodesMaxPages * nodesPageSize := by
  rw [twoPages, List.length_map, List.length_range]
  decide

private theorem locatedNode_placed (n : Nat) : ∃ node, locatedNode python .communityDb (placed n) = some node ∧
    itemKey python (placed n) = some node.publicKey := by
  have key : itemKey python (placed n) = itemKey python (keyed n) := rfl
  have here : place python (placed n) = place python (placed 0) := rfl
  have valid : place python (placed 0) = some (.finite 48, .finite 11) := by decide +kernel
  rw [itemKey_keyed] at key
  refine ⟨mapNode python .communityDb _ (placed n) (.finite 48) (.finite 11) (some 1700000000), ?_, key⟩
  rw [locatedNode, key, here, valid]
  rfl

private theorem twoPages_located {pins : List Nat} {n : Nat} (small : n < 501) (pinned : n ∈ pins) :
    ∃ node ∈ located python .communityDb (twoPages pins), itemKey python (placed n) = some node.publicKey := by
  have item : itemOf pins n = placed n := if_pos pinned
  obtain ⟨node, made, key⟩ := locatedNode_placed n
  exact ⟨node, List.mem_filterMap.mpr ⟨placed n, List.mem_map.mpr ⟨n, List.mem_range.mpr small, item⟩, made⟩,
    key⟩

private theorem twoPages_take (pins : List Nat) :
    (twoPages pins).take nodesPageSize = (List.range 500).map (itemOf pins) := by
  rw [twoPages, ← List.map_take, List.take_range]
  rfl

private theorem twoPages_first_placed :
    located python .communityDb ((twoPages [0, 500]).take nodesPageSize) ≠ [] := by
  obtain ⟨node, made, -⟩ := locatedNode_placed 0
  refine List.ne_nil_of_mem (List.mem_filterMap.mpr ⟨placed 0, ?_, made⟩)
  rw [twoPages_take]
  exact List.mem_map.mpr ⟨0, List.mem_range.mpr (by decide), rfl⟩

/-- A node on each of the two pages. -/
theorem collects_located_iff_twoPages :
    ∃ found, (collectMapNodePages (fetchDirectory python .communityDb (twoPages [0, 500]))).1 =
        some (found, some (twoPages [0, 500]).length) ∧
      (∀ n ∈ [0, 500], ∃ node ∈ found, itemKey python (placed n) = some node.publicKey) ∧
      (collectMapNodePages fun _ _ => none).2 ≤ nodesMaxPages := by
  obtain ⟨exactly, bound⟩ :=
    @collects_located_iff python .communityDb _ (twoPages_distinct [0, 500]) (twoPages_fits [0, 500])
  have converts := twoPages_converts [0, 500]
  have first : Converts python ((twoPages [0, 500]).take nodesPageSize) :=
    fun item listed => converts item (List.mem_of_mem_take listed)
  refine ⟨_, exactly.mpr ⟨first, .inr ⟨twoPages_first_placed, converts⟩⟩, fun n pinned => ?_, bound _⟩
  have small : n < 501 := by
    simp only [List.mem_cons, List.not_mem_nil, or_false] at pinned
    omega
  exact twoPages_located small pinned

/-- A node with a position that was last seen at an infinite time. -/
private def endless : Item := ("last_seen_at".toList, .float (.infinity false)) :: placed 0

/-- The only node with a position is on the second page, and is not found; and the time of the only node
of a directory cannot be converted. -/
theorem collects_nothing_of_lastPlaced :
    (((twoPages [500]).filterMap (itemKey python)).Nodup ∧
      (twoPages [500]).length ≤ nodesMaxPages * nodesPageSize ∧
      (collectMapNodePages (fetchDirectory python .communityDb (twoPages [500]))).1 =
        some ([], some (twoPages [500]).length) ∧
      located python .communityDb (twoPages [500]) ≠ []) ∧
    (collectMapNodePages (fetchDirectory python .communityDb [endless])).1 = none ∧
      (located python .communityDb [endless]).length = 1 := by
  constructor
  · have converts := twoPages_converts [500]
    have first : Converts python ((twoPages [500]).take nodesPageSize) :=
      fun item listed => converts item (List.mem_of_mem_take listed)
    have unplaced : located python .communityDb ((twoPages [500]).take nodesPageSize) = [] := by
      rw [twoPages_take]
      refine List.filterMap_eq_nil_iff.mpr fun item member => ?_
      obtain ⟨n, small, rfl⟩ := List.mem_map.mp member
      have item : itemOf [500] n = keyed n := by
        refine if_neg fun pinned => ?_
        rw [List.mem_singleton] at pinned
        rw [List.mem_range] at small
        omega
      rw [item, locatedNode, itemKey_keyed]
      rfl
    obtain ⟨node, listed, -⟩ := twoPages_located (show 500 < 501 by decide) (List.mem_singleton_self 500)
    exact ⟨twoPages_distinct [500], twoPages_fits [500],
      collect_first_empty (twoPages_distinct [500]) first unplaced, List.ne_nil_of_mem listed⟩
  · exact ⟨by decide +kernel, by decide +kernel⟩

end Example

end Directory

end Meshloom.DirectoryMapNodes
