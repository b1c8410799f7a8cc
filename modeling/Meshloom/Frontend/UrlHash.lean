import Meshloom.PercentCoding

/-! The links to conversations (`utils/urlHash.ts`): the hash that is written for a conversation, and
the conversation that a hash of the location names. A component that is no text, or has a
malformed escape, makes the functions throw. -/
namespace Meshloom.UrlHash
open Utf16 PercentCoding

inductive ConversationType where
  | contact
  | channel
  | raw
  | control
  | map
  | live
  | visualizer
  | search
  | trace
  | locate
  | discovered
  | test
  deriving DecidableEq

structure Conversation where
  type : ConversationType
  id : Units
  name : Units
  mapFocusKey : Option Units
  locateKey : Option Units

structure ParsedHashConversation where
  type : ConversationType
  name : Units
  label : Option Units
  mapFocusKey : Option Units
  locateKey : Option Units
  deriving DecidableEq

inductive URIError where
  | malformed
  deriving DecidableEq

def hashSign : UInt16 := ascii '#'

def slash : UInt16 := ascii '/'

/-- The name of a type. -/
def typeName : ConversationType → Units
  | .contact => encode ['c', 'o', 'n', 't', 'a', 'c', 't']
  | .channel => encode ['c', 'h', 'a', 'n', 'n', 'e', 'l']
  | .raw => encode ['r', 'a', 'w']
  | .control => encode ['c', 'o', 'n', 't', 'r', 'o', 'l']
  | .map => encode ['m', 'a', 'p']
  | .live => encode ['l', 'i', 'v', 'e']
  | .visualizer => encode ['v', 'i', 's', 'u', 'a', 'l', 'i', 'z', 'e', 'r']
  | .search => encode ['s', 'e', 'a', 'r', 'c', 'h']
  | .trace => encode ['t', 'r', 'a', 'c', 'e']
  | .locate => encode ['l', 'o', 'c', 'a', 't', 'e']
  | .discovered => encode ['d', 'i', 's', 'c', 'o', 'v', 'e', 'r', 'e', 'd']
  | .test => encode ['t', 'e', 's', 't']

/-- The views that are the whole hash. -/
def views : List ConversationType :=
  [.raw, .control, .map, .live, .visualizer, .search, .trace, .locate, .discovered, .test]

def locateStart : Units := encode ['l', 'o', 'c', 'a', 't', 'e', '/']

def focusStart : Units := encode ['m', 'a', 'p', '/', 'f', 'o', 'c', 'u', 's', '/']

/-- White space and line terminators, which `trim` takes away. -/
def isSpace (u : UInt16) : Bool :=
  (9 ≤ u.toNat && u.toNat ≤ 13) || u.toNat ∈ [0x20, 0xA0, 0x1680, 0x2028, 0x2029, 0x202F, 0x205F,
    0x3000, 0xFEFF] || (0x2000 ≤ u.toNat && u.toNat ≤ 0x200A)

def trim (s : Units) : Units := (((s.dropWhile isSpace).reverse).dropWhile isSpace).reverse

/-- A key that is set is a string that is not empty. -/
def truthy (key : Option Units) : Option Units := key.filter (· ≠ [])

section Write

def encodeComponent (s : Units) : Except URIError Units :=
  match encodeURIComponent s with
  | some escaped => .ok escaped
  | none => .error .malformed

def getMapFocusHash (publicKeyPrefix : Units) : Except URIError Units := do
  return hashSign :: (focusStart ++ (← encodeComponent publicKeyPrefix))

def getLocateHash (query : Option Units) : Except URIError Units :=
  match truthy (query.map trim) with
  | some trimmed => do return hashSign :: (locateStart ++ (← encodeComponent trimmed))
  | none => .ok (hashSign :: typeName .locate)

/-- The readable part of a link, in which a channel's name stands without its sign. -/
def Conversation.label (conv : Conversation) : Units :=
  if conv.type = .channel ∧ conv.name.head? = some hashSign then conv.name.drop 1 else conv.name

def getConversationHash (conv : Conversation) : Except URIError Units :=
  match conv.type with
  | .map =>
    match truthy conv.mapFocusKey with
    | some key => getMapFocusHash key
    | none => .ok (hashSign :: typeName .map)
  | .locate => getLocateHash conv.locateKey
  | .channel | .contact => do
    let id ← encodeComponent conv.id
    let label ← encodeComponent conv.label
    return hashSign :: (typeName conv.type ++ slash :: (id ++ slash :: label))
  | view => .ok (hashSign :: typeName view)

end Write

section Read

def decodeComponent (s : Units) : Except URIError Units :=
  match decodeURIComponent s with
  | some units => .ok units
  | none => .error .malformed

/-- A view that is the whole hash. -/
def viewOf (hash : Units) : Option ConversationType := views.find? fun view => typeName view = hash

def parseLocate (locateKey : Units) : Except URIError ParsedHashConversation :=
  if locateKey ≠ [] then do
    return ⟨.locate, typeName .locate, none, none, some (← decodeComponent locateKey)⟩
  else .ok ⟨.locate, typeName .locate, none, none, none⟩

def parseMapFocus (focusKey : Units) : Except URIError ParsedHashConversation :=
  if focusKey ≠ [] then do
    return ⟨.map, typeName .map, none, some (← decodeComponent focusKey), none⟩
  else .ok ⟨.map, typeName .map, none, none, none⟩

/-- The token and the label of a link, which are the parts before and behind the first slash. -/
def splitValue (value : Units) : Units × Units :=
  match indexOf [slash] value with
  | none => (value, [])
  | some index => (value.take index, value.drop (index + 1))

def parseLabel (labelRaw : Units) : Except URIError (Option Units) :=
  if labelRaw ≠ [] then (decodeComponent labelRaw).map some else .ok none

def parseToken (type : ConversationType) (value : Units) :
    Except URIError (Option ParsedHashConversation) := do
  let (tokenRaw, labelRaw) := splitValue value
  let token ← decodeComponent tokenRaw
  if token = [] then return none
  else return some ⟨type, token, ← parseLabel labelRaw, none, none⟩

/-- What stands behind the `#` of the location. -/
def parseBody (hash : Units) : Except URIError (Option ParsedHashConversation) :=
  if hash = [] then .ok none
  else match viewOf hash with
    | some view => .ok (some ⟨view, hash, none, none, none⟩)
    | none =>
      if locateStart.isPrefixOf hash then
        (parseLocate (hash.drop locateStart.length)).map some
      else if focusStart.isPrefixOf hash then
        (parseMapFocus (hash.drop focusStart.length)).map some
      else match indexOf [slash] hash with
        | none => .ok none
        | some slashIndex =>
          let value := hash.drop (slashIndex + 1)
          match [ConversationType.channel, .contact].find? fun type =>
              typeName type = hash.take slashIndex with
          | some type => if value = [] then .ok none else parseToken type value
          | none => .ok none

def parseHashConversation (locationHash : Units) : Except URIError (Option ParsedHashConversation) :=
  parseBody (locationHash.drop 1)

/-- The components that the parser decodes. -/
def decoded (hash : Units) : List Units :=
  if hash = [] ∨ (viewOf hash).isSome then []
  else if locateStart.isPrefixOf hash then [hash.drop locateStart.length]
  else if focusStart.isPrefixOf hash then [hash.drop focusStart.length]
  else match indexOf [slash] hash with
    | none => []
    | some slashIndex =>
      let (tokenRaw, labelRaw) := splitValue (hash.drop (slashIndex + 1))
      if hash.take slashIndex ∉ [typeName .channel, typeName .contact] ∨ tokenRaw = [] then []
      else [tokenRaw, labelRaw]

end Read

/-- The conversation that its own link names. -/
def Restored (conv : Conversation) (parsed : ParsedHashConversation) : Prop :=
  parsed.type = conv.type ∧
  match conv.type with
  | .channel | .contact => parsed.name = conv.id ∧ parsed.label = some conv.label
  | .map => parsed.mapFocusKey = truthy conv.mapFocusKey
  | .locate => parsed.locateKey = truthy (conv.locateKey.map trim)
  | _ => True

def RoundTrips (conv : Conversation) : Prop :=
  ∃ hash parsed, getConversationHash conv = .ok hash ∧
    parseHashConversation hash = .ok (some parsed) ∧ Restored conv parsed

/-- A string without lone surrogates. -/
def WellFormed (s : Units) : Prop := codePoints s ≠ none

/-- What the link of a conversation restores. -/
def Restorable (conv : Conversation) : Prop :=
  match conv.type with
  | .channel | .contact =>
    conv.id ≠ [] ∧ WellFormed conv.id ∧ conv.label ≠ [] ∧ WellFormed conv.label
  | .map => ∀ key ∈ conv.mapFocusKey, WellFormed key
  | .locate => ∀ key ∈ conv.locateKey, WellFormed (trim key)
  | _ => True

section Links
variable {s : Units} {text : List Char} {hash : Units}

theorem encodeComponent_ok {escaped : Units} : encodeComponent s = .ok escaped ↔
    ∃ text, codePoints s = some text ∧ escaped = escape text := by
  unfold encodeComponent encodeURIComponent
  cases codePoints s with
  | none => simp
  | some text => simp [eq_comm]

theorem decodeComponent_escape (text : List Char) :
    decodeComponent (escape text) = .ok (encode text) := by
  rw [decodeComponent, decode_escape]

theorem viewOf_slash (inside : slash ∈ hash) : viewOf hash = none := by
  have plain : ∀ view ∈ views, slash ∉ typeName view := by decide +kernel
  refine List.find?_eq_none.mpr fun view listed same => ?_
  have apart := plain view listed
  rw [of_decide_eq_true same] at apart
  exact apart inside

theorem isPrefixOf_other {a b : UInt16} {front back : Units} (other : a ≠ b) :
    (a :: front).isPrefixOf (b :: back) = false := by
  simp [List.isPrefixOf, other]

theorem isPrefixOf_own (front back : Units) : front.isPrefixOf (front ++ back) = true :=
  List.isPrefixOf_iff_prefix.mpr (List.prefix_append front back)

theorem parse_view (view : ConversationType) (listed : view ∈ views) :
    parseHashConversation (hashSign :: typeName view) =
      .ok (some ⟨view, typeName view, none, none, none⟩) := by
  have written : ∀ view ∈ views, typeName view ≠ [] ∧ viewOf (typeName view) = some view := by
    decide +kernel
  obtain ⟨some_name, found⟩ := written view listed
  rw [parseHashConversation, List.drop_succ_cons, List.drop_zero, parseBody, if_neg some_name, found]

theorem parse_locate (written : text ≠ []) :
    parseHashConversation (hashSign :: (locateStart ++ escape text)) =
      .ok (some ⟨.locate, typeName .locate, none, none, some (encode text)⟩) := by
  have inside : slash ∈ locateStart ++ escape text :=
    List.mem_append_left _ (by decide +kernel)
  rw [parseHashConversation, List.drop_succ_cons, List.drop_zero, parseBody,
    if_neg (List.ne_nil_of_mem inside), viewOf_slash inside]
  dsimp only
  rw [if_pos (isPrefixOf_own _ _), List.drop_left, parseLocate,
    if_pos (mt escape_eq_nil_iff.mp written), decodeComponent_escape]
  rfl

theorem parse_focus (written : text ≠ []) :
    parseHashConversation (hashSign :: (focusStart ++ escape text)) =
      .ok (some ⟨.map, typeName .map, none, some (encode text), none⟩) := by
  have inside : slash ∈ focusStart ++ escape text :=
    List.mem_append_left _ (by decide +kernel)
  have other : locateStart.isPrefixOf (focusStart ++ escape text) = false :=
    isPrefixOf_other (by decide)
  rw [parseHashConversation, List.drop_succ_cons, List.drop_zero, parseBody,
    if_neg (List.ne_nil_of_mem inside), viewOf_slash inside]
  dsimp only
  rw [other, if_neg Bool.false_ne_true, if_pos (isPrefixOf_own _ _), List.drop_left, parseMapFocus,
    if_pos (mt escape_eq_nil_iff.mp written), decodeComponent_escape]
  rfl

theorem drop_slash (front back : Units) : (front ++ slash :: back).drop (front.length + 1) = back := by
  rw [← List.drop_drop, List.drop_left]
  rfl

theorem splitValue_link (id : List Char) (label : Units) :
    splitValue (escape id ++ slash :: label) = (escape id, label) := by
  have found : indexOf [slash] (escape id ++ [slash] ++ label) = some (escape id).length :=
    indexOf_append (slash_not_mem_escape id)
  rw [List.append_assoc, List.singleton_append] at found
  rw [splitValue, found]
  dsimp only
  rw [List.take_left, drop_slash]

/-- A link with a token and a label. -/
theorem parse_link {type : ConversationType} (linked : type ∈ [ConversationType.channel, .contact])
    (id label : List Char) :
    parseHashConversation
        (hashSign :: (typeName type ++ slash :: (escape id ++ slash :: escape label))) =
      .ok (if id = [] then none
        else some ⟨type, encode id, if label = [] then none else some (encode label), none, none⟩) := by
  have start : ∀ type ∈ [ConversationType.channel, .contact], slash ∉ typeName type ∧
      (typeName type).head? = some (ascii 'c') ∧
      [ConversationType.channel, .contact].find? (fun other => typeName other = typeName type) =
        some type := by decide +kernel
  obtain ⟨fresh, head, found⟩ := start type linked
  obtain ⟨name, same⟩ := List.head?_eq_some_iff.mp head
  have inside : slash ∈ typeName type ++ slash :: (escape id ++ slash :: escape label) := by simp
  have notLocate : locateStart.isPrefixOf
      (typeName type ++ slash :: (escape id ++ slash :: escape label)) = false := by
    rw [same]
    exact isPrefixOf_other (by decide)
  have notFocus : focusStart.isPrefixOf
      (typeName type ++ slash :: (escape id ++ slash :: escape label)) = false := by
    rw [same]
    exact isPrefixOf_other (by decide)
  have index : indexOf [slash] (typeName type ++ [slash] ++ (escape id ++ slash :: escape label)) =
      some (typeName type).length := indexOf_append fresh
  rw [List.append_assoc, List.singleton_append] at index
  rw [parseHashConversation, List.drop_succ_cons, List.drop_zero, parseBody,
    if_neg (List.ne_nil_of_mem inside), viewOf_slash inside]
  dsimp only
  rw [notLocate, notFocus, if_neg Bool.false_ne_true, if_neg Bool.false_ne_true, index]
  dsimp only
  rw [List.take_left, found, drop_slash]
  dsimp only
  rw [if_neg (by simp), parseToken, splitValue_link]
  dsimp only
  rw [decodeComponent_escape]
  by_cases empty : id = []
  · simp [empty, pure, Except.pure, bind, Except.bind]
  · have token : encode id ≠ [] := mt encode_eq_nil_iff.mp empty
    by_cases unnamed : label = []
    · subst unnamed
      simp [empty, token, parseLabel, escape, pure, Except.pure, bind, Except.bind]
    · have named := mt escape_eq_nil_iff.mp unnamed
      simp [empty, token, unnamed, named, parseLabel, decodeComponent_escape, pure, Except.pure, bind,
        Except.bind, Except.map]

end Links

section RoundTrip
variable {conv : Conversation} {s : Units}

theorem wellFormed_iff : WellFormed s ↔ ∃ text, codePoints s = some text :=
  Option.ne_none_iff_exists'

theorem truthy_eq_some {key : Option Units} : truthy key = some s ↔ key = some s ∧ s ≠ [] := by
  simp [truthy, Option.filter_eq_some_iff]

/-- The link of a view is the view's name. -/
theorem restores_view (type : ConversationType) (listed : type ∈ views)
    (written : getConversationHash conv = .ok (hashSign :: typeName type))
    (bare : Restored conv ⟨type, typeName type, none, none, none⟩) : RoundTrips conv :=
  ⟨_, _, written, parse_view type listed, bare⟩

theorem roundTrips_link (linked : conv.type ∈ [ConversationType.channel, .contact]) :
    RoundTrips conv ↔
      conv.id ≠ [] ∧ WellFormed conv.id ∧ conv.label ≠ [] ∧ WellFormed conv.label := by
  have hash : getConversationHash conv = (do
      let id ← encodeComponent conv.id
      let label ← encodeComponent conv.label
      return hashSign :: (typeName conv.type ++ slash :: (id ++ slash :: label))) := by
    simp only [List.mem_cons, List.not_mem_nil, or_false] at linked
    unfold getConversationHash
    rcases linked with type | type <;> rw [type]
  have restored (parsed : ParsedHashConversation) : Restored conv parsed ↔
      parsed.type = conv.type ∧ parsed.name = conv.id ∧ parsed.label = some conv.label := by
    simp only [List.mem_cons, List.not_mem_nil, or_false] at linked
    unfold Restored
    rcases linked with type | type <;> rw [type]
  rw [wellFormed_iff, wellFormed_iff]
  constructor
  · rintro ⟨written, parsed, ok, parse, same⟩
    obtain ⟨_, named, labelled⟩ := (restored parsed).mp same
    rw [hash] at ok
    cases first : encodeComponent conv.id with
    | error => simp [first, bind, Except.bind] at ok
    | ok idPart =>
      cases second : encodeComponent conv.label with
      | error => simp [first, second, bind, Except.bind] at ok
      | ok labelPart =>
          simp only [first, second, bind, Except.bind, pure, Except.pure, Except.ok.injEq] at ok
          obtain ⟨id, readId, rfl⟩ := encodeComponent_ok.mp first
          obtain ⟨label, readLabel, rfl⟩ := encodeComponent_ok.mp second
          rw [← ok, parse_link linked, Except.ok.injEq] at parse
          split at parse
          · contradiction
          rename_i someId
          rw [Option.some.injEq] at parse
          subst parse
          dsimp only at named labelled
          have someLabel : label ≠ [] := by
            rintro rfl
            simp at labelled
          rw [← encode_of_codePoints readId, ← encode_of_codePoints readLabel]
          exact ⟨mt encode_eq_nil_iff.mp someId, ⟨id, codePoints_encode id⟩,
            mt encode_eq_nil_iff.mp someLabel, ⟨label, codePoints_encode label⟩⟩
  · rintro ⟨someId, ⟨id, readId⟩, someLabel, ⟨label, readLabel⟩⟩
    have idText := encode_of_codePoints readId
    have labelText := encode_of_codePoints readLabel
    rw [← idText] at someId
    rw [← labelText] at someLabel
    refine ⟨hashSign :: (typeName conv.type ++ slash :: (escape id ++ slash :: escape label)), _, ?_,
      ?_, (restored ⟨conv.type, encode id, some (encode label), none, none⟩).mpr
        ⟨rfl, idText, congrArg some labelText⟩⟩
    · rw [hash, encodeComponent_ok.mpr ⟨id, readId, rfl⟩, encodeComponent_ok.mpr ⟨label, readLabel, rfl⟩]
      rfl
    · rw [parse_link linked, if_neg (mt encode_eq_nil_iff.mpr someId),
        if_neg (mt encode_eq_nil_iff.mpr someLabel)]

theorem wellFormed_nil : WellFormed [] := wellFormed_iff.mpr ⟨[], rfl⟩

theorem roundTrips_map (type : conv.type = .map) :
    RoundTrips conv ↔ ∀ key ∈ conv.mapFocusKey, WellFormed key := by
  have restored (parsed : ParsedHashConversation) : Restored conv parsed ↔
      parsed.type = .map ∧ parsed.mapFocusKey = truthy conv.mapFocusKey := by
    unfold Restored
    rw [type]
  cases focus : truthy conv.mapFocusKey with
  | none =>
      refine iff_of_true (restores_view .map (by decide) ?_ ?_) fun key member => ?_
      · simp only [getConversationHash, type, focus]
      · exact (restored _).mpr ⟨rfl, focus.symm⟩
      · have empty : key = [] := by
          by_contra written
          rw [truthy_eq_some.mpr ⟨member, written⟩] at focus
          contradiction
        exact empty ▸ wellFormed_nil
  | some key =>
      obtain ⟨set, written⟩ := truthy_eq_some.mp focus
      have hash : getConversationHash conv = getMapFocusHash key := by
        simp only [getConversationHash, type, focus]
      simp only [set, Option.mem_some_iff, forall_eq']
      rw [wellFormed_iff]
      constructor
      · rintro ⟨hash', parsed, ok, _⟩
        rw [hash, getMapFocusHash] at ok
        cases escaped : encodeComponent key with
        | error => simp [escaped, bind, Except.bind] at ok
        | ok part =>
            obtain ⟨text, read, _⟩ := encodeComponent_ok.mp escaped
            exact ⟨text, read⟩
      · rintro ⟨text, read⟩
        have same := encode_of_codePoints read
        have someText : text ≠ [] := fun empty => written (by rw [← same, empty]; rfl)
        refine ⟨_, _, ?_, parse_focus someText,
          (restored _).mpr ⟨rfl, by rw [focus, same]⟩⟩
        rw [hash, getMapFocusHash, encodeComponent_ok.mpr ⟨text, read, rfl⟩]
        rfl

theorem roundTrips_locate (type : conv.type = .locate) :
    RoundTrips conv ↔ ∀ key ∈ conv.locateKey, WellFormed (trim key) := by
  have restored (parsed : ParsedHashConversation) : Restored conv parsed ↔
      parsed.type = .locate ∧ parsed.locateKey = truthy (conv.locateKey.map trim) := by
    unfold Restored
    rw [type]
  have hash : getConversationHash conv = getLocateHash conv.locateKey := by
    simp only [getConversationHash, type]
  cases query : truthy (conv.locateKey.map trim) with
  | none =>
      refine iff_of_true (restores_view .locate (by decide) ?_ ?_) fun key member => ?_
      · simp only [hash, getLocateHash, query]
      · exact (restored _).mpr ⟨rfl, query.symm⟩
      · have empty : trim key = [] := by
          by_contra written
          have set : conv.locateKey.map trim = some (trim key) := by
            rw [Option.mem_def.mp member]
            rfl
          rw [truthy_eq_some.mpr ⟨set, written⟩] at query
          contradiction
        exact empty ▸ wellFormed_nil
  | some trimmed =>
      obtain ⟨set, written⟩ := truthy_eq_some.mp query
      obtain ⟨key, given, rfl⟩ := Option.map_eq_some_iff.mp set
      simp only [given, Option.mem_some_iff, forall_eq']
      rw [wellFormed_iff]
      constructor
      · rintro ⟨hash', parsed, ok, _⟩
        rw [hash, getLocateHash, query] at ok
        cases escaped : encodeComponent (trim key) with
        | error => simp [escaped, bind, Except.bind] at ok
        | ok part =>
            obtain ⟨text, read, _⟩ := encodeComponent_ok.mp escaped
            exact ⟨text, read⟩
      · rintro ⟨text, read⟩
        have same := encode_of_codePoints read
        have someText : text ≠ [] := fun empty => written (by rw [← same, empty]; rfl)
        refine ⟨_, _, ?_, parse_locate someText,
          (restored _).mpr ⟨rfl, by rw [query, same]⟩⟩
        rw [hash, getLocateHash, query]
        dsimp only
        rw [encodeComponent_ok.mpr ⟨text, read, rfl⟩]
        rfl

theorem roundTrips_iff (conv : Conversation) : RoundTrips conv ↔ Restorable conv := by
  have bare (view : ConversationType) (listed : view ∈ views)
      (written : getConversationHash conv = .ok (hashSign :: typeName view))
      (plain : Restored conv ⟨view, typeName view, none, none, none⟩)
      (any : Restorable conv) : RoundTrips conv ↔ Restorable conv :=
    iff_of_true (restores_view view listed written plain) any
  have others : conv.type ∈ [ConversationType.channel, .contact] ∨ conv.type = .map ∨
      conv.type = .locate ∨ (conv.type ∈ views ∧ conv.type ≠ .map ∧ conv.type ≠ .locate) := by
    cases conv.type <;> decide
  rcases others with linked | type | type | ⟨listed, notMap, notLocate⟩
  · rw [roundTrips_link linked]
    simp only [List.mem_cons, List.not_mem_nil, or_false] at linked
    unfold Restorable
    rcases linked with type | type <;> rw [type]
  · rw [roundTrips_map type, Restorable, type]
  · rw [roundTrips_locate type, Restorable, type]
  · cases type : conv.type
    all_goals first
      | exact absurd type notMap
      | exact absurd type notLocate
      | exact absurd (type ▸ listed) (by decide)
      | exact bare _ (type ▸ listed) (by simp only [getConversationHash, type])
          (by simp [Restored, type]) (by simp [Restorable, type])

end RoundTrip

section Totality
variable {hash : Units}

theorem decodeComponent_ok_iff {s : Units} :
    (∃ units, decodeComponent s = .ok units) ↔ decodeURIComponent s ≠ none := by
  unfold decodeComponent
  cases decodeURIComponent s <;> simp

theorem decodeURIComponent_nil : decodeURIComponent [] = some [] := by decide +kernel

/-- The result of a step is there when that of its component is. -/
theorem map_ok_iff {α β : Type} {f : α → β} {x : Except URIError α} :
    (∃ y, x.map f = .ok y) ↔ ∃ y, x = .ok y := by
  cases x <;> simp [Except.map]

theorem parseLocate_ok_iff (key : Units) :
    (∃ parsed, parseLocate key = .ok parsed) ↔ decodeURIComponent key ≠ none := by
  unfold parseLocate
  by_cases empty : key = []
  · simp [empty, decodeURIComponent_nil]
  · rw [if_pos empty, ← decodeComponent_ok_iff]
    cases decodeComponent key <;> simp [bind, Except.bind, pure, Except.pure]

theorem parseMapFocus_ok_iff (key : Units) :
    (∃ parsed, parseMapFocus key = .ok parsed) ↔ decodeURIComponent key ≠ none := by
  unfold parseMapFocus
  by_cases empty : key = []
  · simp [empty, decodeURIComponent_nil]
  · rw [if_pos empty, ← decodeComponent_ok_iff]
    cases decodeComponent key <;> simp [bind, Except.bind, pure, Except.pure]

theorem parseLabel_ok_iff (label : Units) :
    (∃ parsed, parseLabel label = .ok parsed) ↔ decodeURIComponent label ≠ none := by
  unfold parseLabel
  by_cases empty : label = []
  · simp [empty, decodeURIComponent_nil]
  · rw [if_pos empty, map_ok_iff, decodeComponent_ok_iff]

theorem parseToken_ok_iff (type : ConversationType) (value : Units) :
    (∃ parsed, parseToken type value = .ok parsed) ↔
      (splitValue value).1 = [] ∨ (decodeURIComponent (splitValue value).1 ≠ none ∧
        decodeURIComponent (splitValue value).2 ≠ none) := by
  unfold parseToken
  dsimp only
  by_cases empty : (splitValue value).1 = []
  · rw [empty, decodeComponent, decodeURIComponent_nil]
    simp [bind, Except.bind, pure, Except.pure]
  · cases decodes : decodeURIComponent (splitValue value).1 with
    | none => simp [empty, decodes, decodeComponent, bind, Except.bind]
    | some token =>
        have written : token ≠ [] := by
          rintro rfl
          exact empty (decode_eq_nil decodes)
        rw [← parseLabel_ok_iff]
        simp only [empty, decodeComponent, decodes, written, bind, Except.bind, pure, Except.pure,
          if_false, false_or, ne_eq, reduceCtorEq, not_false_iff, true_and]
        cases parseLabel (splitValue value).2 <;> simp

/-- A hash is read, or names nothing, exactly when the components in it can be decoded. -/
theorem parseBody_ok_iff (hash : Units) : (∃ parsed, parseBody hash = .ok parsed) ↔
    ∀ component ∈ decoded hash, decodeURIComponent component ≠ none := by
  unfold parseBody decoded
  by_cases empty : hash = []
  · simp [empty]
  cases view : viewOf hash with
  | some view => simp [empty]
  | none =>
      simp only [empty, if_false, Option.isSome_none, Bool.false_eq_true, or_self]
      split
      · rw [map_ok_iff, parseLocate_ok_iff]
        simp
      split
      · rw [map_ok_iff, parseMapFocus_ok_iff]
        simp
      cases index : indexOf [slash] hash with
      | none => simp
      | some i =>
          dsimp only
          cases found : [ConversationType.channel, .contact].find? fun type =>
              typeName type = hash.take i with
          | none =>
              have other : hash.take i ∉ [typeName .channel, typeName .contact] := by
                intro member
                simp only [List.mem_cons, List.not_mem_nil, or_false] at member
                rcases member with same | same <;> simp [same] at found
              simp [other]
          | some type =>
              have named : hash.take i ∈ [typeName .channel, typeName .contact] := by
                have same : typeName type = hash.take i := by
                  simpa using List.find?_some found
                have listed := List.mem_of_find?_eq_some found
                rw [← same]
                simp only [List.mem_cons, List.not_mem_nil, or_false] at listed
                rcases listed with rfl | rfl <;> simp
              dsimp only
              by_cases value : hash.drop (i + 1) = []
              · rw [if_pos value, value]
                simp [splitValue, indexOf]
              · rw [if_neg value, parseToken_ok_iff]
                by_cases token : (splitValue (hash.drop (i + 1))).1 = []
                · simp [token]
                · simp [token, named]

end Totality

/-- The link of a conversation restores it exactly when its identity and its label are texts that
are not empty and the key of its view is a text; and a hash makes the parser throw exactly when
a component in it has a malformed escape. -/
theorem hash_round_trip_iff (conv : Conversation) (hash : Units) :
    (RoundTrips conv ↔ Restorable conv) ∧
    ((∃ parsed, parseHashConversation hash = .ok parsed) ↔
      ∀ component ∈ decoded (hash.drop 1), decodeURIComponent component ≠ none) :=
  ⟨roundTrips_iff conv, parseBody_ok_iff (hash.drop 1)⟩

/-- A link that was cut off inside an escape. -/
theorem truncated_link_throws :
    ¬ ∀ hash : Units, ∃ parsed, parseHashConversation hash = .ok parsed := by
  intro total
  obtain ⟨parsed, read⟩ := total
    (hashSign :: encode ['c', 'h', 'a', 'n', 'n', 'e', 'l', '/', 'P', '%', '2'])
  have thrown : parseHashConversation
      (hashSign :: encode ['c', 'h', 'a', 'n', 'n', 'e', 'l', '/', 'P', '%', '2']) =
      .error .malformed := by decide +kernel
  rw [thrown] at read
  contradiction

end Meshloom.UrlHash
