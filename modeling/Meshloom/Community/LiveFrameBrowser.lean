import Meshloom.Community.LiveFrameProofs

/-! What the browser makes of a relayed frame, part by part and as a whole. -/
namespace Meshloom.LiveFrame
open Text JsValue

section Hops
variable {lang : Languages} {hop origin : CommunityPacketHop}
  {js : List (Chars × JsValue)}

theorem roundTrip_float {lang : Languages} (x : PyFloat) :
    roundTrip lang.nearest (.float x) = if x.isFinite then some (.number x) else none := by
  cases x <;> rfl

/-- The fields of a hop that the browser has parsed. -/
theorem get_hop (parsed : roundTripEntries lang.nearest hop.entries = some js) :
    JsValue.get js "token" = some (.string hop.token) ∧
      JsValue.get js "confidence" = some (.string hop.confidence.text) ∧
      JsValue.get js "lat" = hop.lat.bind (roundTrip lang.nearest ∘ .float) ∧
      JsValue.get js "lon" = hop.lon.bind (roundTrip lang.nearest ∘ .float) ∧
      JsValue.get js "reason" = hop.reason.map .string ∧
      JsValue.get js "pubkey" = hop.pubkey.map .string ∧
      JsValue.get js "name" = hop.name.map .string := by
  have text (o : Option Chars) : (o.map PyValue.string).bind (roundTrip lang.nearest) =
      o.map .string := by cases o <;> simp [roundTrip]
  have number (o : Option PyFloat) : (o.map PyValue.float).bind (roundTrip lang.nearest) =
      o.bind (roundTrip lang.nearest ∘ .float) := by cases o <;> rfl
  simp [JsValue.get, lookup_roundTripEntries parsed, CommunityPacketHop.entries, text, number, roundTrip]

/-- Two coordinates that are there are those of a place or nothing. -/
theorem location_parsed {x y : PyFloat} (lat : JsValue.get js "lat" = roundTrip lang.nearest (.float x))
    (lon : JsValue.get js "lon" = roundTrip lang.nearest (.float y)) :
    Browser.location js = if OnMap x y then some (x, y) else none := by
  have coord (x : PyFloat) : Browser.finiteCoord (roundTrip lang.nearest (.float x)) =
      if x.isFinite = true then some x else none := by cases x <;> rfl
  simp only [Browser.location, lat, lon, coord, OnMap]
  by_cases lat_finite : x.isFinite = true
  · by_cases lon_finite : y.isFinite = true
    · simp [lat_finite, lon_finite]
    · simp [lon_finite]
  · simp [lat_finite]

theorem truthyString_map {text : Option Chars} (filled : text ≠ some []) :
    Browser.truthyString (text.map .string) = text := by
  cases text with
  | none => rfl
  | some text => exact if_neg fun empty => filled (congrArg some empty)

/-- A hop is parsed when its numbers are finite. -/
theorem hop_parses (lang : Languages)
    (finite : (∀ lat ∈ hop.lat, lat.isFinite = true) ∧ ∀ lon ∈ hop.lon, lon.isFinite = true) :
    ∃ js, roundTripEntries lang.nearest hop.entries = some js := by
  rw [← Option.isSome_iff_exists, roundTripEntries_isSome]
  rintro ⟨key, value⟩ member
  obtain ⟨name, listed, -⟩ := PyValue.mem_present.mp member
  simp only [List.mem_cons, Prod.mk.injEq, List.not_mem_nil, or_false, Option.some.injEq] at listed
  obtain ⟨-, rfl⟩ | ⟨-, rfl⟩ | ⟨-, lat⟩ | ⟨-, lon⟩ | ⟨-, text⟩ | ⟨-, text⟩ | ⟨-, text⟩ := listed
  · rfl
  · rfl
  · obtain ⟨x, is_lat, rfl⟩ := Option.map_eq_some_iff.mp lat.symm
    rw [roundTrip_float, if_pos (finite.1 x is_lat)]
    rfl
  · obtain ⟨x, is_lon, rfl⟩ := Option.map_eq_some_iff.mp lon.symm
    rw [roundTrip_float, if_pos (finite.2 x is_lon)]
    rfl
  all_goals
    obtain ⟨s, -, rfl⟩ := Option.map_eq_some_iff.mp text.symm
    rfl

theorem drawable_unplaced (form : HopForm hop) (unresolved : hop.confidence = .unresolved) :
    hop.Drawable ↔ Browser.trim hop.token = hop.token := by
  obtain ⟨no_lat, _⟩ := form.unplaced unresolved
  exact ⟨fun drawn => drawn.token, fun same => ⟨same, by simp [CommunityPacketHop.Placed, no_lat]⟩⟩

theorem drawable_placed {x y : PyFloat} (is_lat : hop.lat = some x) (is_lon : hop.lon = some y) :
    hop.Drawable ↔ Browser.trim hop.token = hop.token ∧ OnMap x y := by
  have placed : hop.Placed ↔ OnMap x y := by simp [CommunityPacketHop.Placed, is_lat, is_lon]
  rw [← placed]
  exact ⟨fun drawn => ⟨drawn.token, drawn.placed⟩, fun both => ⟨both.1, both.2⟩⟩

theorem with_token (hop : CommunityPacketHop) (token : Chars) :
    { hop with token := token } = hop ↔ token = hop.token := by
  constructor
  · intro same
    exact congrArg (·.token) same
  · rintro rfl
    rfl

/-- A hop that is parsed is read as it is exactly when it is drawable. -/
theorem readHop_parsed (form : HopForm hop) (parsed : roundTripEntries lang.nearest hop.entries = some js) :
    Browser.readHop (.object js) = some hop ↔ hop.Drawable := by
  obtain ⟨token, confidence, lat, lon, reason, pubkey, name⟩ := get_hop parsed
  simp only [Browser.readHop, token, confidence, reason, pubkey, name, truthyString_map form.reason,
    truthyString_map form.pubkey, truthyString_map form.name, Browser.asString, Option.bind_some,
    Confidence.ofText_text, Option.bind_eq_bind]
  by_cases blank : Browser.trim hop.token = []
  · have different : ¬ hop.Drawable := fun drawn => form.token (drawn.token.symm.trans blank)
    simp [blank, different]
  · rw [if_neg blank]
    by_cases unresolved : hop.confidence = .unresolved
    · obtain ⟨no_lat, no_lon⟩ := form.unplaced unresolved
      rw [if_pos unresolved, drawable_unplaced form unresolved, Option.some.injEq, ← with_token,
        no_lat, no_lon]
    · obtain ⟨has_lat, has_lon⟩ := form.placed unresolved
      obtain ⟨x, is_lat⟩ := Option.ne_none_iff_exists'.mp has_lat
      obtain ⟨y, is_lon⟩ := Option.ne_none_iff_exists'.mp has_lon
      rw [is_lat] at lat
      rw [is_lon] at lon
      rw [if_neg unresolved, drawable_placed is_lat is_lon, ← with_token, is_lat, is_lon,
        location_parsed lat lon]
      by_cases drawn : OnMap x y
      · simp [drawn]
      · simp [drawn]

/-- What is read of a parsed hop has its confidence and its key. -/
theorem readHop_keeps {other : CommunityPacketHop} (form : HopForm hop)
    (parsed : roundTripEntries lang.nearest hop.entries = some js)
    (read : Browser.readHop (.object js) = some other) :
    other.confidence = hop.confidence ∧ other.pubkey = hop.pubkey := by
  obtain ⟨token, confidence, -, -, -, pubkey, -⟩ := get_hop parsed
  simp only [Browser.readHop, token, confidence, pubkey, truthyString_map form.pubkey, Browser.asString,
    Option.bind_some, Confidence.ofText_text, Option.bind_eq_bind] at read
  split at read
  · cases read
  · split at read
    · cases read
      exact ⟨rfl, rfl⟩
    · obtain ⟨place, -, rfl⟩ := Option.map_eq_some_iff.mp read
      exact ⟨rfl, rfl⟩

/-- A drawable hop has finite numbers. -/
theorem drawable_finite (form : HopForm hop) (drawn : hop.Drawable) :
    (∀ lat ∈ hop.lat, lat.isFinite = true) ∧ ∀ lon ∈ hop.lon, lon.isFinite = true := by
  by_cases unresolved : hop.confidence = .unresolved
  · obtain ⟨no_lat, no_lon⟩ := form.unplaced unresolved
    simp [no_lat, no_lon]
  · obtain ⟨has_lat, has_lon⟩ := form.placed unresolved
    obtain ⟨x, is_lat⟩ := Option.ne_none_iff_exists'.mp has_lat
    obtain ⟨y, is_lon⟩ := Option.ne_none_iff_exists'.mp has_lon
    have place := drawn.placed x is_lat y is_lon
    simp [is_lat, is_lon, place.1, place.2.1]

/-- What a reader of parsed hops has of a hop that is written. -/
theorem roundTrip_hop {read : JsValue → Option CommunityPacketHop} (form : HopForm hop)
    (parsed : ∀ js, roundTripEntries lang.nearest hop.entries = some js →
      (read (.object js) = some hop ↔ hop.Drawable)) :
    (roundTrip lang.nearest hop.toValue).bind read = some hop ↔ hop.Drawable := by
  have written : roundTrip lang.nearest hop.toValue =
      (roundTripEntries lang.nearest hop.entries).map .object := by
    rw [CommunityPacketHop.toValue, roundTrip]
  rw [written]
  cases done : roundTripEntries lang.nearest hop.entries with
  | none =>
      have undrawn : ¬ hop.Drawable := by
        intro drawn
        obtain ⟨js, some_js⟩ := hop_parses lang (drawable_finite form drawn)
        rw [done] at some_js
        cases some_js
      simp [undrawn]
  | some js => exact parsed js done

/-- The browser has a hop as it is exactly when it is drawable. -/
theorem readHop_roundTrip (form : HopForm hop) :
    (roundTrip lang.nearest hop.toValue).bind Browser.readHop = some hop ↔ hop.Drawable :=
  roundTrip_hop form fun _ => readHop_parsed form

/-- The browser has an origin as it is exactly when it is drawable. -/
theorem readOrigin_roundTrip (lang : Languages) (form : OriginForm origin) :
    (roundTrip lang.nearest origin.toValue).bind (Browser.readOrigin lang) = some origin ↔
      origin.Drawable := by
  refine roundTrip_hop form.toHopForm fun js parsed => ?_
  obtain ⟨-, -, -, -, -, pubkey, -⟩ := get_hop parsed
  have own : Browser.asString (JsValue.get js "pubkey") = origin.pubkey := by
    rw [pubkey]
    cases origin.pubkey <;> rfl
  have keeps : Browser.readOrigin lang (.object js) = Browser.readHop (.object js) := by
    cases read : Browser.readHop (.object js) with
    | none => simp [Browser.readOrigin, read]
    | some other =>
        obtain ⟨same_confidence, same_key⟩ := readHop_keeps form.toHopForm parsed read
        simp only [Browser.readOrigin, read, own, Option.bind_eq_bind, Option.bind_some]
        split
        · rename_i key found
          obtain ⟨is_own, is_key⟩ := Option.filter_eq_some_iff.mp found
          rw [lower_fullKey lang.toLowerCase (form.lower key is_own is_key), ← is_own, ← same_key]
        · rename_i missing
          have resolved : other.confidence ≠ .unresolved := by
            rw [same_confidence]
            intro unresolved
            obtain ⟨key, is_own⟩ := Option.ne_none_iff_exists'.mp (form.keyed unresolved)
            have full := form.full (by simp [unresolved]) key is_own
            rw [is_own, Option.filter_some_pos full.1] at missing
            cases missing
          rw [if_neg resolved]
  rw [keeps, readHop_parsed form.toHopForm parsed]

theorem readHops_roundTrip (lang : Languages) {hops : List CommunityPacketHop} (forms : ∀ hop ∈ hops, HopForm hop) :
    Browser.readHops (roundTrip lang.nearest (.array (hops.map (·.toValue)))) = some hops ↔
      ∀ hop ∈ hops, hop.Drawable := by
  have one_by_one : Browser.readHops (roundTrip lang.nearest (.array (hops.map (·.toValue)))) =
      (roundTripItems lang.nearest (hops.map (·.toValue))).bind (List.mapM Browser.readHop) := by
    rw [roundTrip]
    cases roundTripItems lang.nearest (hops.map (·.toValue)) <;> rfl
  rw [one_by_one, mapM_roundTripItems]
  exact forall₂_congr fun hop member => readHop_roundTrip (forms hop member)

end Hops

section Ear
variable {lang : Languages} {ear : CommunityPacketEar} {js : List (Chars × JsValue)}

theorem get_ear (parsed : roundTripEntries lang.nearest ear.entries = some js) :
    JsValue.get js "lat" = roundTrip lang.nearest (.float ear.lat) ∧
      JsValue.get js "lon" = roundTrip lang.nearest (.float ear.lon) ∧
      JsValue.get js "source" = some (.string ear.source.text) := by
  have word (s : Chars) : roundTrip lang.nearest (.string s) = some (.string s) := by rw [roundTrip]
  simp [JsValue.get, lookup_roundTripEntries parsed, CommunityPacketEar.entries, word]

theorem ear_parses (lang : Languages) (drawn : OnMap ear.lat ear.lon) :
    ∃ js, roundTripEntries lang.nearest ear.entries = some js := by
  rw [← Option.isSome_iff_exists, roundTripEntries_isSome]
  rintro ⟨key, value⟩ member
  obtain ⟨name, listed, -⟩ := PyValue.mem_present.mp member
  simp only [List.mem_cons, Prod.mk.injEq, List.not_mem_nil, or_false, Option.some.injEq] at listed
  obtain ⟨-, rfl⟩ | ⟨-, rfl⟩ | ⟨-, rfl⟩ := listed
  · rw [roundTrip_float, if_pos drawn.1]
    rfl
  · rw [roundTrip_float, if_pos drawn.2.1]
    rfl
  · rfl

/-- An ear that is parsed is read as it is exactly when it is on the map. -/
theorem readEar_parsed {ear : Option CommunityPacketEar} {value : JsValue}
    (parsed : roundTrip lang.nearest (earValue ear) = some value) :
    Browser.readEar (some value) = some ear ↔ ∀ placed ∈ ear, OnMap placed.lat placed.lon := by
  cases ear with
  | none =>
      cases parsed
      simp [Browser.readEar]
  | some ear =>
      rw [earValue, roundTrip] at parsed
      obtain ⟨js, fields, rfl⟩ := Option.map_eq_some_iff.mp parsed
      obtain ⟨lat, lon, source⟩ := get_ear fields
      simp only [Browser.readEar, location_parsed lat lon, source, Browser.asString, Option.bind_some,
        EarSource.ofText_text, Option.bind_eq_bind]
      by_cases drawn : OnMap ear.lat ear.lon
      · simp [drawn]
      · simp [drawn]

end Ear

section Frames
variable {lang : Languages} {frame : Frame} {js : List (Chars × JsValue)}

/-- The fields of a frame that the browser has parsed. -/
theorem get_frame (parsed : roundTripEntries lang.nearest frame.entries = some js) :
    JsValue.get js "v" = some (.number (.finite 2)) ∧
      JsValue.get js "event_id" = some (.string frame.eventId) ∧
      JsValue.get js "hash8" = some (.string frame.hash8) ∧
      JsValue.get js "type" = some (.string frame.type) ∧
      JsValue.get js "path" = some (.array (frame.path.map .string)) ∧
      JsValue.get js "hop_count" = some (.number (readInt lang.nearest frame.hopCount)) ∧
      JsValue.get js "hops" = roundTrip lang.nearest (.array (frame.hops.map (·.toValue))) ∧
      JsValue.get js "ear" = roundTrip lang.nearest (earValue frame.ear) ∧
      JsValue.get js "iata" = some (.string frame.iata) ∧
      JsValue.get js "t" = some (.number (readInt lang.nearest frame.t)) ∧
      JsValue.get js "ear_id" = some (.string frame.earId) ∧
      JsValue.get js "packet_hash" = frame.packetHash.map .string ∧
      JsValue.get js "origin" = frame.origin.bind (roundTrip lang.nearest ∘ (·.toValue)) ∧
      JsValue.get js "route_kind" = frame.routeKind.map (fun kind => .string kind.text) ∧
      JsValue.get js "snr" = frame.snr.bind (roundTrip lang.nearest ∘ .float) := by
  have text (o : Option Chars) : (o.map PyValue.string).bind (roundTrip lang.nearest) =
      o.map .string := by cases o <;> simp [roundTrip]
  have kind (o : Option RouteKind) : (o.map fun kind => PyValue.string kind.text).bind
      (roundTrip lang.nearest) = o.map fun kind => .string kind.text := by cases o <;> simp [roundTrip]
  have two : readInt lang.nearest 2 = .finite 2 := by
    have exact_ := lang.whole 2 (by norm_num)
    simp only [Nat.cast_ofNat] at exact_
    simp [readInt, exact_]
  have path : roundTrip lang.nearest (.array (frame.path.map .string)) =
      some (.array (frame.path.map .string)) := by
    rw [roundTrip, roundTripItems_strings]
    rfl
  have number (n : Int) : roundTrip lang.nearest (.int n) = some (.number (readInt lang.nearest n)) := by
    rw [roundTrip]
  have word (s : Chars) : roundTrip lang.nearest (.string s) = some (.string s) := by rw [roundTrip]
  simp [JsValue.get, lookup_roundTripEntries parsed, Frame.entries, text, kind, two, path, number, word,
    Option.bind_map]

theorem trim_hex {text : Chars} (hex : text.all isLowerHex = true) : Browser.trim text = text := by
  rw [List.all_eq_true] at hex
  have solid (c : Char) (member : c ∈ text) : Browser.isSpace c = false :=
    (isLowerHex_plain (hex c member)).2.2.2
  have front : text.dropWhile Browser.isSpace = text := by
    rw [List.dropWhile_eq_self_iff]
    intro filled
    simp [solid _ (List.getElem_mem filled)]
  rw [Browser.trim, front, List.rdropWhile_eq_self_iff]
  intro filled
  simp [solid _ (List.getLast_mem filled)]

theorem readHash8_parsed {hash8 : Chars} (is_hash : isHash8 hash8 = true) :
    Browser.readHash8 lang (some (.string hash8)) = some hash8 := by
  have parts := is_hash
  simp only [isHash8, Bool.and_eq_true, decide_eq_true_eq] at parts
  have cut : hash8.take 8 = hash8 := List.take_of_length_le parts.1.le
  simp [Browser.readHash8, Browser.asString, trim_hex parts.2, lower_hex lang.toLowerCase parts.2, cut,
    is_hash]

/-- A hash is read as it is unless it is all zeros. -/
theorem packetHash_parsed (form : WellFormed frame) :
    (Browser.normalizePacketHash16 lang (frame.packetHash.map .string)).filter
        (fun packetHash => packetHash.take 8 = frame.hash8) = frame.packetHash ↔
      frame.packetHash ≠ some zeroPacketHash := by
  cases is_hash : frame.packetHash with
  | none => simp [Browser.normalizePacketHash16, Browser.asString]
  | some hash =>
      obtain ⟨is_packet_hash, same⟩ := form.packetHash hash is_hash
      have parts := is_packet_hash
      simp only [isPacketHash, Bool.and_eq_true, decide_eq_true_eq] at parts
      have cut : hash.take 16 = hash := List.take_of_length_le parts.1.le
      have normal : Browser.normalizePacketHash16 lang (some (.string hash)) =
          if hash = zeroPacketHash then none else some hash := by
        simp only [Browser.normalizePacketHash16, Browser.asString, Option.bind_eq_bind,
          Option.bind_some, trim_hex parts.2, lower_hex lang.toLowerCase parts.2, cut]
        rw [if_pos ⟨parts.1.ge, parts.2⟩]
      rw [Option.map_some, normal]
      by_cases zero : hash = zeroPacketHash
      · simp [zero]
      · simp [zero, same]

theorem readInt_eq {n : Int} {x : ℚ} :
    readInt lang.nearest n = .finite x ↔ lang.nearest n = some x := by
  unfold readInt
  split
  · rename_i y found
    simp [found]
  · rename_i beyond
    simp [beyond]

theorem readTime_parsed {t : Int} :
    Browser.readTime (some (.number (readInt lang.nearest t))) = some (.finite t) ↔
      lang.nearest t = some (t : ℚ) := by
  rw [← readInt_eq]
  cases readInt lang.nearest t <;> simp [Browser.readTime, PyFloat.isFinite]

theorem readPath_parsed {hops : List CommunityPacketHop} (path : List Chars) :
    Browser.readPath hops (some (.array (path.map .string))) =
      if path.length = hops.length then some path else none := by
  have all : (path.map JsValue.string).mapM (fun item => Browser.asString (some item)) = some path := by
    induction path with
    | nil => rfl
    | cons text rest ih =>
        rw [List.map_cons, List.mapM_cons, ih]
        rfl
  simp [Browser.readPath, all]

theorem finiteCoord_roundTrip (x : Option PyFloat) :
    Browser.finiteCoord (x.bind (roundTrip lang.nearest ∘ .float)) = x.filter (·.isFinite) := by
  cases x with
  | none => rfl
  | some x => cases x <;> rfl

theorem routeKind_parsed (kind : Option RouteKind) :
    (Browser.asString (kind.map fun kind => .string kind.text)).bind RouteKind.ofText = kind := by
  cases kind <;> simp [Browser.asString]

/-- A drawable frame is parsed. -/
theorem frame_parses (form : WellFormed frame) (drawn : DrawableFrame lang frame) :
    ∃ js, roundTripEntries lang.nearest frame.entries = some js := by
  have hops : (roundTrip lang.nearest (.array (frame.hops.map (·.toValue)))).isSome := by
    have read := (readHops_roundTrip lang fun hop member => (form.hops hop member).1).mpr drawn.hops
    cases parsed : roundTrip lang.nearest (.array (frame.hops.map (·.toValue))) with
    | none =>
        rw [parsed] at read
        cases read
    | some value => rfl
  have ear : (roundTrip lang.nearest (earValue frame.ear)).isSome := by
    cases is_ear : frame.ear with
    | none => rfl
    | some ear =>
        obtain ⟨js, parsed⟩ := ear_parses lang (drawn.ear ear is_ear)
        rw [earValue, roundTrip, parsed]
        rfl
  have origin : ∀ origin ∈ frame.origin, (roundTrip lang.nearest origin.toValue).isSome := by
    intro origin is_origin
    have read := (readOrigin_roundTrip lang (form.origin origin is_origin)).mpr (drawn.origin origin is_origin)
    obtain ⟨value, parsed, -⟩ := Option.bind_eq_some_iff.mp read
    rw [parsed]
    rfl
  have path : (roundTrip lang.nearest (.array (frame.path.map .string))).isSome := by
    rw [roundTrip, roundTripItems_strings]
    rfl
  have word (s : Chars) : (roundTrip lang.nearest (.string s)).isSome := by
    rw [roundTrip]
    rfl
  have number (n : Int) : (roundTrip lang.nearest (.int n)).isSome := by
    rw [roundTrip]
    rfl
  have snr : ∀ snr ∈ frame.snr, (roundTrip lang.nearest (.float snr)).isSome := by
    intro snr is_snr
    rw [roundTrip_float, if_pos (drawn.snr snr is_snr)]
    rfl
  rw [← Option.isSome_iff_exists, roundTripEntries_isSome]
  rintro ⟨key, value⟩ member
  obtain ⟨name, listed, -⟩ := PyValue.mem_present.mp member
  simp only [List.mem_cons, Prod.mk.injEq, List.not_mem_nil, or_false, Option.some.injEq] at listed
  obtain ⟨-, rfl⟩ | ⟨-, rfl⟩ | ⟨-, rfl⟩ | ⟨-, rfl⟩ | ⟨-, rfl⟩ | ⟨-, rfl⟩ | ⟨-, rfl⟩ | ⟨-, rfl⟩ | ⟨-, rfl⟩ |
    ⟨-, rfl⟩ | ⟨-, rfl⟩ | ⟨-, is⟩ | ⟨-, is⟩ | ⟨-, is⟩ | ⟨-, is⟩ := listed
  · exact number 2
  · exact word _
  · exact word _
  · exact word _
  · exact path
  · exact number _
  · exact hops
  · exact ear
  · exact word _
  · exact number _
  · exact word _
  · obtain ⟨_, -, rfl⟩ := Option.map_eq_some_iff.mp is.symm
    exact word _
  · obtain ⟨kept, is_origin, rfl⟩ := Option.map_eq_some_iff.mp is.symm
    exact origin kept is_origin
  · obtain ⟨_, -, rfl⟩ := Option.map_eq_some_iff.mp is.symm
    exact word _
  · obtain ⟨x, is_snr, rfl⟩ := Option.map_eq_some_iff.mp is.symm
    exact snr x is_snr

/-- The frame as the browser has it when it has what the relay sent. -/
def Frame.asRead (frame : Frame) : CommunityPacket where
  eventId := frame.eventId
  hash8 := frame.hash8
  packetHash := frame.packetHash
  type := frame.type
  path := frame.path
  hopCount := frame.hops.length
  hops := frame.hops
  ear := frame.ear
  iata := frame.iata
  t := .finite frame.t
  earId := frame.earId
  origin := frame.origin
  routeKind := frame.routeKind
  snr := frame.snr

theorem countAgrees_iff {count : Nat} {n : Int} :
    Browser.countAgrees count (some (.number (readInt lang.nearest n))) = true ↔
      lang.nearest n = some (count : ℚ) := by
  rw [← readInt_eq]
  simp [Browser.countAgrees]

theorem origin_parsed (form : WellFormed frame) :
    ((frame.origin.bind (roundTrip lang.nearest ∘ (·.toValue))).bind fun value =>
        Browser.readOrigin lang value) = frame.origin ↔ ∀ origin ∈ frame.origin, origin.Drawable := by
  cases is_origin : frame.origin with
  | none => simp
  | some origin =>
      simp only [Option.bind_some, Function.comp_apply, Option.mem_def, Option.some.injEq, forall_eq']
      exact readOrigin_roundTrip lang (form.origin origin is_origin)

theorem snr_parsed (snr : Option PyFloat) :
    snr.filter (·.isFinite) = snr ↔ ∀ x ∈ snr, x.isFinite = true := by
  cases snr <;> simp

/-- A frame that is parsed is read as it is exactly when it is drawable. -/
theorem asCommunityPacket_parsed (form : WellFormed frame)
    (parsed : roundTripEntries lang.nearest frame.entries = some js) :
    (∃ packet, Browser.asCommunityPacket lang (.object js) = some packet ∧ SameAs frame packet) ↔
      DrawableFrame lang frame := by
  obtain ⟨v, eventId, hash8, type, path, hopCount, hops, ear, iata, t, earId, packetHash, origin,
    routeKind, snr⟩ := get_frame parsed
  obtain ⟨earRead, ear_parsed⟩ : ∃ value, roundTrip lang.nearest (earValue frame.ear) = some value := by
    have all := roundTripEntries_isSome.mp (Option.isSome_iff_exists.mpr ⟨js, parsed⟩)
    exact Option.isSome_iff_exists.mp (all ("ear".toList, earValue frame.ear)
      (PyValue.mem_present.mpr ⟨"ear", by simp, rfl⟩))
  have hop_forms (hop : CommunityPacketHop) (member : hop ∈ frame.hops) : HopForm hop :=
    (form.hops hop member).1
  have event_text : Browser.truthyString (some (.string frame.eventId)) = some frame.eventId :=
    if_neg form.eventId
  have ear_text : Browser.truthyString (some (.string frame.earId)) = some frame.earId :=
    if_neg form.earId
  have type_read : (Browser.asString (some (.string frame.type))).filter isPacketType =
      some frame.type := Option.filter_some_pos form.type
  have schema : Browser.isSchema (some (.number (.finite 2))) = true := rfl
  have iata_read : Browser.readIata (some (.string frame.iata)) = some frame.iata := rfl
  simp only [Browser.asCommunityPacket, v, eventId, hash8, type, path, hopCount, hops, ear, ear_parsed,
    iata, t, earId, packetHash, origin, routeKind, snr, schema, event_text, ear_text, type_read, iata_read,
    readHash8_parsed form.hash8, readPath_parsed, routeKind_parsed, finiteCoord_roundTrip,
    Option.bind_eq_bind, Option.bind_some, guard_true, Option.pure_def]
  constructor
  · rintro ⟨packet, read, same⟩
    simp only [Option.bind_eq_some_iff, Option.some.injEq] at read
    obtain ⟨others, hops_read, path, -, _, agrees, time, time_read, place, ear_read, rfl⟩ := read
    have same_hops : others = frame.hops := same.hops
    have same_time : time = .finite frame.t := same.t
    have same_ear : place = frame.ear := same.ear
    subst same_hops same_time same_ear
    refine ⟨(readHops_roundTrip lang hop_forms).mp hops_read, ?_, (readEar_parsed ear_parsed).mp ear_read,
      (origin_parsed form).mp same.origin, readTime_parsed.mp time_read, (snr_parsed _).mp same.snr,
      (packetHash_parsed form).mp same.packetHash⟩
    exact countAgrees_iff.mp ((Option.guard_eq_some' _).mp agrees)
  · intro drawn
    refine ⟨frame.asRead, ?_, ⟨rfl, rfl, rfl, rfl, rfl, rfl, rfl, rfl, rfl, rfl, rfl, rfl, rfl⟩⟩
    simp only [(readHops_roundTrip lang hop_forms).mpr drawn.hops, Option.bind_some, form.length,
      if_true, readTime_parsed.mpr drawn.time, (readEar_parsed ear_parsed).mpr drawn.ear,
      (origin_parsed form).mpr drawn.origin, (snr_parsed _).mpr drawn.snr,
      (packetHash_parsed form).mpr drawn.packetHash]
    rw [← form.length, (Option.guard_eq_some' ()).mpr (countAgrees_iff.mpr drawn.count)]
    rfl

/-- The browser has what the relay sent exactly when the frame is drawable. -/
theorem received_iff (form : WellFormed frame) :
    (∃ packet, received lang frame = some packet ∧ SameAs frame packet) ↔ DrawableFrame lang frame := by
  have written : roundTrip lang.nearest frame.toValue =
      (roundTripEntries lang.nearest frame.entries).map .object := by
    rw [Frame.toValue, roundTrip]
  rw [received, written]
  cases parsed : roundTripEntries lang.nearest frame.entries with
  | none =>
      have undrawn : ¬ DrawableFrame lang frame := by
        intro drawn
        obtain ⟨js, some_js⟩ := frame_parses form drawn
        rw [parsed] at some_js
        cases some_js
      simp [undrawn]
  | some js => exact asCommunityPacket_parsed form parsed

/-- A frame that the relay sends on is a fixed point of its check and is drawn as it is exactly when
the payload that it was made of is drawable. -/
theorem relays_iff {raw payload : PyValue} (read : payloadOf lang raw = some payload)
    (done : sanitizeCommunityPacket lang raw = .ok frame) :
    Relays lang frame ↔ DrawablePayload lang payload := by
  have passed : sanitizePayload lang payload = .ok frame := by
    simpa only [sanitizeCommunityPacket, read, bind_eq_ok, required_eq_ok, Option.some.injEq,
      exists_eq_left'] using done
  obtain ⟨form, drawable⟩ := sanitizePayload_spec passed
  rw [Relays, drawable, ← received_iff form]
  exact ⟨And.right, fun drawn => ⟨sanitize_idempotent done, drawn⟩⟩

/-- Languages that know ASCII and texts of no JSON. -/
def plainLanguages : Languages where
  lower := .asciiOnly
  upper := .asciiOnly
  toLowerCase := .asciiOnly
  loads _ := none
  nearest n := some n
  whole _ _ := rfl

/-- A frame without hops that says how many it has. -/
def miscounted (count : Int) : PyValue :=
  .object (PyValue.present
    [("v", some (.int 2)), ("event_id", some (.string ['e'])),
      ("hash8", some (.string (List.replicate 8 'a'))), ("type", some (.string ['a', 'c', 'k'])),
      ("path", some (.array [])), ("hops", some (.array [])), ("hop_count", some (.int count)),
      ("ear", some .null), ("iata", some (.string [])), ("t", some (.int 0)),
      ("ear_id", some (.string ['x']))])

def miscountedFrame (count : Int) : Frame :=
  ⟨['e'], List.replicate 8 'a', none, ['a', 'c', 'k'], [], count, [], none, [], 0, ['x'], none, none, none⟩

/-- The relay sends the count on, and the browser drops the frame. -/
theorem miscounted_dropped :
    sanitizeCommunityPacket plainLanguages (miscounted 1) = .ok (miscountedFrame 1) ∧
      received plainLanguages (miscountedFrame 1) = none := by
  exact ⟨rfl, rfl⟩

/-- A repeater that is placed on the map. -/
def placedHop (token : Chars) : CommunityPacketHop :=
  ⟨token, .exact, some (.finite 48), some (.finite (23 / 2)), none, some (List.replicate 64 'b'),
    some ['M', 'u', 'c']⟩

/-- An advert with its origin, over two hops to an ear. -/
def heardFrame : Frame where
  eventId := ['e']
  hash8 := List.replicate 8 'a'
  packetHash := some (List.replicate 16 'a')
  type := ['a', 'd', 'v', 'e', 'r', 't']
  path := [['a', '1'], ['b', '2']]
  hopCount := 2
  hops := [placedHop ['a', '1'], unresolvedHop ['b', '2']]
  ear := some ⟨.finite 47, .finite 12, .advert⟩
  iata := ['M', 'U', 'C']
  t := 1700000000
  earId := ['x']
  origin := some (placedHop ['c', '3'])
  routeKind := some .flood
  snr := some (.finite (-5 / 2))

theorem heardFrame_received : received plainLanguages heardFrame = some heardFrame.asRead := by
  decide +kernel

theorem relays_iff_heard : Relays plainLanguages heardFrame ∧
    DrawablePayload plainLanguages heardFrame.toValue := by
  have sent : sanitizeCommunityPacket plainLanguages heardFrame.toValue = .ok heardFrame := rfl
  have relayed : Relays plainLanguages heardFrame :=
    ⟨sent, heardFrame.asRead, heardFrame_received, rfl, rfl, rfl, rfl, rfl, rfl, rfl, rfl, rfl, rfl, rfl, rfl,
      rfl⟩
  exact ⟨relayed, (relays_iff rfl sent).mp relayed⟩

end Frames
end Meshloom.LiveFrame
