import QuestVdWired.Host.Diagnostics
import QuestVdWired.Wire.JsonValue

/-!
The redaction of what is logged. It happens when an event is recorded and again when the logs are
exported.
-/

namespace QuestVdWired.Host.Diagnostics
open Wire Text

/-- The variables of the process whose values are texts. -/
abbrev Environment := String → Option (List Char)

/-- `str::replace`, where so many characters of a match are left to be passed over. -/
def replaceFrom (pattern replacement : List Char) : Nat → List Char → List Char
  | _, [] => []
  | skip + 1, _ :: rest => replaceFrom pattern replacement skip rest
  | 0, c :: rest =>
      if pattern.isPrefixOf (c :: rest) then
        replacement ++ replaceFrom pattern replacement (pattern.length - 1) rest
      else c :: replaceFrom pattern replacement 0 rest

def replace (text pattern replacement : List Char) : List Char :=
  replaceFrom pattern replacement 0 text

def redactText (environment : Environment) (input : List Char) : List Char :=
  ["USERPROFILE", "HOME", "USERNAME", "USER"].foldl
    (fun output name =>
      match environment name with
      | none => output
      | some value => if value.isEmpty then output else replace output value "<home>".toList)
    input

def isAsciiAlphanumeric (byte : UInt8) : Bool :=
  (48 ≤ byte && byte ≤ 57) || (65 ≤ byte && byte ≤ 90) || (97 ≤ byte && byte ≤ 122)

/-- The letters and digits of a key, in lower case. -/
def normalized (key : JsonKey) : List Char :=
  (((toAsciiLowercase key).flatMap String.utf8EncodeChar).filter isAsciiAlphanumeric).map
    fun byte => Char.ofNat byte.toNat

def markers : List String :=
  ["payload", "secret", "password", "token", "sessionid", "serial", "username", "userid",
    "address", "endpoint", "filepath"]

def sensitive (key : JsonKey) : Bool :=
  markers.any (fun marker => contains (normalized key) marker.toList) ||
    normalized key = "err".toList ||
    (contains (normalized key) "error".toList &&
      !(normalized key = "errorkind".toList || normalized key = "errorcategory".toList))

def placeholder : JsonValue := .string "<redacted>".toList

section
variable (environment : Environment)

mutual
def redactValue : JsonValue → JsonValue
  | .object members => .object (redactObject members)
  | .array values => .array (redactValues values)
  | .string text => .string (redactText environment text)
  | other => other

def redactValues : List JsonValue → List JsonValue
  | [] => []
  | value :: values => redactValue value :: redactValues values

/-- The keys stay as they are, so the map is collected in the same order. -/
def redactObject : List (JsonKey × JsonValue) → List (JsonKey × JsonValue)
  | [] => []
  | (key, value) :: members =>
      (key, if sensitive key then placeholder else redactValue value) :: redactObject members
end

/-- What `export` puts in the place of a line that it cannot read. -/
def malformedLogLine : JsonValue :=
  .object [("kind".toList, .string "malformed_log_line".toList)]

def bundleMetadata (createdUnixMs : UInt64) : JsonValue :=
  .object [("created_unix_ms".toList, .number (.posInt createdUnixMs)),
    ("format".toList, .number (.posInt 1)), ("kind".toList, .string "bundle_metadata".toList),
    ("packet_payloads_recorded".toList, .bool false), ("redacted".toList, .bool true)]

/-- The log over a reader and a writer of JSON texts. -/
def jsonSerde (fromStr : List Char → Option JsonValue) (toVec : JsonValue → Line)
    (createdUnixMs : UInt64) : Serde JsonValue where
  fromStr := fromStr
  toVec := toVec
  redactValue := redactValue environment
  malformed := malformedLogLine
  bundleMetadata := bundleMetadata createdUnixMs

/-- The event that `record_with_metrics` writes, its members in the order of the map. -/
def event (timestampUnixMs : UInt64) (kind : List Char) (fields : JsonValue) : JsonValue :=
  .object [("fields".toList, redactValue environment fields), ("kind".toList, .string kind),
    ("timestamp_unix_ms".toList, .number (.posInt timestampUnixMs))]

attribute [local grind =] redactValue

/-! ### Members and elements -/

theorem redactValues_eq {values : List JsonValue} :
    redactValues environment values = values.map (redactValue environment) := by
  induction values with
  | nil => rw [redactValues, List.map_nil]
  | cons value values ih => rw [redactValues, ih, List.map_cons]

/-- What stands behind a key. -/
def redactMember (member : JsonKey × JsonValue) : JsonValue :=
  if sensitive member.1 then placeholder else redactValue environment member.2

theorem redactObject_eq {members : List (JsonKey × JsonValue)} :
    redactObject environment members =
      members.map fun member => (member.1, redactMember environment member) := by
  induction members with
  | nil => rw [redactObject, List.map_nil]
  | cons member members ih =>
      rw [redactObject, ih, List.map_cons]
      rfl

/-! ### What is left of a value -/

/-- What stands under sensitive keys has no part in the result. -/
theorem redactValue_eq_of_alike {value value' : JsonValue} (alike : value.Alike sensitive value') :
    redactValue environment value = redactValue environment value' := by
  rw [JsonValue.Alike] at alike
  induction value using JsonValue.induct generalizing value' with
  | null | bool b | number n | string text =>
      cases value' <;> simp_all [JsonValue.Matches]
  | array values ih =>
      cases value' with
      | null | bool b | number n | string text | object members => simp [JsonValue.Matches] at alike
      | array values' =>
          rw [JsonValue.Matches] at alike
          rw [redactValue, redactValue, redactValues_eq, redactValues_eq,
            JsonValue.map_eq_of_matchesAll (fun value member value' same => ih value member same)
              alike]
  | object members ih =>
      cases value' with
      | null | bool b | number n | string text | array values => simp [JsonValue.Matches] at alike
      | object members' =>
          rw [JsonValue.Matches] at alike
          rw [redactValue, redactValue, redactObject_eq, redactObject_eq,
            JsonValue.map_eq_of_matchesMembers (fun member there value' same => ?_) alike]
          rw [redactMember, redactMember]
          rcases same with hidden | same
          · rw [if_pos hidden, if_pos hidden]
          · rw [ih member there same]

/-- Outside sensitive keys only texts change. -/
theorem redactValue_matches (value : JsonValue) :
    value.Matches sensitive (fun text text' => text' = redactText environment text)
      (redactValue environment value) := by
  induction value using JsonValue.induct with
  | null | bool b | number n | string text => simp [redactValue, JsonValue.Matches]
  | array values ih =>
      rw [redactValue, JsonValue.Matches, redactValues_eq]
      exact JsonValue.matchesAll_map ih
  | object members ih =>
      rw [redactValue, JsonValue.Matches, redactObject_eq]
      refine JsonValue.matchesMembers_map fun member there => ?_
      rw [redactMember]
      split
      · rename_i hidden
        exact .inl hidden
      · exact .inr (ih member there)

theorem redactValue_conceals (value : JsonValue) :
    JsonValue.Conceals sensitive placeholder (redactValue environment value) := by
  induction value using JsonValue.induct with
  | null | bool b | number n | string text => simp [redactValue, JsonValue.Conceals]
  | array values ih =>
      rw [redactValue, JsonValue.Conceals, redactValues_eq, JsonValue.concealsAll_iff]
      simpa using ih
  | object members ih =>
      rw [redactValue, JsonValue.Conceals, redactObject_eq, JsonValue.concealsMembers_iff,
        List.forall_mem_map]
      intro member there
      rw [redactMember]
      split
      · rfl
      · exact ih member there

/-- A map stays one. -/
theorem redactValue_sorted {value : JsonValue} (sorted : value.Sorted) :
    (redactValue environment value).Sorted := by
  induction value using JsonValue.induct with
  | null | bool b | number n | string text => simp [redactValue, JsonValue.Sorted]
  | array values ih =>
      rw [JsonValue.Sorted, JsonValue.sortedAll_iff] at sorted
      rw [redactValue, JsonValue.Sorted, redactValues_eq, JsonValue.sortedAll_iff,
        List.forall_mem_map]
      exact fun value there => ih value there (sorted value there)
  | object members ih =>
      rw [JsonValue.Sorted, JsonValue.sortedMembers_iff] at sorted
      rw [redactValue, JsonValue.Sorted, redactObject_eq, JsonValue.sortedMembers_iff,
        List.forall_mem_map, List.map_map]
      refine ⟨sorted.1, fun member there => ?_⟩
      rw [redactMember]
      split
      · simp [placeholder, JsonValue.Sorted]
      · exact ih member there (sorted.2 member there)

end

theorem malformed_conceals : JsonValue.Conceals sensitive placeholder malformedLogLine := by
  have kind : sensitive "kind".toList = false := by decide
  rw [malformedLogLine, JsonValue.Conceals, JsonValue.concealsMembers_iff,
    List.forall_mem_singleton, kind]
  simp [JsonValue.Conceals]

/-- Values that differ only under sensitive keys are redacted to one value. It has the keys, lengths
and other scalars of the value outside sensitive keys, its maps are maps again, and under these
keys, at any depth, stands the placeholder. So it does after the second redaction, and in every
value that a bundle has for a line of the logs. -/
theorem redaction (environment environment' : Environment) :
    (∀ value value' : JsonValue, value.Alike sensitive value' →
      redactValue environment value = redactValue environment value') ∧
    (∀ value : JsonValue,
      value.Matches sensitive (fun text text' => text' = redactText environment text)
        (redactValue environment value) ∧
      (value.Sorted → (redactValue environment value).Sorted)) ∧
    (∀ value : JsonValue,
      JsonValue.Conceals sensitive placeholder (redactValue environment value) ∧
      JsonValue.Conceals sensitive placeholder
        (redactValue environment' (redactValue environment value))) ∧
    ∀ (timestampUnixMs createdUnixMs : UInt64) (kind : List Char)
      (fromStr : List Char → Option JsonValue) (toVec : JsonValue → Line),
      (∀ value value' : JsonValue, value.Alike sensitive value' →
        event environment timestampUnixMs kind value =
          event environment timestampUnixMs kind value') ∧
      ∀ line, ∃ value : JsonValue, JsonValue.Conceals sensitive placeholder value ∧
        bundleLine (jsonSerde environment' fromStr toVec createdUnixMs) line =
          (toVec value).record := by
  refine ⟨fun value value' alike => redactValue_eq_of_alike environment alike,
    fun value => ⟨redactValue_matches environment value, redactValue_sorted environment⟩,
    fun value => ⟨redactValue_conceals environment value, redactValue_conceals environment' _⟩,
    fun timestampUnixMs createdUnixMs kind fromStr toVec =>
      ⟨fun value value' alike => ?_, fun line => ?_⟩⟩
  · rw [event, event, redactValue_eq_of_alike environment alike]
  · cases read : fromStr line with
    | none =>
        refine ⟨malformedLogLine, malformed_conceals, ?_⟩
        simp [bundleLine, jsonSerde, read]
    | some value =>
        refine ⟨redactValue environment' value, redactValue_conceals environment' value, ?_⟩
        simp [bundleLine, jsonSerde, read]

/-- A list of devices with one in it. -/
def devices (serial : String) : JsonValue :=
  .array [.object [("device_serial".toList, .string serial.toList),
    ("port".toList, .number (.posInt 5037))]]

theorem redaction_serial : redactValue (fun _ => none) (devices "1WMHH815") =
    redactValue (fun _ => none) (devices "2G0YC5ZG") := by
  have serial : sensitive "device_serial".toList = true := by decide +kernel
  refine (redaction (fun _ => none) fun _ => none).1 _ _ ?_
  simp only [devices, JsonValue.Alike, JsonValue.Matches, JsonValue.MatchesAll,
    JsonValue.MatchesMembers, serial, true_or, or_true, and_self]

/-- A key of the tests of the source, and one that names a kind of error only. -/
example : sensitive "remoteAddress".toList = true ∧ sensitive "error_kind".toList = false := by
  decide

end QuestVdWired.Host.Diagnostics
