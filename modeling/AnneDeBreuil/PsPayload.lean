import AnneDeBreuil.PsEnvelope
import AnneDeBreuil.Utf8Lossy

namespace AnneDeBreuil

def supportedSchemaVersion : UInt32 := 2

def supportedSchemaName : String := "windows-listening-surface"

def depthTruncationMarkers : List String :=
  ["System.Object[]", "System.Collections.Hashtable", "Microsoft.Management.Infrastructure.CimInstance",
    "System.Management.Automation.PSCustomObject"]

structure JsonError where
  display : String
  column : Nat

/-- `serde_json`, which reads a text to a value, and has an error for a text whose
value is not of the type asked for; and the `Debug` text of a `str`. -/
structure PayloadCrates where
  read : String → Except JsonError Json
  mismatch : String → JsonError
  debug : Utf8 → String

/-- The bytes passed over are those within a character. -/
def charBoundaryAtOrAfter (text : Utf8) (index : Nat) : Nat :=
  index + ((text.drop index).takeWhile isContinuation).length

def errorContextRadius : Nat := 200

def contextWindow (text : Utf8) (index : Nat) : Utf8 :=
  let start := charBoundaryAtOrAfter text (index - errorContextRadius)
  let stop := charBoundaryAtOrAfter text (min (index + errorContextRadius) text.length)
  (text.take stop).drop start

def byteOrderMark : Utf8 := [0xEF, 0xBB, 0xBF]

def stripBom (bytes : Utf8) : Utf8 := if byteOrderMark <+: bytes then bytes.drop 3 else bytes

def decodePayloadText (bytes : Utf8) : String :=
  match fromUtf8 bytes with
  | some text => text
  | none => String.ofList (fromUtf8Lossy none bytes)

section

variable (crates : PayloadCrates)

/-- A marker anywhere in the text is taken for a truncation. -/
def rejectIfDepthTruncated (text : String) : Except String Unit :=
  match depthTruncationMarkers.find? fun marker => strContains text.toList marker.toList with
  | none => .ok ()
  | some marker =>
    let markerIndex := (strFind marker.toList text.toList).getD 0
    let context := contextWindow (utf8 text) markerIndex
    .error ("payload looks truncated by insufficient -Depth (found " ++ crates.debug (utf8 marker) ++
      " where structured data was expected); context: " ++ crates.debug context)

def describeJsonError (text : String) (source : JsonError) : String :=
  source.display ++ " near: " ++ crates.debug (contextWindow (utf8 text) (source.column - 1))

/-- `serde_json::from_str` at the envelope's type. -/
def PsPayload.fromStr (text : String) : Except JsonError PsPayload :=
  (crates.read text).bind fun v =>
    match PsPayload.deserialize v with
    | none => .error (crates.mismatch text)
    | some envelope => .ok envelope

def PsPayload.intoPayload (envelope : PsPayload) : PowerShellPayload where
  languageMode := (envelope.metadata.map PsMetadata.languageMode).getD .full
  tcpEndpoints := envelope.tcpEndpoints.map (PsSocketEndpoint.intoRawEndpoint "tcp")
  udpEndpoints := envelope.udpEndpoints.map (PsSocketEndpoint.intoRawEndpoint "udp")
  processes := envelope.processes.map PsProcess.intoRawProcess
  services := envelope.services.map PsService.intoHosted
  firewallRules := envelope.firewallRules.map PsFirewallRule.intoRawRule
  firewallProfiles := envelope.firewallProfiles

/-- The error is the text of a `CollectError::Parse`. -/
def parsePayload (bytes : Utf8) : Except String PowerShellPayload := do
  let stripped := stripBom bytes
  let text := decodePayloadText stripped
  rejectIfDepthTruncated crates text
  let envelope ← (PsPayload.fromStr crates text).mapError (describeJsonError crates text)
  if envelope.schemaName ≠ supportedSchemaName then
    throw ("unsupported schema_name " ++ crates.debug (utf8 envelope.schemaName) ++ " (expected " ++
      crates.debug (utf8 supportedSchemaName) ++ ")")
  if envelope.schemaVersion ≠ supportedSchemaVersion then
    throw ("unsupported schema_version " ++ toString envelope.schemaVersion ++ " (this parser supports only version " ++
      toString supportedSchemaVersion ++ ")")
  return envelope.intoPayload

end

/-- No string of an envelope's JSON has a marker in it. -/
def PsPayload.Unmarked (envelope : PsPayload) : Prop :=
  ∀ text ∈ envelope.toJson.strings, ∀ marker ∈ depthTruncationMarkers, ¬ marker.toList <:+: text.toList

instance (envelope : PsPayload) : Decidable envelope.Unmarked :=
  inferInstanceAs (Decidable (∀ text ∈ envelope.toJson.strings, ∀ marker ∈ depthTruncationMarkers,
    ¬ marker.toList <:+: text.toList))

theorem depthTruncationMarkers_printable :
    ∀ marker ∈ depthTruncationMarkers, ∃ first rest, marker.toList = first :: rest ∧ Printable first rest := by
  intro marker hmarker
  simp only [depthTruncationMarkers, List.mem_cons, List.not_mem_nil, or_false] at hmarker
  rcases hmarker with rfl | rfl | rfl | rfl
  · exact ⟨_, _, rfl, .of_all (by decide) (by decide)⟩
  · exact ⟨_, _, rfl, .of_all (by decide) (by decide)⟩
  · exact ⟨_, _, rfl, .of_all (by decide) (by decide)⟩
  · exact ⟨_, _, rfl, .of_all (by decide) (by decide)⟩

theorem rejectIfDepthTruncated_ok (crates : PayloadCrates) (text : String) :
    rejectIfDepthTruncated crates text = .ok () ↔ ∀ marker ∈ depthTruncationMarkers, ¬ marker.toList <:+: text.toList := by
  unfold rejectIfDepthTruncated
  generalize depthTruncationMarkers = markers
  cases hfind : markers.find? fun marker => strContains text.toList marker.toList with
  | none =>
    refine iff_of_true rfl ?_
    intro marker hmarker stands
    exact List.find?_eq_none.mp hfind marker hmarker (strContains_iff.mpr stands)
  | some marker =>
    refine iff_of_false nofun ?_
    intro unmarked
    have found := List.find?_some (p := fun marker : String => strContains text.toList marker.toList) hfind
    exact unmarked marker (List.mem_of_find?_eq_some hfind) (strContains_iff.mp found)

/-- A marker stands in an envelope's text exactly if one of its strings has it. -/
theorem unmarked_iff (envelope : PsPayload) :
    (∀ marker ∈ depthTruncationMarkers, ¬ marker.toList <:+: envelope.toJson.print.toList) ↔ envelope.Unmarked := by
  have scan : ∀ marker ∈ depthTruncationMarkers, marker.toList <:+: envelope.toJson.print.toList ↔
      ∃ text ∈ envelope.toJson.strings, marker.toList <:+: text.toList := by
    intro marker hmarker
    obtain ⟨first, rest, hchars, printable⟩ := depthTruncationMarkers_printable marker hmarker
    rw [hchars]
    exact Json.infix_print_iff printable envelope.toJson
  constructor
  · intro unmarked text htext marker hmarker stands
    exact unmarked marker hmarker ((scan marker hmarker).mpr ⟨text, htext, stands⟩)
  · intro unmarked marker hmarker stands
    obtain ⟨text, htext, hmarked⟩ := (scan marker hmarker).mp stands
    exact unmarked text htext marker hmarker hmarked

theorem stripBom_optional {text : Utf8} (opens : ¬ byteOrderMark <+: text) (bom : Bool) :
    stripBom ((if bom then byteOrderMark else []) ++ text) = text := by
  cases bom with
  | true =>
    rw [if_pos rfl, stripBom, if_pos (List.prefix_append ..)]
    rfl
  | false => rw [if_neg Bool.false_ne_true, List.nil_append, stripBom, if_neg opens]

/-- An object's text begins with a brace. -/
theorem not_bom_print (members : List (String × Json)) : ¬ byteOrderMark <+: utf8 (Json.obj members).print := by
  have chars : (Json.obj members).print.toList =
      '{' :: (Json.memberTokens true members ++ [JsonToken.endObject]).flatMap JsonToken.text := by
    rw [Json.print, String.toList_ofList, Json.tokens]
    rfl
  have brace : String.utf8EncodeChar '{' = [0x7B] := by decide
  rw [utf8, chars, List.flatMap_cons, brace, byteOrderMark, List.singleton_append, List.cons_prefix_cons]
  exact fun h => absurd h.1 (by decide)

theorem PsPayload.fromStr_print {crates : PayloadCrates} {envelope : PsPayload}
    (decodes : crates.read envelope.toJson.print = .ok envelope.toJson) :
    PsPayload.fromStr crates envelope.toJson.print = .ok envelope := by
  rw [PsPayload.fromStr, decodes, Except.bind, PsPayload.deserialize_toJson]

/-- What becomes of a text that `serde_json` reads to an envelope. -/
theorem parsePayload_eq {crates : PayloadCrates} {bytes : Utf8} {text : String} {envelope : PsPayload}
    (decoded : decodePayloadText (stripBom bytes) = text) (read : PsPayload.fromStr crates text = .ok envelope)
    (name : envelope.schemaName = supportedSchemaName) (version : envelope.schemaVersion = supportedSchemaVersion) :
    parsePayload crates bytes = (rejectIfDepthTruncated crates text).map fun _ => envelope.intoPayload := by
  unfold parsePayload
  dsimp only
  rw [decoded, read, Except.mapError]
  cases rejectIfDepthTruncated crates text with
  | error message => rfl
  | ok _ => simp [name, version, Except.map, bind, Except.bind, pure, Except.pure]

theorem parsePayload_print {crates : PayloadCrates} {envelope : PsPayload} (name : envelope.schemaName = supportedSchemaName)
    (version : envelope.schemaVersion = supportedSchemaVersion)
    (decodes : crates.read envelope.toJson.print = .ok envelope.toJson) (bom : Bool) :
    parsePayload crates ((if bom then byteOrderMark else []) ++ utf8 envelope.toJson.print) = .ok envelope.intoPayload ↔
      envelope.Unmarked := by
  have decoded : decodePayloadText (stripBom ((if bom then byteOrderMark else []) ++ utf8 envelope.toJson.print)) =
      envelope.toJson.print := by
    have opens : ¬ byteOrderMark <+: utf8 envelope.toJson.print := not_bom_print envelope.members
    rw [stripBom_optional opens, decodePayloadText, fromUtf8_utf8]
  rw [parsePayload_eq decoded (PsPayload.fromStr_print decodes) name version, ← unmarked_iff,
    ← rejectIfDepthTruncated_ok crates]
  cases rejectIfDepthTruncated crates envelope.toJson.print with
  | error message => exact iff_of_false nofun nofun
  | ok _ => exact iff_of_true rfl rfl

/-- The payload of a well-formed envelope is read exactly if no string of it has
a marker in it. -/
theorem parsePayload_iff (crates : PayloadCrates) (envelope : PsPayload) (name : envelope.schemaName = "windows-listening-surface")
    (version : envelope.schemaVersion = 2) (decodes : crates.read envelope.toJson.print = .ok envelope.toJson) (bom : Bool) :
    parsePayload crates ((if bom then [0xEF, 0xBB, 0xBF] else []) ++ utf8 envelope.toJson.print) =
        .ok envelope.intoPayload ↔
      ∀ text ∈ envelope.toJson.strings, ∀ marker ∈ depthTruncationMarkers, ¬ marker.toList <:+: text.toList :=
  parsePayload_print name version decodes bom

/-- An envelope of one process, with a command line of its own choice. -/
def oneProcess (commandLine : String) : PsPayload where
  schemaName := "windows-listening-surface"
  schemaVersion := 2
  metadata := some ⟨.full, "5.1"⟩
  collectionStatus := [("processes", ⟨"success", 1⟩)]
  diagnostics := []
  listeningSurface := []
  tcpEndpoints := [⟨"0.0.0.0", 443, some 1048⟩]
  udpEndpoints := []
  processes := [⟨1048, none, some commandLine⟩]
  services := []
  firewallRules := []
  firewallProfiles := []

/-- A reader of one envelope's text. -/
def readerOf (envelope : PsPayload) : PayloadCrates where
  read text := if text = envelope.toJson.print then .ok envelope.toJson else .error ⟨"expected value at line 1 column 1", 1⟩
  mismatch _ := ⟨"invalid type at line 1 column 1", 1⟩
  debug bytes := String.ofList (JsonToken.str ((fromUtf8 bytes).getD "")).text

theorem readerOf_reads (envelope : PsPayload) : (readerOf envelope).read envelope.toJson.print = .ok envelope.toJson :=
  if_pos rfl

theorem parsePayload_iff_plain :
    parsePayload (readerOf (oneProcess "nginx -c \"C:\\nginx\\nginx.conf\""))
        ([0xEF, 0xBB, 0xBF] ++ utf8 (oneProcess "nginx -c \"C:\\nginx\\nginx.conf\"").toJson.print) =
      .ok (oneProcess "nginx -c \"C:\\nginx\\nginx.conf\"").intoPayload :=
  (parsePayload_iff (readerOf _) _ rfl rfl (readerOf_reads _) true).mpr (by decide)

/-- One marked string has the whole payload rejected. -/
theorem parsePayload_marked {envelope : PsPayload} (name : envelope.schemaName = supportedSchemaName)
    (version : envelope.schemaVersion = supportedSchemaVersion) (text marker : String)
    (htext : text ∈ envelope.toJson.strings) (hmarker : marker ∈ depthTruncationMarkers) (stands : marker.toList <:+: text.toList) :
    parsePayload (readerOf envelope) (utf8 envelope.toJson.print) ≠ .ok envelope.intoPayload := by
  intro accepted
  have read := parsePayload_print name version (readerOf_reads envelope) false
  rw [if_neg Bool.false_ne_true, List.nil_append] at read
  exact read.mp accepted text htext marker hmarker stands

/-- A process that names a .NET type on its command line has the host's payload
rejected. -/
theorem parsePayload_counterexample :
    (readerOf (oneProcess "echo System.Object[]")).read (oneProcess "echo System.Object[]").toJson.print =
        .ok (oneProcess "echo System.Object[]").toJson ∧
      parsePayload (readerOf (oneProcess "echo System.Object[]")) (utf8 (oneProcess "echo System.Object[]").toJson.print) ≠
        .ok (oneProcess "echo System.Object[]").intoPayload :=
  ⟨readerOf_reads _, parsePayload_marked rfl rfl "echo System.Object[]" "System.Object[]" (by decide) (by decide)
    (by decide)⟩

end AnneDeBreuil
