import Pactra.Adapters.Commerce

/-!
# MCP tool calls

`services/adapters/tools/mcp.py`: a JSON-RPC `tools/call` request becomes a candidate operation. The
envelope and its params have a fixed shape, so a member that they do not define is refused. The
arguments are the tool's own and are carried onto the candidate.

## Main results

- `Mcp.contained_translatePayload` — the requests of which a translation does not end in a refusal
- `Mcp.CallRead` — every member of a request is read into its place
- `Mcp.translatePayload_ok` — what a translation keeps
-/

namespace Pactra

namespace Adapters

namespace Mcp

open Wire (names)

/-- `DESCRIPTOR`. -/
def descriptor : AdapterDescriptor where
  adapterId := "mcp.tools-call.v1"
  family := .tool
  protocolName := "MCP"
  supportedProtocolVersions := ["2024-11-05", "2025-03-26", "2025-06-18"]
  adapterVersion := "pactra-mcp-tools-call-v1"

/-- `JSONRPC_ENVELOPE_MEMBERS`. -/
def envelopeMembers : List PyStr := ["jsonrpc", "id", "method", "params"]

/-- `TOOLS_CALL_PARAMS_MEMBERS`. -/
def paramsMembers : List PyStr := ["name", "arguments", "_meta"]

/-- `TOOL_NAMES`. -/
def toolNames : List (PyStr × CandidateOperationType) :=
  [("pactra.catalog.search", .catalogSearch), ("pactra.merchant.discover", .merchantDiscover),
   ("pactra.offer.request", .offerRequest), ("pactra.offer.rank", .offerRank),
   ("pactra.purchase.propose", .purchasePropose)]

/-- `MAX_ARGUMENTS`. -/
def maxArguments : Nat := 32

/-- `MAX_ARGUMENT_STRING`. -/
def maxArgumentString : Nat := 2000

/-- The members that an object of a fixed shape does not define, in order. -/
def unexpectedMembers (defined : List PyStr) (members : List (PyStr × Value)) : List PyStr :=
  ((names members).filter fun name => decide (name ∉ defined)).insertionSort (· ≤ ·)

/-- `UnsupportedOperation`. -/
def unsupportedOperation {α : Type} (rt : Runtime) (requested : PyStr) : Except Failure α :=
  refuse .unsupportedOperation
    ("adapter " ++ rt.repr descriptor.adapterId ++ " exposes no canonical operation named "
      ++ rt.repr requested)

/-- The envelope has no members but its own. -/
def checkEnvelope (message : List (PyStr × Value)) : Except Failure Unit :=
  let unexpected := unexpectedMembers envelopeMembers message
  if unexpected.isEmpty then pure ()
  else
    malformed ("JSON-RPC request carries undefined envelope member(s): " ++ joinComma unexpected
      ++ ". A JSON-RPC envelope has a fixed shape, so an unknown member is a malformed message "
      ++ "rather than extension metadata, and is refused rather than ignored.")

/-- The version of JSON-RPC. -/
def checkJsonrpc (rt : Runtime) (message : List (PyStr × Value)) : Except Failure Unit :=
  match memberAt message "jsonrpc" with
  | some (.str declared) => if declared = "2.0" then pure () else mismatch (.str declared)
  | some declared => mismatch declared
  | none => mismatch .null
where
  mismatch (declared : Value) : Except Failure Unit :=
    refuse .protocolMismatch
      ("MCP is JSON-RPC 2.0; payload declares " ++ rt.reprValue declared)

/-- The id of the request. -/
def checkRequestId (message : List (PyStr × Value)) : Except Failure Unit :=
  match memberAt message "id" with
  | some (.str _) => pure ()
  | some (.int _) => pure ()
  | _ =>
    malformed ("MCP tools/call is a JSON-RPC request and requires a string or integer 'id'; "
      ++ "null, booleans, floats and missing ids are refused")

/-- The method of the request. -/
def checkMethod (rt : Runtime) (message : List (PyStr × Value)) : Except Failure Unit :=
  match memberAt message "method" with
  | some (.str method) =>
    if method = "tools/call" then pure () else unsupportedOperation rt method
  | _ => malformed "MCP request has no string 'method'"

/-- `message.get(key)`. -/
def memberOf (members : List (PyStr × Value)) (key : String) : Value :=
  (memberAt members key).getD .null

/-- The params have no members but their own, and no `_meta`. -/
def checkParams (params : List (PyStr × Value)) : Except Failure Unit :=
  let unexpected := unexpectedMembers paramsMembers params
  if !unexpected.isEmpty then
    malformed ("tools/call params carries undefined member(s): " ++ joinComma unexpected)
  else if ("_meta" : PyStr) ∈ names params then
    malformed ("MCP tools/call params._meta is defined by MCP but is not supported by this partial "
      ++ "translation boundary; it is refused rather than ignored")
  else pure ()

/-- The tool that is called, and its operation. -/
def readTool (rt : Runtime) (params : List (PyStr × Value)) :
    Except Failure (PyStr × CandidateOperationType) :=
  match memberAt params "name" with
  | some (.str toolName) =>
    if toolName = "" then malformed "MCP tools/call params has no string 'name'"
    else
      match toolNames.lookup toolName with
      | none => unsupportedOperation rt toolName
      | some operation => pure (toolName, operation)
  | _ => malformed "MCP tools/call params has no string 'name'"

/-- `params.get("arguments", {})`, with `{}` for null. -/
def rawArguments (params : List (PyStr × Value)) : Value :=
  match memberAt params "arguments" with
  | none => .obj []
  | some .null => .obj []
  | some v => v

/-- `_normalize_argument`. -/
def normalizeArgument (rt : Runtime) (name : PyStr) (value : Value) : Except Failure Value :=
  match value with
  | .str s =>
    if maxArgumentString < s.length then
      malformed ("argument " ++ rt.repr name ++ " is " ++ toString s.length
        ++ " characters, above the " ++ toString maxArgumentString ++ "-character limit")
    else pure (.str s)
  | .arr items =>
    if allTexts items then pure (.arr items)
    else
      malformed ("argument " ++ rt.repr name ++ " is a list containing non-string items; "
        ++ "only lists of strings are accepted")
  | .obj _ =>
    malformed ("argument " ++ rt.repr name ++ " has unsupported type dict; nested objects are "
      ++ "refused rather than flattened, because flattening would move keys out of reach of the "
      ++ "reserved-field check")
  | v => pure v

/-- The arguments, one after the other. -/
def normalizeArguments (rt : Runtime) :
    List (PyStr × Value) → Except Failure (List (PyStr × Value))
  | [] => pure []
  | (name, value) :: rest => do
    let kept ← normalizeArgument rt name value
    let others ← normalizeArguments rt rest
    pure ((name, kept) :: others)

/-- The arguments of a call. -/
def readArguments (rt : Runtime) (params : List (PyStr × Value)) :
    Except Failure (List (PyStr × Value)) := do
  let arguments ← requireObject (rawArguments params) "MCP tools/call 'arguments'"
  if maxArguments < arguments.length then
    malformed ("tool call carries " ++ toString arguments.length ++ " arguments, above the "
      ++ toString maxArguments ++ " limit")
  else do
    guardPayloadKeys rt arguments
    normalizeArguments rt (sortedItems arguments)

/-- Everything before the warning: the candidate. -/
def readCall (rt : Runtime) (payload : Value) : Except Failure CandidateOperation := do
  let message ← requireObject payload "an MCP request"
  guardPayloadKeys rt message
  checkEnvelope message
  checkJsonrpc rt message
  checkRequestId message
  checkMethod rt message
  let params ← requireObject (memberOf message "params") "MCP tools/call 'params'"
  guardPayloadKeys rt params
  checkParams params
  let (toolName, operation) ← readTool rt params
  let arguments ← readArguments rt params
  pure { operation := operation, claimedToolName := toolName, arguments := arguments }

/-- The text of the warning that the caller is not authenticated. -/
def identityDetail (rt : Runtime) (claimedId : String) : String :=
  "the MCP caller claimed to be " ++ rt.repr claimedId
    ++ "; PACTRA authenticates no protocol channel, so this is a claim and the operation still "
    ++ "requires a server-resolved principal"

/-- The keys that get provenance. -/
def provenanceKeys (c : CandidateOperation) : List PyStr :=
  (["operation", "claimed_tool_name"] : List PyStr) ++ (names c.arguments).map argumentKey

/-- `translate_payload`. -/
def translatePayload (rt : Runtime) (source : SourceIdentity) (payload : Value) :
    Except Failure TranslationResult := do
  let candidate ← readCall rt payload
  let warning ← adapterWarning .claimedIdentityNotAuthenticated
    (identityDetail rt source.claimedId)
  pure
    { canonicalPayload := .operation candidate
      provenance := marked (provenanceSource descriptor.adapterId source.claimedId)
        (provenanceKeys candidate)
      warnings := [warning] }

-- ════════════════════════════════════════════════════════════════════════
-- Refusals
-- ════════════════════════════════════════════════════════════════════════

section Refusals

variable {rt : Runtime} {members : List (PyStr × Value)}

@[simp] lemma contained_unsupportedOperation {α : Type} (requested : PyStr) :
    Contained (unsupportedOperation rt requested : Except Failure α) :=
  contained_refuse _ _

lemma contained_checkEnvelope : Contained (checkEnvelope members) := by
  unfold checkEnvelope
  dsimp only
  split
  · exact contained_pure _
  · exact contained_malformed _

lemma contained_checkJsonrpc : Contained (checkJsonrpc rt members) := by
  unfold checkJsonrpc
  split
  · split
    · exact contained_pure _
    · exact contained_refuse _ _
  · exact contained_refuse _ _
  · exact contained_refuse _ _

lemma contained_checkRequestId : Contained (checkRequestId members) := by
  unfold checkRequestId
  split
  · exact contained_pure _
  · exact contained_pure _
  · exact contained_malformed _

lemma contained_checkMethod : Contained (checkMethod rt members) := by
  unfold checkMethod
  split
  · split
    · exact contained_pure _
    · exact contained_unsupportedOperation _
  · exact contained_malformed _

lemma contained_checkParams : Contained (checkParams members) := by
  unfold checkParams
  dsimp only
  split_ifs
  · exact contained_malformed _
  · exact contained_malformed _
  · exact contained_pure _

lemma contained_readTool : Contained (readTool rt members) := by
  unfold readTool
  split
  · split
    · exact contained_malformed _
    · split
      · exact contained_unsupportedOperation _
      · exact contained_pure _
  · exact contained_malformed _

lemma contained_normalizeArgument (name : PyStr) (value : Value) :
    Contained (normalizeArgument rt name value) := by
  unfold normalizeArgument
  split
  · split
    · exact contained_malformed _
    · exact contained_pure _
  · split
    · exact contained_pure _
    · exact contained_malformed _
  · exact contained_malformed _
  · exact contained_pure _

lemma contained_normalizeArguments : Contained (normalizeArguments rt members) := by
  induction members with
  | nil => exact contained_pure _
  | cons p rest ih =>
    exact (contained_normalizeArgument p.1 p.2).bind fun _ _ =>
      ih.bind fun _ _ => contained_pure _

lemma contained_readArguments : Contained (readArguments rt members) := by
  refine (contained_requireObject _ _).bind fun arguments _ => ?_
  split
  · exact contained_malformed _
  · exact (contained_guardPayloadKeys _).bind fun _ _ => contained_normalizeArguments

lemma contained_readCall (payload : Value) : Contained (readCall rt payload) :=
  (contained_requireObject _ _).bind fun _ _ => (contained_guardPayloadKeys _).bind fun _ _ =>
    contained_checkEnvelope.bind fun _ _ => contained_checkJsonrpc.bind fun _ _ =>
    contained_checkRequestId.bind fun _ _ => contained_checkMethod.bind fun _ _ =>
    (contained_requireObject _ _).bind fun _ _ => (contained_guardPayloadKeys _).bind fun _ _ =>
    contained_checkParams.bind fun _ _ => contained_readTool.bind fun _ _ =>
    contained_readArguments.bind fun _ _ => contained_pure _

/-- A call that passes every check, of a caller whose claimed identity is too long for the warning
that names it. -/
def Escapes (rt : Runtime) (source : SourceIdentity) (payload : Value) : Prop :=
  (∃ candidate, readCall rt payload = .ok candidate) ∧
    400 < (identityDetail rt source.claimedId).length

/-- The only way in which a translation does not end in a refusal. -/
lemma contained_translatePayload {source : SourceIdentity} {payload : Value} :
    Contained (translatePayload rt source payload) ↔ ¬Escapes rt source payload := by
  have hidentity : 1 ≤ (identityDetail rt source.claimedId).length := by
    have hstart : 1 ≤ "the MCP caller claimed to be ".length := by decide
    exact one_le_length_append (one_le_length_append (one_le_length_append hstart))
  unfold translatePayload Escapes
  simp only [contained_bind, contained_readCall, contained_pure, implies_true, and_true, true_and]
  rcases adapterWarning_cases .claimedIdentityNotAuthenticated hidentity with
    ⟨hshort, warning, hok⟩ | ⟨hlong, herror⟩
  · simp [hok, Nat.not_lt.mpr hshort]
  · simp only [herror, not_contained_escaped, hlong, and_true, not_exists]

-- ════════════════════════════════════════════════════════════════════════
-- Results
-- ════════════════════════════════════════════════════════════════════════

lemma unexpectedMembers_isEmpty {defined : List PyStr}
    (h : (unexpectedMembers defined members).isEmpty = true) :
    ∀ name ∈ names members, name ∈ defined := by
  rw [List.isEmpty_iff, ← List.length_eq_zero_iff, unexpectedMembers, List.length_insertionSort,
    List.length_eq_zero_iff, List.filter_eq_nil_iff] at h
  intro name hname
  simpa using h name hname

lemma checkEnvelope_ok (h : checkEnvelope members = .ok ()) :
    ∀ name ∈ names members, name ∈ envelopeMembers := by
  unfold checkEnvelope at h
  dsimp only at h
  split at h
  · next hempty => exact unexpectedMembers_isEmpty hempty
  · cases h

/-- The members of params that are read. -/
def callMembers : List PyStr := ["name", "arguments"]

/-- The only members of params that passed are the tool and its arguments. -/
lemma checkParams_ok (h : checkParams members = .ok ()) :
    ∀ name ∈ names members, name ∈ callMembers := by
  unfold checkParams at h
  dsimp only at h
  split at h
  · cases h
  · next hunexpected =>
    split at h
    · cases h
    · next hmeta =>
      intro name hname
      have hdefined := unexpectedMembers_isEmpty (by simpa using hunexpected) name hname
      have hother : name ≠ ("_meta" : PyStr) := by
        rintro rfl
        exact hmeta hname
      simp only [paramsMembers, List.mem_cons, List.not_mem_nil, or_false] at hdefined
      simp only [callMembers, List.mem_cons, List.not_mem_nil, or_false]
      tauto

/-- An argument is kept as it is. -/
lemma normalizeArgument_ok {name : PyStr} {value kept : Value}
    (h : normalizeArgument rt name value = .ok kept) : kept = value := by
  unfold normalizeArgument at h
  split at h
  · split at h
    · cases h
    · exact (Except.ok.inj h).symm
  · split at h
    · exact (Except.ok.inj h).symm
    · cases h
  · cases h
  · exact (Except.ok.inj h).symm

lemma normalizeArguments_ok {kept : List (PyStr × Value)}
    (h : normalizeArguments rt members = .ok kept) : kept = members := by
  induction members generalizing kept with
  | nil => exact (Except.ok.inj h).symm
  | cons p rest ih =>
    obtain ⟨name, value⟩ := p
    obtain ⟨first, hfirst, h⟩ := bind_ok.mp h
    obtain ⟨others, hothers, hpure⟩ := bind_ok.mp h
    cases hpure
    rw [normalizeArgument_ok hfirst, ih hothers]

/-- A candidate operation says what the params of a call state. -/
structure ParamsRead (rt : Runtime) (params : List (PyStr × Value)) (c : CandidateOperation) :
    Prop where
  guarded : guardPayloadKeys rt params = .ok ()
  shape : Lossless callMembers params []
  name : memberAt params "name" = some (.str c.claimedToolName)
  operation : toolNames.lookup c.claimedToolName = some c.operation
  arguments : ∃ arguments, (memberAt params "arguments" = some (.obj arguments) ∨
      Absent params "arguments" ∧ arguments = []) ∧
    guardPayloadKeys rt arguments = .ok () ∧ Lossless [] arguments c.arguments

/-- A candidate operation says what a request states. The envelope holds nothing but the fixed
version and method, an id and the params. -/
structure CallRead (rt : Runtime) (message : List (PyStr × Value)) (c : CandidateOperation) :
    Prop where
  guarded : guardPayloadKeys rt message = .ok ()
  shape : Lossless envelopeMembers message []
  jsonrpc : memberAt message "jsonrpc" = some (.str "2.0")
  id : (∃ s, memberAt message "id" = some (.str s)) ∨ ∃ n, memberAt message "id" = some (.int n)
  method : memberAt message "method" = some (.str "tools/call")
  params : ∃ params, memberAt message "params" = some (.obj params) ∧ ParamsRead rt params c

/-- A request that was translated into a candidate operation. -/
def CallKept (rt : Runtime) (payload : Value) (candidate : CandidateOperation) : Prop :=
  ∃ message, payload = .obj message ∧ CallRead rt message candidate

/-- Nothing has to be kept of an object with no members but those that are read. -/
lemma lossless_of_fixed {known : List PyStr} (h : ∀ name ∈ names members, name ∈ known) :
    Lossless known members [] :=
  ⟨fun p hp => .inl (h p.1 (List.mem_map_of_mem hp)), fun _ hp => absurd hp List.not_mem_nil⟩

lemma checkJsonrpc_ok (h : checkJsonrpc rt members = .ok ()) :
    memberAt members "jsonrpc" = some (.str "2.0") := by
  unfold checkJsonrpc at h
  split at h
  · next declared hdeclared =>
    split at h
    · next hversion => rw [hdeclared, hversion]
    · cases h
  · cases h
  · cases h

lemma checkRequestId_ok (h : checkRequestId members = .ok ()) :
    (∃ s, memberAt members "id" = some (.str s)) ∨ ∃ n, memberAt members "id" = some (.int n) := by
  unfold checkRequestId at h
  split at h
  · next s hs => exact .inl ⟨s, hs⟩
  · next n hn => exact .inr ⟨n, hn⟩
  · cases h

lemma checkMethod_ok (h : checkMethod rt members = .ok ()) :
    memberAt members "method" = some (.str "tools/call") := by
  unfold checkMethod at h
  split at h
  · next method hmethod =>
    split at h
    · next hcall => rw [hmethod, hcall]
    · cases h
  · cases h

lemma readTool_ok {toolName : PyStr} {operation : CandidateOperationType}
    (h : readTool rt members = .ok (toolName, operation)) :
    memberAt members "name" = some (.str toolName) ∧ toolNames.lookup toolName = some operation := by
  unfold readTool at h
  split at h
  · next name hname =>
    split at h
    · cases h
    · split at h
      · cases h
      · next hlookup =>
        cases h
        exact ⟨hname, hlookup⟩
  · cases h

lemma rawArguments_obj {arguments : List (PyStr × Value)}
    (h : rawArguments members = .obj arguments) :
    memberAt members "arguments" = some (.obj arguments) ∨
      Absent members "arguments" ∧ arguments = [] := by
  unfold rawArguments at h
  split at h
  · next hnone =>
    cases h
    exact .inr ⟨.inl hnone, rfl⟩
  · next hnull =>
    cases h
    exact .inr ⟨.inr hnull, rfl⟩
  · next v _ hv =>
    rw [h] at hv
    exact .inl hv

lemma readArguments_ok {kept : List (PyStr × Value)} (h : readArguments rt members = .ok kept) :
    ∃ arguments, (memberAt members "arguments" = some (.obj arguments) ∨
        Absent members "arguments" ∧ arguments = []) ∧
      guardPayloadKeys rt arguments = .ok () ∧ Lossless [] arguments kept := by
  obtain ⟨arguments, hobject, h⟩ := bind_ok.mp h
  split at h
  · cases h
  · obtain ⟨⟨⟩, hguard, h⟩ := bind_ok.mp h
    refine ⟨arguments, rawArguments_obj (requireObject_ok.mp hobject), hguard,
      fun p hp => .inr ?_, fun p hp => ?_⟩
    · rw [normalizeArguments_ok h]
      exact mem_sortedItems.mpr hp
    · rw [normalizeArguments_ok h] at hp
      exact ⟨mem_sortedItems.mp hp, List.not_mem_nil⟩

lemma memberOf_obj {key : String} {object : List (PyStr × Value)}
    (h : memberOf members key = .obj object) : memberAt members key = some (.obj object) := by
  unfold memberOf at h
  cases hfound : memberAt members key with
  | none => simp [hfound] at h
  | some v => simpa [hfound] using h

lemma readCall_ok {payload : Value} {candidate : CandidateOperation}
    (h : readCall rt payload = .ok candidate) : CallKept rt payload candidate := by
  obtain ⟨message, hobject, h⟩ := bind_ok.mp h
  obtain ⟨⟨⟩, hguard, h⟩ := bind_ok.mp h
  obtain ⟨⟨⟩, henvelope, h⟩ := bind_ok.mp h
  obtain ⟨⟨⟩, hjsonrpc, h⟩ := bind_ok.mp h
  obtain ⟨⟨⟩, hid, h⟩ := bind_ok.mp h
  obtain ⟨⟨⟩, hmethod, h⟩ := bind_ok.mp h
  obtain ⟨params, hparams, h⟩ := bind_ok.mp h
  obtain ⟨⟨⟩, hguardParams, h⟩ := bind_ok.mp h
  obtain ⟨⟨⟩, hshape, h⟩ := bind_ok.mp h
  obtain ⟨⟨toolName, operation⟩, htool, h⟩ := bind_ok.mp h
  obtain ⟨kept, hkept, hpure⟩ := bind_ok.mp h
  cases hpure
  obtain ⟨hname, hoperation⟩ := readTool_ok htool
  exact ⟨message, requireObject_ok.mp hobject,
    { guarded := hguard
      shape := lossless_of_fixed (checkEnvelope_ok henvelope)
      jsonrpc := checkJsonrpc_ok hjsonrpc
      id := checkRequestId_ok hid
      method := checkMethod_ok hmethod
      params := ⟨params, memberOf_obj (requireObject_ok.mp hparams),
        { guarded := hguardParams
          shape := lossless_of_fixed (checkParams_ok hshape)
          name := hname
          operation := hoperation
          arguments := readArguments_ok hkept }⟩ }⟩

/-- What a translation keeps, and the provenance of all of it. -/
lemma translatePayload_ok {source : SourceIdentity} {payload : Value} {result : TranslationResult}
    (h : translatePayload rt source payload = .ok result) :
    ∃ candidate, result.canonicalPayload = .operation candidate ∧ CallKept rt payload candidate ∧
      result.provenance ≠ [] ∧ Tainted result.canonicalPayload result.provenance := by
  obtain ⟨candidate, hread, h⟩ := bind_ok.mp h
  obtain ⟨warning, -, hpure⟩ := bind_ok.mp h
  cases hpure
  exact ⟨candidate, rfl, readCall_ok hread, by simp [marked, provenanceKeys],
    tainted_marked fun _ hkey => hkey⟩

end Refusals

end Mcp

end Adapters

end Pactra
