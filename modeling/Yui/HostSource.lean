import Yui.RuntimeInboxScan
import Yui.RuntimeObservationEvent

/-!
# Host sources of inbox events

An observation event may carry what the Agent Host knows of itself: its adapter and workspace, the
process it owns and the account it runs under. `readAgentHostObservationSource` checks the source when it
is published and again when the file is read.
-/

open JsText Checked Runtime
open JsonCodec (text flag)

structure AgentHostAccount where
  home : String
  codexHome : String
  nativeAccountHome : Option String
  deriving DecidableEq

structure SessionOwner where
  scope : InboxScope
  taskId : Option String
  roleName : String
  deriving DecidableEq

structure SessionTmux where
  serverName : String
  socketPath : String
  sessionName : String
  windowName : String
  panePid : Option JsNumeric
  deriving DecidableEq

inductive ProcessAttribution where
  | panePid | ownedChild
  deriving DecidableEq

structure SessionProviderRoot where
  pid : JsNumeric
  startIdentity : String
  processGroupId : Option JsNumeric
  processSessionId : Option JsNumeric
  attribution : ProcessAttribution
  deriving DecidableEq

/-- The `schemaVersion` and `kind` of a session owner are fixed. -/
structure SessionOwnerIdentity where
  owner : SessionOwner
  agentId : String
  adapterId : String
  nativeSessionId : Option String
  tmux : SessionTmux
  providerRoot : SessionProviderRoot
  runtimeRoot : Option String
  recordedAt : String
  deriving DecidableEq

structure AgentHostConnection where
  processOwner : Option SessionOwnerIdentity
  account : Option AgentHostAccount
  deriving DecidableEq

/-- The `protocol` of a Host source is fixed. -/
structure AgentHostObservationSource where
  adapterId : String
  workspace : String
  startupRunId : Option String
  connection : Option AgentHostConnection
  deriving DecidableEq

namespace HostSource

section Checks

/-- The texts of a Host source are kept as they are. -/
def hostText (value : String) : Except String String :=
  if trim value = "" ∨ includesNul value = true ∨ 4096 < length16 value then
    .error "Agent Host observation identity is invalid."
  else .ok value

def requireText (value label : String) : Except String String :=
  requireTextWith (label ++ " is invalid.") (label ++ " is required.") value

/-- An object's own names, a path step, and path separators. -/
def isUnsafe (value : String) : Bool :=
  ["__proto__", "prototype", "constructor", ".", ".."].contains value ||
    value.toList.any fun c => c = '/' || c = '\\' || c = nul

def requireSafeIdentity (value label : String) : Except String String := do
  let normalized ← requireText value label
  if isUnsafe normalized = true then .error (label ++ " is invalid.") else .ok normalized

/-- `^[0-9]{1,32}$`. -/
def isStartIdentity (value : String) : Bool :=
  decide (1 ≤ value.toList.length) && decide (value.toList.length ≤ 32) && value.toList.all Char.isDigit

/-- `new Date(value).toISOString()`. -/
def requireDate [RuntimeHost] (value label : String) : Except String String :=
  match JsHost.dateParse value with
  | none => .error (label ++ " must be a valid date.")
  | some time => Binding.iso time

def normalizeOwner (owner : SessionOwner) : Except String SessionOwner := do
  let taskId ← onSome (fun value => requireSafeIdentity value "Task id") owner.taskId
  let roleName ← requireSafeIdentity owner.roleName "Role name"
  .ok ⟨owner.scope, taskId, roleName⟩

def normalizeTmux (tmux : SessionTmux) : Except String SessionTmux := do
  let serverName ← requireText tmux.serverName "tmux server name"
  let socketPath ← requireText tmux.socketPath "tmux socket path"
  let sessionName ← requireText tmux.sessionName "tmux session name"
  let windowName ← requireText tmux.windowName "tmux window name"
  .ok ⟨serverName, socketPath, sessionName, windowName, tmux.panePid⟩

def checkProviderRoot (root : SessionProviderRoot) : Except String Unit := do
  refuse (root.pid.isSafeFrom 1 = false) "Session owner provider root pid is invalid."
  refuse (isStartIdentity root.startIdentity = false) "Session owner provider start identity is invalid."
  refuse (root.processGroupId.all (JsNumeric.isSafeFrom 1) = false)
    "Session owner process group id is invalid."
  refuse (root.processSessionId.all (JsNumeric.isSafeFrom 1) = false)
    "Session owner process session id is invalid."

def createSessionOwnerIdentity [RuntimeHost] (input : SessionOwnerIdentity) :
    Except String SessionOwnerIdentity := do
  refuse (input.owner.scope = .task ∧ input.owner.taskId = none)
    "Task session owner requires a task id."
  refuse (input.owner.scope = .global ∧ input.owner.taskId ≠ none)
    "Global session owner must not carry a task id."
  checkProviderRoot input.providerRoot
  let owner ← normalizeOwner input.owner
  let agentId ← requireSafeIdentity input.agentId "Agent id"
  let adapterId ← requireText input.adapterId "Adapter id"
  let nativeSessionId ← onSome (fun value => requireText value "Native session id")
    input.nativeSessionId
  let tmux ← normalizeTmux input.tmux
  let recordedAt ← requireDate input.recordedAt "Recorded at"
  .ok ⟨owner, agentId, adapterId, nativeSessionId, tmux, input.providerRoot, input.runtimeRoot,
    recordedAt⟩

def normalizeAccount (account : AgentHostAccount) : Except String AgentHostAccount := do
  let home ← hostText account.home
  let codexHome ← hostText account.codexHome
  let nativeAccountHome ← onSome hostText account.nativeAccountHome
  .ok ⟨home, codexHome, nativeAccountHome⟩

def normalizeConnection [RuntimeHost] (connection : AgentHostConnection) :
    Except String AgentHostConnection := do
  let processOwner ← onSome createSessionOwnerIdentity connection.processOwner
  let account ← onSome normalizeAccount connection.account
  .ok ⟨processOwner, account⟩

def readAgentHostObservationSource [RuntimeHost] (source : AgentHostObservationSource) :
    Except String AgentHostObservationSource := do
  let adapterId ← hostText source.adapterId
  let workspace ← hostText source.workspace
  let startupRunId ← onSome hostText source.startupRunId
  let connection ← onSome normalizeConnection source.connection
  .ok ⟨adapterId, workspace, startupRunId, connection⟩

end Checks

section Stable

theorem requireText_stable (label : String) : Stable fun value => requireText value label := by
  intro value result h
  exact requireTextWith_of_normal (requireTextWith_normal h).1 _ _

end Stable

section Codecs

/-- A text that is always the same. -/
def literalCodec (text : String) : JsonCodec Unit where
  write _ := .str text
  read data := match data with
    | .str other => if other = text then some () else none
    | _ => none
  copy := id
  read_write _ := by simp

/-- The number one. -/
def oneCodec : JsonCodec Unit where
  write _ := .num 1
  read data := match data with
    | .num other => if other = 1 then some () else none
    | _ => none
  copy := id
  read_write _ := by simp

def scopeCodec : JsonCodec InboxScope :=
  .names [.task, .global] InboxScope.text

def attributionName : ProcessAttribution → String
  | .panePid => "pane-pid"
  | .ownedChild => "owned-child"

def attributionCodec : JsonCodec ProcessAttribution :=
  .names [.panePid, .ownedChild] attributionName

def accountMembers (value : AgentHostAccount) : List (String × Option JsonData) :=
  [text.put "home" (some value.home),
    text.put "codexHome" (some value.codexHome),
    text.put "nativeAccountHome" value.nativeAccountHome]

def readAccount (data : JsonData) : Option AgentHostAccount := do
  let home ← text.required "home" data
  let codexHome ← text.required "codexHome" data
  let nativeAccountHome ← text.optional "nativeAccountHome" data
  some ⟨home, codexHome, nativeAccountHome⟩

def accountCodec : JsonCodec AgentHostAccount where
  write value := .present (accountMembers value)
  read := readAccount
  copy := id
  read_write value := by
    have hkeys : ((accountMembers value).map Prod.fst).Nodup := of_decide_eq_true rfl
    unfold readAccount
    rw [text.required_same hkeys 0 rfl,
      text.required_same hkeys 1 rfl,
      text.optional_same hkeys 2 rfl]
    rfl

def ownerMembers (value : SessionOwner) : List (String × Option JsonData) :=
  [scopeCodec.put "scope" (some value.scope),
    text.put "taskId" value.taskId,
    text.put "roleName" (some value.roleName)]

def readOwner (data : JsonData) : Option SessionOwner := do
  let scope ← scopeCodec.required "scope" data
  let taskId ← text.optional "taskId" data
  let roleName ← text.required "roleName" data
  some ⟨scope, taskId, roleName⟩

def ownerCodec : JsonCodec SessionOwner where
  write value := .present (ownerMembers value)
  read := readOwner
  copy := id
  read_write value := by
    have hkeys : ((ownerMembers value).map Prod.fst).Nodup := of_decide_eq_true rfl
    unfold readOwner
    rw [scopeCodec.required_same hkeys 0 rfl,
      text.optional_same hkeys 1 rfl,
      text.required_same hkeys 2 rfl]
    rfl

def tmuxMembers (value : SessionTmux) : List (String × Option JsonData) :=
  [text.put "serverName" (some value.serverName),
    text.put "socketPath" (some value.socketPath),
    text.put "sessionName" (some value.sessionName),
    text.put "windowName" (some value.windowName),
    numberCodec.put "panePid" value.panePid]

def tmuxCopy (value : SessionTmux) : SessionTmux :=
  { value with
    panePid := value.panePid.map numberCodec.copy }

def readTmux (data : JsonData) : Option SessionTmux := do
  let serverName ← text.required "serverName" data
  let socketPath ← text.required "socketPath" data
  let sessionName ← text.required "sessionName" data
  let windowName ← text.required "windowName" data
  let panePid ← numberCodec.optional "panePid" data
  some ⟨serverName, socketPath, sessionName, windowName, panePid⟩

def tmuxCodec : JsonCodec SessionTmux where
  write value := .present (tmuxMembers value)
  read := readTmux
  copy := tmuxCopy
  read_write value := by
    have hkeys : ((tmuxMembers value).map Prod.fst).Nodup := of_decide_eq_true rfl
    unfold readTmux
    rw [text.required_same hkeys 0 rfl,
      text.required_same hkeys 1 rfl,
      text.required_same hkeys 2 rfl,
      text.required_same hkeys 3 rfl,
      numberCodec.optional_put hkeys 4 rfl]
    rfl

def providerRootMembers (value : SessionProviderRoot) : List (String × Option JsonData) :=
  [numberCodec.put "pid" (some value.pid),
    text.put "startIdentity" (some value.startIdentity),
    numberCodec.put "processGroupId" value.processGroupId,
    numberCodec.put "processSessionId" value.processSessionId,
    attributionCodec.put "attribution" (some value.attribution)]

def providerRootCopy (value : SessionProviderRoot) : SessionProviderRoot :=
  { value with
    pid := numberCodec.copy value.pid
    processGroupId := value.processGroupId.map numberCodec.copy
    processSessionId := value.processSessionId.map numberCodec.copy }

def readProviderRoot (data : JsonData) : Option SessionProviderRoot := do
  let pid ← numberCodec.required "pid" data
  let startIdentity ← text.required "startIdentity" data
  let processGroupId ← numberCodec.optional "processGroupId" data
  let processSessionId ← numberCodec.optional "processSessionId" data
  let attribution ← attributionCodec.required "attribution" data
  some ⟨pid, startIdentity, processGroupId, processSessionId, attribution⟩

def providerRootCodec : JsonCodec SessionProviderRoot where
  write value := .present (providerRootMembers value)
  read := readProviderRoot
  copy := providerRootCopy
  read_write value := by
    have hkeys : ((providerRootMembers value).map Prod.fst).Nodup := of_decide_eq_true rfl
    unfold readProviderRoot
    rw [numberCodec.required_put hkeys 0 rfl,
      text.required_same hkeys 1 rfl,
      numberCodec.optional_put hkeys 2 rfl,
      numberCodec.optional_put hkeys 3 rfl,
      attributionCodec.required_same hkeys 4 rfl]
    rfl

def identityMembers (value : SessionOwnerIdentity) : List (String × Option JsonData) :=
  [oneCodec.put "schemaVersion" (some ()),
    JsonCodec.put (literalCodec "yui-session-owner") "kind" (some ()),
    ownerCodec.put "owner" (some value.owner),
    text.put "agentId" (some value.agentId),
    text.put "adapterId" (some value.adapterId),
    text.put "nativeSessionId" value.nativeSessionId,
    tmuxCodec.put "tmux" (some value.tmux),
    providerRootCodec.put "providerRoot" (some value.providerRoot),
    text.put "runtimeRoot" value.runtimeRoot,
    text.put "recordedAt" (some value.recordedAt)]

def identityCopy (value : SessionOwnerIdentity) : SessionOwnerIdentity :=
  { value with
    tmux := tmuxCodec.copy value.tmux
    providerRoot := providerRootCodec.copy value.providerRoot }

def readIdentity (data : JsonData) : Option SessionOwnerIdentity := do
  let _ ← oneCodec.required "schemaVersion" data
  let _ ← JsonCodec.required (literalCodec "yui-session-owner") "kind" data
  let owner ← ownerCodec.required "owner" data
  let agentId ← text.required "agentId" data
  let adapterId ← text.required "adapterId" data
  let nativeSessionId ← text.optional "nativeSessionId" data
  let tmux ← tmuxCodec.required "tmux" data
  let providerRoot ← providerRootCodec.required "providerRoot" data
  let runtimeRoot ← text.optional "runtimeRoot" data
  let recordedAt ← text.required "recordedAt" data
  some ⟨owner, agentId, adapterId, nativeSessionId, tmux, providerRoot, runtimeRoot, recordedAt⟩

def identityCodec : JsonCodec SessionOwnerIdentity where
  write value := .present (identityMembers value)
  read := readIdentity
  copy := identityCopy
  read_write value := by
    have hkeys : ((identityMembers value).map Prod.fst).Nodup := of_decide_eq_true rfl
    unfold readIdentity
    rw [oneCodec.required_same hkeys 0 rfl,
      JsonCodec.required_same (literalCodec "yui-session-owner") hkeys 1 rfl,
      ownerCodec.required_same hkeys 2 rfl,
      text.required_same hkeys 3 rfl,
      text.required_same hkeys 4 rfl,
      text.optional_same hkeys 5 rfl,
      tmuxCodec.required_put hkeys 6 rfl,
      providerRootCodec.required_put hkeys 7 rfl,
      text.optional_same hkeys 8 rfl,
      text.required_same hkeys 9 rfl]
    rfl

def connectionMembers (value : AgentHostConnection) : List (String × Option JsonData) :=
  [identityCodec.put "processOwner" value.processOwner,
    accountCodec.put "account" value.account]

def connectionCopy (value : AgentHostConnection) : AgentHostConnection :=
  { value with
    processOwner := value.processOwner.map identityCodec.copy }

def readConnection (data : JsonData) : Option AgentHostConnection := do
  let processOwner ← identityCodec.optional "processOwner" data
  let account ← accountCodec.optional "account" data
  some ⟨processOwner, account⟩

def connectionCodec : JsonCodec AgentHostConnection where
  write value := .present (connectionMembers value)
  read := readConnection
  copy := connectionCopy
  read_write value := by
    have hkeys : ((connectionMembers value).map Prod.fst).Nodup := of_decide_eq_true rfl
    unfold readConnection
    rw [identityCodec.optional_put hkeys 0 rfl, accountCodec.optional_same hkeys 1 rfl]
    rfl

def sourceMembers (value : AgentHostObservationSource) : List (String × Option JsonData) :=
  [JsonCodec.put (literalCodec "yui-agent-host-events/v1") "protocol" (some ()),
    text.put "adapterId" (some value.adapterId),
    text.put "workspace" (some value.workspace),
    text.put "startupRunId" value.startupRunId,
    connectionCodec.put "connection" value.connection]

def sourceCopy (value : AgentHostObservationSource) : AgentHostObservationSource :=
  { value with
    connection := value.connection.map connectionCodec.copy }

def parseSource (data : JsonData) : Option AgentHostObservationSource := do
  let _ ← JsonCodec.required (literalCodec "yui-agent-host-events/v1") "protocol" data
  let adapterId ← text.required "adapterId" data
  let workspace ← text.required "workspace" data
  let startupRunId ← text.optional "startupRunId" data
  let connection ← connectionCodec.optional "connection" data
  some ⟨adapterId, workspace, startupRunId, connection⟩

def sourceCodec : JsonCodec AgentHostObservationSource where
  write value := .present (sourceMembers value)
  read := parseSource
  copy := sourceCopy
  read_write value := by
    have hkeys : ((sourceMembers value).map Prod.fst).Nodup := of_decide_eq_true rfl
    unfold parseSource
    rw [JsonCodec.required_same (literalCodec "yui-agent-host-events/v1") hkeys 0 rfl,
      text.required_same hkeys 1 rfl,
      text.required_same hkeys 2 rfl,
      text.optional_same hkeys 3 rfl,
      connectionCodec.optional_put hkeys 4 rfl]
    rfl

end Codecs

/-! ## Reading a stored source -/

section Stored

variable {source result : AgentHostObservationSource}

def readSource [RuntimeHost] (data : JsonData) : Except String AgentHostObservationSource :=
  match sourceCodec.read data with
  | none => .error "Agent Host observation source is invalid."
  | some source => readAgentHostObservationSource source

end Stored

end HostSource
