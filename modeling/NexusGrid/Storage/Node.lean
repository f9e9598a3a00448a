import Mathlib.Data.List.Sort
import NexusGrid.Storage.Retrieve

/-! # Storage frames at a node

A node is a host for the deposits of some peers and a depositor with others.

The handlers are those of `handle_storage_frame`, over the rows of both roles, the chunk files, the
session keys and the pumps of the node. What a handler sends and launches is recorded in the state.
`Transfer` has the two parties of one deposit and the network between them.
-/

namespace NexusGrid.Storage

open Lib

/-- The `_REOFFERABLE` statuses of `_handle_offer`. -/
def DepositStatus.reofferable : DepositStatus → Bool
  | declined | withdrawn | failedInTransit | purged | rejected => true
  | _ => false

/-! ## The state -/

inductive Role
  | depositor
  | host
deriving DecidableEq

/-- The columns of a `ForeignStorageDeposit` row. -/
structure DepositRow where
  role : Role
  depositorUuid : String
  hostUuid : String
  status : DepositStatus
  totalBytes : Int
  chunkCount : Int
  transport : String
  cloudUrl : String
  salt : List UInt8
  ttlDays : Int
  createdAt : Option Int
  ttlAt : Option Int
  evictionRequestedAt : Option Int
  dbGraceAt : Option Int
  /-- `timestamp()`: a time of day for display. -/
  purgedAt : String
  depositorSignature : String
  hostSignature : String
  encryptedManifest : List UInt8
  cloudProvider : String
  cloudDest : String
  cloudObjectId : String
  /-- In seconds. -/
  cloudUploadedAt : Int
  /-- In seconds; `0` for no grant, `-1` while the host has not answered. -/
  hostViewGrantedAt : Int
  transferredChunks : Int
  transitRetries : Int
  pauseReason : String
  filename : String
  evictionTotalDays : Int
deriving DecidableEq

/-- An entry of `STATE.foreign_storage_pumps`. -/
structure PumpEntry where
  role : Role
  peerUuid : String
  totalBytes : Int
  chunkCount : Int
  /-- A depositor's pump has none. -/
  dir : String
  receivedIdx : Int
  lastChunkAt : Int
  startedAt : Int
  lastProgressEmit : Int
  status : String
  /-- Whether the acknowledgement of an index has come. -/
  ackEvents : List (Int × Bool)
deriving DecidableEq

/-- An entry of `foreign_storage_keys`. -/
structure SessionKey extends KeyEntry where
  /-- The file a deposit is made from. -/
  filePath : String
deriving DecidableEq

inductive Reply
  | offerRejected (reason : String)
  | offerCancelled (reason : String)
  | chunkAck (chunkIdx : Int) (ok : Bool) (reason : String)
  | missingChunks (missing : List Nat)
  | retrieveChunk (frame : RetrieveFrame)
  | resumeReply (received : List Nat)
  | deleteNow
  | evictionRequest (totalDays : Int)
  | cloudUploadComplete (objectId : String)
  | cloudUploadFailed (reason : String)
  | viewGrantRejected (reason : String)
  | viewGrantAccepted
deriving DecidableEq

/-- A started `transfer_deposit`; `none` for all chunks. -/
structure Launch where
  depositId : String
  peer : String
  chunkIndices : Option (List Int)
deriving DecidableEq

structure Node where
  rows : Table String DepositRow
  pumps : Table String PumpEntry
  keys : Table String SessionKey
  chunkFiles : Table (String × Nat) (List UInt8)
  /-- The `foreign_storage_db_grace` table. -/
  grace : Table String (List UInt8)
  /-- `STATE.foreign_storage_auto_candidates`. -/
  candidates : Table String (List String)
  /-- `STATE.foreign_storage_missing_rounds`. -/
  missingRounds : Table String Int
  /-- `STATE.foreign_storage_stream_queues`. -/
  streamQueues : Table String (List (Int × List UInt8))
  /-- The files that downloads are saved to. -/
  files : Table String (List UInt8)
  rawChunks : Table (String × Nat) (List UInt8)
  /-- The same for the index `-(i + 1)`, which no decryption asks for. -/
  strayChunks : Table (String × Nat) (List UInt8)
  sent : List (String × String × Reply)
  launches : List Launch

/-- How `_write_bytes` ends. -/
inductive DiskWrite
  | done
  | failed (left : Option (List UInt8))
deriving DecidableEq

/-- How `upload_stream` fails. -/
inductive UploadError
  | notImplemented
  | raised (exception : String)
deriving DecidableEq

structure Env where
  /-- Milliseconds since 1970. -/
  now : Nat
  /-- `timestamp()`. -/
  clock : String
  nodeUuid : String
  acceptingOffers : Bool
  autoOptOut : Bool
  /-- `effective_free_gb()`, in bytes. -/
  freeBytes : Int
  /-- `fs_transit_max_retries`. -/
  transitMaxRetries : Int
  /-- `evict_total_days`. -/
  evictTotalDays : Int
  /-- A signature of the terms, under the sender's pair key or the default one. -/
  verifyTerms : (sender signature depositId : String) → Bool
  /-- `get_peer_by_ip(peer).signing_key`; empty for none. -/
  signingKey : String → String
  b64decode : String → Option (List UInt8)
  decryptChunk : List UInt8 → List UInt8 → Nat → Option (List UInt8)
  unwrapFromTransit : String → List UInt8 → List UInt8 → Option (List UInt8)
  unwrapViewGrant : String → List UInt8 → List UInt8 → Option (List UInt8)
  /-- `deposit_dir(deposit_id, depositor_uuid)`, resolved. -/
  depositDir : (depositId depositorUuid : String) → String
  emptyDirs : List String
  /-- The keys of `PROVIDERS`. -/
  providers : List String
  /-- Whether `from_credential_json` returns. -/
  validCredential : String → List UInt8 → Bool
  upload : (provider dest name : String) → List (List UInt8) → Except UploadError String
  write : DiskWrite
  /-- Whether the chunk files can be read. -/
  readable : Bool
  /-- Whether `unlink` returns. -/
  unlink : String × Nat → Bool

/-- `now + timedelta(days=days)`, in milliseconds. -/
def addDays (t days : Int) : Option Int :=
  let sum := t + days * 86400000
  if -999999999 ≤ days ∧ days ≤ 999999999 ∧ -62135596800000 ≤ sum ∧ sum < 253402300800000 then some sum
  else none

namespace Node

variable (n : Node)

def row? (role : Role) (id : String) : Option DepositRow := (n.rows.get id).filter (·.role = role)

def putRow (id : String) (row : DepositRow) : Node := { n with rows := n.rows.put id row }

def send (peer id : String) (reply : Reply) : Node := { n with sent := n.sent ++ [(peer, id, reply)] }

/-- `pump.get("dir") or ""` of the pump entry, if there is one. -/
def pumpDir (id : String) : String := ((n.pumps.get id).map PumpEntry.dir).getD ""

def chunksIn (dir : String) : List Nat := ((n.chunkFiles.rows.filter (·.1.1 = dir)).map (·.1.2)).insertionSort (· ≤ ·)

/-- `unlink` of every chunk file in a directory; one that raises is passed over. -/
def wipe (unlink : String × Nat → Bool) (dir : String) : Node :=
  { n with chunkFiles := n.chunkFiles.deleteWhere fun k _ => k.1 = dir ∧ unlink k }

/-- `transfer_deposit` is started if the file and its key are still known. -/
def launch (id peer : String) (chunkIndices : Option (List Int)) : Node :=
  match n.keys.get id with
  | some entry =>
    if entry.key.isSome ∧ entry.filePath ≠ "" then
      { n with launches := n.launches ++ [⟨id, peer, chunkIndices⟩] }
    else n
  | none => n

/-- `foreign_storage_keys.store`: other fields of an entry stay. -/
def storeKey (id : String) (key : List UInt8) : Node :=
  let entry := (n.keys.get id).getD ⟨⟨none, "", none, 0, 0, false⟩, ""⟩
  { n with keys := n.keys.put id { entry with key := if key = [] then none else some key } }

end Node

/-! ## Pump entries -/

namespace PumpEntry

variable (p : PumpEntry)

/-- The bookkeeping of `receive_chunk` after a write. -/
def received (now : Int) (chunkIdx : Nat) : PumpEntry :=
  let receivedIdx := max p.receivedIdx chunkIdx
  let emits := 500 ≤ now - p.lastProgressEmit ∨ (p.chunkCount ≠ 0 ∧ p.chunkCount ≤ receivedIdx + 1)
  { p with
    receivedIdx := receivedIdx
    lastChunkAt := now
    lastProgressEmit := if emits then now else p.lastProgressEmit }

def recordChunkAck (chunkIdx : Int) (ok : Bool) : PumpEntry :=
  if p.role = .depositor ∧ p.ackEvents.any (·.1 = chunkIdx) then
    { p with
      status := if ok then p.status else "ack_negative"
      ackEvents := p.ackEvents.map fun ev => if ev.1 = chunkIdx then (ev.1, true) else ev }
  else p

end PumpEntry

/-! ## Frames -/

/-- The fields of a `storage_offer` beside the id. -/
structure Offer where
  totalBytes : Int
  chunkCount : Int
  transport : String
  cloudUrl : String
  saltB64 : String
  ttlDays : Int
  depositorSignature : String
  filename : String
deriving DecidableEq

/-- The `cloud_*` fields of a `storage_eviction_response`. -/
structure CloudFields where
  provider : String
  dest : String
  nonceB64 : String
  credentialB64 : String
deriving DecidableEq

inductive FrameBody
  | offer (offer : Offer)
  | offerResponse (accepted : Bool) (hostSignature : String)
  | offerRejected (reason : String)
  | offerCancelled (reason : String)
  | chunk (chunkIdx : Int) (b64 : String)
  | chunkAck (chunkIdx : Int) (ok : Bool)
  | complete (depositorSignatureFinal : String)
  | evictionRequest (totalDays : Int)
  | evictionResponse (action : String) (cloud : CloudFields)
  | evictionCancelled
  | cloudUploadProgress (bytesSent totalBytes : Int)
  | cloudUploadComplete (objectId : String)
  | cloudUploadFailed (reason : String)
  | retrieveOpen (first last : Int)
  | retrieveChunk (chunkIdx : Int) (b64 : String)
  | deleteNow
  | pause (reason : String)
  | resumeRequest
  | resumeReply (received : List Int)
  | missingChunks (missing : List Int)
  | viewGrant (nonceB64 keyBlobB64 sealedManifestB64 : String)
  | viewGrantAccepted
  | viewGrantRejected (reason : String)
  | viewRevoke
  | tripwireFired (changed : List Int)
  /-- Any other type that starts with `storage_`. -/
  | other (type : String)
deriving DecidableEq

structure StorageFrame where
  depositId : String
  body : FrameBody
deriving DecidableEq

namespace Node

variable (e : Env) (n : Node) (peer id : String)

/-! ## Handlers of the host -/

/-- Why `_handle_offer` refuses: `some reason` is sent back. -/
def offerRefusal (o : Offer) : Option (Option String) :=
  if !e.acceptingOffers then some (some "opted_out")
  else if e.autoOptOut then some (some "auto_opted_out")
  else if e.freeBytes < o.totalBytes then some (some "insufficient_space")
  else if !e.verifyTerms peer o.depositorSignature id then some none
  else none

def offerSalt (o : Offer) : List UInt8 := if o.saltB64 = "" then [] else (e.b64decode o.saltB64).getD []

/-- The row starts again, with the sender as its depositor. -/
def reoffered (o : Offer) (row : DepositRow) : DepositRow :=
  { row with
    status := .offered
    depositorUuid := peer
    totalBytes := o.totalBytes
    chunkCount := o.chunkCount
    transport := if o.transport = "" then "stream" else o.transport
    cloudUrl := o.cloudUrl
    salt := if offerSalt e o = [] then row.salt else offerSalt e o
    ttlDays := if o.ttlDays = 0 then 30 else o.ttlDays
    createdAt := some e.now
    depositorSignature := o.depositorSignature
    hostSignature := ""
    filename := o.filename }

def offeredRow (o : Offer) : DepositRow where
  role := .host
  depositorUuid := peer
  hostUuid := e.nodeUuid
  status := .offered
  totalBytes := o.totalBytes
  chunkCount := o.chunkCount
  transport := if o.transport = "" then "stream" else o.transport
  cloudUrl := o.cloudUrl
  salt := offerSalt e o
  ttlDays := if o.ttlDays = 0 then 30 else o.ttlDays
  createdAt := some e.now
  ttlAt := none
  evictionRequestedAt := none
  dbGraceAt := none
  purgedAt := ""
  depositorSignature := o.depositorSignature
  hostSignature := ""
  encryptedManifest := []
  cloudProvider := ""
  cloudDest := ""
  cloudObjectId := ""
  cloudUploadedAt := 0
  hostViewGrantedAt := 0
  transferredChunks := 0
  transitRetries := 0
  pauseReason := ""
  filename := o.filename
  evictionTotalDays := 0

def handleOffer (o : Offer) : Node :=
  if id = "" then n
  else match offerRefusal e peer id o with
    | some (some reason) => n.send peer id (.offerRejected reason)
    | some none => n
    | none =>
      match n.rows.get id with
      | some row => if row.status.reofferable then n.putRow id (reoffered e peer o row) else n
      | none => n.putRow id (offeredRow e peer o)

/-- What `receive_chunk` comes to write, or the reason of its refusal. -/
def landing (chunkIdx : Nat) (b64 : String) : Except String (PumpEntry × List UInt8) :=
  match n.pumps.get id with
  | none => .error "no_pump"
  | some p =>
    if p.role ≠ .host then .error "no_pump"
    else if p.chunkCount ≠ 0 ∧ p.chunkCount ≤ chunkIdx then .error "out_of_range"
    else match e.b64decode b64 with
      | none => .error "bad_b64"
      | some blob => .ok (p, blob)

def receiveChunk (chunkIdx : Int) (b64 : String) : Node :=
  match chunkIdx with
  | .negSucc _ => n
  | .ofNat i =>
    if id = "" then n
    else match landing e n id i b64 with
      | .error reason => n.send peer id (.chunkAck i false reason)
      | .ok (p, blob) =>
        match e.write with
        | .done =>
          { n with
            chunkFiles := n.chunkFiles.put (p.dir, i) blob
            pumps := n.pumps.put id (p.received e.now i)
            sent := n.sent ++ [(peer, id, .chunkAck i true "")] }
        | .failed left =>
          { n with
            chunkFiles := (left.map (n.chunkFiles.put (p.dir, i))).getD n.chunkFiles
            sent := n.sent ++ [(peer, id, .chunkAck i false "io_error")] }

def missingOf (row : DepositRow) : List Nat :=
  (List.range row.chunkCount.toNat).filter (· ∉ n.chunksIn (e.depositDir id row.depositorUuid))

/-- The row that `storage_complete` writes when no chunk is missing. -/
def completed (depositorSignatureFinal : String) (row : DepositRow) : Option DepositRow :=
  (addDays e.now (if row.ttlDays = 0 then 30 else row.ttlDays)).map fun ttlAt =>
    { row with
      status := .stored
      depositorSignature := if depositorSignatureFinal = "" then row.depositorSignature else depositorSignatureFinal
      ttlAt := some ttlAt }

def handleComplete (depositorSignatureFinal : String) : Node :=
  match n.row? .host id with
  | none => n
  | some row =>
    if missingOf e n id row ≠ [] then n.send peer id (.missingChunks (missingOf e n id row))
    else match completed e depositorSignatureFinal row with
      | none => n
      | some row => n.putRow id row

/-- What `let_go` and a failed cloud eviction write. -/
def inGrace (row : DepositRow) : DepositRow := { row with status := .inDbGrace, dbGraceAt := some e.now }

def cloudEvictionFail (reason : String) : Node :=
  match n.row? .host id with
  | none => n.send peer id (.cloudUploadFailed reason)
  | some row => (n.putRow id (inGrace e row)).send peer id (.cloudUploadFailed reason)

/-- The credential is unwrapped with the key of the sender. -/
def checkCloudFields (c : CloudFields) : Except String Unit :=
  if c.provider = "" ∨ c.nonceB64 = "" ∨ c.credentialB64 = "" then .error "missing_cloud_fields"
  else if c.provider ∉ e.providers then .error "provider_unknown"
  else if e.signingKey peer = "" then .error "no_peer_signing_key"
  else match e.b64decode c.nonceB64, e.b64decode c.credentialB64 with
    | some nonce, some wrapped =>
      match e.unwrapFromTransit (e.signingKey peer) nonce wrapped with
      | none => .error "creds_decrypt_failed"
      | some creds =>
        if e.validCredential c.provider creds then .ok () else .error "creds_invalid"
    | _, _ => .error "creds_decrypt_failed"

/-- It holds chunk files, or is empty, or is the working directory. -/
def dirExists (dir : String) : Bool := dir = "" || n.chunksIn dir ≠ [] || dir ∈ e.emptyDirs

def uploadFailure : UploadError → String
  | .notImplemented => "provider_unsupported"
  | .raised exception => "upload_failed:" ++ exception

/-- `_evict_to_cloud` from the upload on: the id of the uploaded object. -/
def uploadChunks (c : CloudFields) (row : DepositRow) : Except String String :=
  let dir := n.pumpDir id
  if !dirExists e n dir then .error "host_chunks_missing"
  else
    let blobs := (List.range row.chunkCount.toNat).filterMap fun i => n.chunkFiles.get (dir, i)
    match e.upload c.provider c.dest (id ++ ".enc") blobs with
    | .ok objectId => .ok objectId
    | .error err => .error (uploadFailure err)

/-- The row as the first commit of `_evict_to_cloud` has it. -/
def evictingToCloud (c : CloudFields) (row : DepositRow) : DepositRow :=
  { row with status := .evictingToCloud, cloudProvider := c.provider, cloudDest := c.dest }

def purgedToCloud (objectId : String) (row : DepositRow) : DepositRow :=
  { row with
    cloudObjectId := objectId
    cloudUploadedAt := e.now / 1000
    status := .purged
    purgedAt := e.clock }

/-- The node when `_evict_to_cloud` commits the row as purged, and the id of the object. -/
def commitCloudPurge (c : CloudFields) : Except (Node × String) (Node × String) :=
  match checkCloudFields e peer c with
  | .error reason => .error (n, reason)
  | .ok () =>
    match n.row? .host id with
    | none => .error (n, "deposit_not_found")
    | some row =>
      let started := n.putRow id (evictingToCloud c row)
      match uploadChunks e started id c row with
      | .error reason => .error (started, reason)
      | .ok objectId => .ok (started.putRow id (purgedToCloud e objectId (evictingToCloud c row)), objectId)

def evictToCloud (c : CloudFields) : Node :=
  match commitCloudPurge e n peer id c with
  | .error (n, reason) => cloudEvictionFail e n peer id reason
  | .ok (n, objectId) => (n.wipe e.unlink (n.pumpDir id)).send peer id (.cloudUploadComplete objectId)

def handleEvictionResponse (action : String) (c : CloudFields) : Node :=
  if action = "cloud" then evictToCloud e n peer id c
  else match n.row? .host id with
    | none => n
    -- `download` and `forward` are only audited.
    | some row => if action = "let_go" then n.putRow id (inGrace e row) else n

def handleRetrieveOpen (first last : Int) : Node :=
  if last < first then n
  else match n.row? .host id with
    | none => n
    | some row =>
      if peer ≠ row.depositorUuid then n
      else
        let dir := if n.pumpDir id = "" then e.depositDir id row.depositorUuid else n.pumpDir id
        let found := (n.chunksIn dir).filter fun i : Nat => first ≤ (i : Int) ∧ (i : Int) ≤ last
        { n with
          sent := n.sent ++ found.filterMap fun i =>
            (n.chunkFiles.get (dir, i)).map fun blob => (row.depositorUuid, id, .retrieveChunk ⟨i, blob⟩) }

/-- The node when `_handle_delete_now` commits the row as purged. -/
def commitDelete : Option Node :=
  match n.row? .host id with
  | none => none
  | some row =>
    if row.depositorUuid ≠ peer then none
    else some (n.putRow id { row with status := .purged, purgedAt := e.clock })

def handleDeleteNow : Node :=
  match commitDelete e n peer id with
  | none => n
  | some n => { n with pumps := n.pumps.delete id }.wipe e.unlink (n.pumpDir id)

def handleOfferCancelled : Node :=
  if id = "" then n
  else match n.row? .host id with
    | none => n
    | some row =>
      if row.depositorUuid ≠ peer then n
      else if row.status = .offered ∨ row.status = .accepted then
        n.putRow id { row with status := .withdrawn }
      else n

def rebuiltPump (row : DepositRow) : PumpEntry :=
  let dir := e.depositDir id row.depositorUuid
  { role := .host
    peerUuid := peer
    totalBytes := row.totalBytes
    chunkCount := row.chunkCount
    dir := dir
    receivedIdx := (n.chunksIn dir).foldl (fun m i => max m (i : Int)) (-1)
    lastChunkAt := e.now
    startedAt := e.now
    lastProgressEmit := 0
    status := "transferring"
    ackEvents := [] }

def handleResumeRequest : Node :=
  if id = "" then n
  else match n.row? .host id with
    | none => n
    | some row =>
      if row.depositorUuid ≠ peer then n
      else
        let n :=
          match n.pumps.get id with
          | some _ => n
          | none => { n with pumps := n.pumps.put id (rebuiltPump e n peer id row) }
        n.send peer id (.resumeReply (n.chunksIn (e.depositDir id row.depositorUuid)))

def handleViewGrant (nonceB64 keyBlobB64 sealedManifestB64 : String) : Node :=
  if id = "" then n
  else if nonceB64 = "" ∨ keyBlobB64 = "" then n.send peer id (.viewGrantRejected "missing_fields")
  else if e.signingKey peer = "" then n.send peer id (.viewGrantRejected "no_peer_signing_key")
  else match n.row? .host id with
    | none => n.send peer id (.viewGrantRejected "unknown_deposit")
    | some row =>
      if row.depositorUuid ≠ peer then n
      else
        let unwrapped := (e.b64decode nonceB64).bind fun nonce =>
          (e.b64decode keyBlobB64).bind fun blob => e.unwrapViewGrant (e.signingKey peer) nonce blob
        match unwrapped with
        | none => n.send peer id (.viewGrantRejected "decrypt_failed")
        | some key =>
          let manifest := if sealedManifestB64 = "" then none else e.b64decode sealedManifestB64
          let row := { row with
            encryptedManifest := manifest.getD row.encryptedManifest
            hostViewGrantedAt := e.now / 1000 }
          ((n.putRow id row).storeKey id key).send peer id .viewGrantAccepted

def handleViewRevoke : Node :=
  if id = "" then n
  else match n.row? .host id with
    | none => n
    | some row =>
      if row.depositorUuid ≠ peer then n
      else { n.putRow id { row with hostViewGrantedAt := 0 } with keys := n.keys.delete id }

/-! ## Handlers of both sides -/

def handlePause (reason : String) : Node :=
  if id = "" then n
  else match n.rows.get id with
    | none => n
    | some row =>
      let reason := if reason = "" then "silent" else reason
      if peer ≠ row.depositorUuid ∧ peer ≠ row.hostUuid then n
      else if row.status.settled then n
      else n.putRow id { row with status := .paused reason, pauseReason := reason }

/-! ## Handlers of the depositor -/

def handleOfferResponse (accepted : Bool) (hostSignature : String) : Node :=
  if id = "" then n
  else match n.row? .depositor id with
    | none => n
    | some row =>
      let others := ((n.candidates.get id).getD []).filter (· ≠ peer)
      if row.status = .offeringMulti then
        if accepted then
          let row := { row with
            status := .transferring, hostUuid := peer, hostSignature := hostSignature }
          { n.putRow id row with
            candidates := n.candidates.delete id
            sent := n.sent ++ others.map fun loser =>
              (loser, id, Reply.offerCancelled "won_by_other") }.launch id peer none
        else if others ≠ [] then { n with candidates := n.candidates.put id others }
        else { n.putRow id { row with status := .withdrawn } with candidates := n.candidates.delete id }
      -- Somebody else has won the offer already.
      else if accepted ∧ (row.status = .transferring ∨ row.status = .stored) then
        n.send peer id (.offerCancelled "won_by_other")
      else if accepted then
        (n.putRow id { row with status := .transferring, hostSignature := hostSignature }).launch id
          row.hostUuid none
      else n.putRow id { row with status := .declined, hostSignature := "" }

def rewriteRow (f : DepositRow → DepositRow) : Node :=
  match n.row? .depositor id with
  | none => n
  | some row => n.putRow id (f row)

def handleOfferRejected : Node := if id = "" then n else n.rewriteRow id fun row => { row with status := .rejected }

def handleEvictionRequest (totalDays : Int) : Node := n.rewriteRow id fun row =>
    { row with
      status := .evictionRequested
      evictionRequestedAt := some e.now
      evictionTotalDays := if 0 < totalDays then totalDays else row.evictionTotalDays }

def handleEvictionCancelled : Node :=
  if id = "" then n
  else n.rewriteRow id fun row =>
    if row.status = .evictionRequested ∨ row.status = .inDbGrace then
      { row with
        status := .stored
        evictionRequestedAt := none
        dbGraceAt := none
        evictionTotalDays := 0 }
    else row

def handleCloudUploadComplete (objectId : String) : Node := n.rewriteRow id (purgedToCloud e objectId)

def handleViewGrantAccepted : Node :=
  if id = "" then n else n.rewriteRow id fun row => { row with hostViewGrantedAt := e.now / 1000 }

def handleViewGrantRejected : Node :=
  if id = "" then n else n.rewriteRow id fun row => { row with hostViewGrantedAt := 0 }

def handleResumeReply (received : List Int) : Node :=
  if id = "" then n
  else match n.row? .depositor id with
    | none => n
    | some row =>
      if row.hostUuid ≠ peer then n
      else
        let missing := ((List.range row.chunkCount.toNat).map Int.ofNat).filter (· ∉ received)
        if missing = [] then n.putRow id { row with status := .stored }
        else
          (n.putRow id { row with
            status := .transferring
            transferredChunks := (received.max?).getD 0 }).launch id row.hostUuid (some missing)

/-- The cap on rounds of `_handle_missing_chunks`. -/
def maxRounds (row : DepositRow) : Int :=
  if row.transitRetries = 0 then max 1 (if e.transitMaxRetries = 0 then 5 else e.transitMaxRetries)
  else max 1 (min 20 row.transitRetries)

def handleMissingChunks (missing : List Int) : Node :=
  if id = "" then n
  else match n.row? .depositor id with
    | none => n
    | some row =>
      if row.hostUuid ≠ peer then n
      else if row.status.settled then n
      else if missing = [] then
        { n.putRow id { row with status := .stored } with missingRounds := n.missingRounds.delete id }
      else
        -- A host that loses chunks in every round is given up.
        let rounds := (n.missingRounds.get id).getD 0 + 1
        if maxRounds e row < rounds then
          let row := { row with status := .failedInTransit, pauseReason := "missing_chunks_exhausted" }
          { (n.putRow id row).send row.hostUuid id .deleteNow with
            keys := n.keys.delete id
            missingRounds := n.missingRounds.delete id }
        else
          { n with missingRounds := n.missingRounds.put id rounds }.launch id row.hostUuid
            (some (missing.dedup.insertionSort (· ≤ ·)))

def downloader : Downloader where
  row := (n.row? .depositor id).map fun row => ⟨row.status, row.hostUuid, row.chunkCount.toNat⟩
  streamQueue := (n.streamQueues.get id).map fun _ => []
  cached := (n.keys.get id).map SessionKey.toKeyEntry
  files := n.files
  rawChunks := n.rawChunks
  deletesSent := []

def withDownloader (d : Downloader) : Node :=
  { n with
    rows :=
      match n.row? .depositor id, d.row with
      | some row, some row' => n.rows.put id { row with status := row'.status }
      | _, _ => n.rows
    streamQueues :=
      match n.streamQueues.get id, d.streamQueue with
      | some queue, some new => n.streamQueues.put id (queue ++ new.map fun f => ((f.chunkIdx : Int), f.blob))
      | _, _ => n.streamQueues
    keys :=
      match n.keys.get id, d.cached with
      | some entry, some cached => n.keys.put id { entry with toKeyEntry := cached }
      | some _, none => n.keys.delete id
      | none, _ => n.keys
    files := d.files
    rawChunks := d.rawChunks
    sent := n.sent ++ d.deletesSent.map fun host => (host, id, .deleteNow) }

/-- The index `-(i + 1)` is not decrypted, but a rescue saves it. -/
def saveStrayChunk (i : Nat) (blob : List UInt8) : Node :=
  match n.streamQueues.get id, n.keys.get id with
  | some queue, _ => { n with streamQueues := n.streamQueues.put id (queue ++ [(.negSucc i, blob)]) }
  | none, none => n
  | none, some entry =>
    match entry.rawDir with
    | none => n
    | some rawDir =>
      let total := if entry.dlTotalChunks = 0 then
          ((n.row? .depositor id).map fun row => row.chunkCount.toNat).getD 0
        else entry.dlTotalChunks
      let bytes := (if entry.dlTotalChunks = 0 then 0 else entry.dlBytes) + blob.length
      { n with
        strayChunks := n.strayChunks.put (rawDir, i) blob
        keys := n.keys.put id { entry with dlTotalChunks := total, dlBytes := bytes } }

def handleRetrieveChunk (chunkIdx : Int) (b64 : String) : Node :=
  match e.b64decode b64 with
  | none => n
  | some blob =>
    match chunkIdx with
    | .ofNat i => n.withDownloader id ((n.downloader id).handleRetrieveChunk e.decryptChunk ⟨i, blob⟩)
    | .negSucc i => n.saveStrayChunk id i blob

/-! ## The dispatcher -/

def recordChunkAck (chunkIdx : Int) (ok : Bool) : Node :=
  match n.pumps.get id with
  | none => n
  | some p => { n with pumps := n.pumps.put id (p.recordChunkAck chunkIdx ok) }

/-- `dispatch_storage_frame` with the `workflow_handler` it calls. -/
def dispatchStorageFrame (frame : StorageFrame) : Node :=
  match frame.body with
  | .offer o => n.handleOffer e peer frame.depositId o
  | .offerResponse accepted hostSignature => n.handleOfferResponse peer frame.depositId accepted hostSignature
  | .offerRejected _ => n.handleOfferRejected frame.depositId
  | .offerCancelled _ => n.handleOfferCancelled peer frame.depositId
  | .chunk chunkIdx b64 => n.receiveChunk e peer frame.depositId chunkIdx b64
  | .chunkAck chunkIdx ok => n.recordChunkAck frame.depositId chunkIdx ok
  | .complete final => n.handleComplete e peer frame.depositId final
  | .evictionRequest totalDays => n.handleEvictionRequest e frame.depositId totalDays
  | .evictionResponse action c => n.handleEvictionResponse e peer frame.depositId action c
  | .evictionCancelled => n.handleEvictionCancelled frame.depositId
  | .cloudUploadComplete objectId => n.handleCloudUploadComplete e frame.depositId objectId
  | .retrieveOpen first last => n.handleRetrieveOpen e peer frame.depositId first last
  | .retrieveChunk chunkIdx b64 => n.handleRetrieveChunk e frame.depositId chunkIdx b64
  | .deleteNow => n.handleDeleteNow e peer frame.depositId
  | .pause reason => n.handlePause peer frame.depositId reason
  | .resumeRequest => n.handleResumeRequest e peer frame.depositId
  | .resumeReply received => n.handleResumeReply peer frame.depositId received
  | .missingChunks missing => n.handleMissingChunks e peer frame.depositId missing
  | .viewGrant nonce keyBlob sealedManifest => n.handleViewGrant e peer frame.depositId nonce keyBlob sealedManifest
  | .viewGrantAccepted => n.handleViewGrantAccepted e frame.depositId
  | .viewGrantRejected _ => n.handleViewGrantRejected frame.depositId
  | .viewRevoke => n.handleViewRevoke peer frame.depositId
  -- These only write audit records and events for the UI, or are dropped.
  | .cloudUploadProgress _ _ | .cloudUploadFailed _ | .tripwireFired _ | .other _ => n

def empty : Node where
  rows := ∅
  pumps := ∅
  keys := ∅
  chunkFiles := ∅
  grace := ∅
  candidates := ∅
  missingRounds := ∅
  streamQueues := ∅
  files := ∅
  rawChunks := ∅
  strayChunks := ∅
  sent := []
  launches := []

end Node

def Env.plain : Env where
  now := 1700000000000
  clock := "22:13:20"
  nodeUuid := "node"
  acceptingOffers := true
  autoOptOut := false
  freeBytes := 0
  transitMaxRetries := 5
  evictTotalDays := 3
  verifyTerms := fun _ _ _ => false
  signingKey := fun _ => ""
  b64decode := fun s => if s = "AA==" then some [0] else none
  decryptChunk := fun _ blob _ => some blob
  unwrapFromTransit := fun _ _ _ => none
  unwrapViewGrant := fun _ _ _ => none
  depositDir := fun depositId depositorUuid => depositorUuid ++ "/" ++ depositId
  emptyDirs := []
  providers := []
  validCredential := fun _ _ => false
  upload := fun _ _ _ _ => .error .notImplemented
  write := .done
  readable := true
  unlink := fun _ => true

def DepositRow.plain (role : Role) (status : DepositStatus) : DepositRow where
  role := role
  depositorUuid := "depositor"
  hostUuid := "host"
  status := status
  totalBytes := 1
  chunkCount := 1
  transport := "stream"
  cloudUrl := ""
  salt := []
  ttlDays := 30
  createdAt := none
  ttlAt := none
  evictionRequestedAt := none
  dbGraceAt := none
  purgedAt := ""
  depositorSignature := ""
  hostSignature := ""
  encryptedManifest := []
  cloudProvider := ""
  cloudDest := ""
  cloudObjectId := ""
  cloudUploadedAt := 0
  hostViewGrantedAt := 0
  transferredChunks := 0
  transitRetries := 0
  pauseReason := ""
  filename := ""
  evictionTotalDays := 0

def PumpEntry.plain : PumpEntry where
  role := .host
  peerUuid := "depositor"
  totalBytes := 1
  chunkCount := 1
  dir := "depositor/d"
  receivedIdx := 0
  lastChunkAt := 0
  startedAt := 0
  lastProgressEmit := 0
  status := "transferring"
  ackEvents := []

/-- A host with that deposit, under the id `"d"`, in a given status. -/
def Node.hosting (status : DepositStatus) : Node :=
  { Node.empty with
    rows := Table.put ∅ "d" (.plain .host status)
    pumps := Table.put ∅ "d" .plain
    chunkFiles := Table.put ∅ ("depositor/d", 0) [1] }

def Node.restarted : Node := { Node.hosting .stored with pumps := ∅ }

def Node.gracedRow : DepositRow :=
  { DepositRow.plain .host .inDbGrace with dbGraceAt := some 0, evictionTotalDays := 3 }

def Node.graced : Node :=
  { Node.empty with
    rows := Table.put ∅ "d" Node.gracedRow
    pumps := Table.put ∅ "d" .plain
    grace := Table.put ∅ "d" [1] }

def Node.rescuing (status : DepositStatus) : Node :=
  { Node.empty with
    rows := Table.put ∅ "d" (.plain .depositor status)
    keys := Table.put ∅ "d" ⟨⟨none, "", some "rescued/d", 0, 0, false⟩, ""⟩
    rawChunks := Table.put ∅ ("rescued/d", 0) [1] }

end NexusGrid.Storage
