import NexusGrid.Groups.Authority

/-! # The stored source of a group's relay module

`apply_relay_code` stores a source whose fingerprint is the one that the group's row has frozen. The
frozen fingerprint is written by the founder's own endpoints, which check its form, by the founder's
first relay, and by a member that takes over what the founder's node answers.
-/

namespace NexusGrid.Groups

open Lib

/-- `^[0-9a-f]{32}$|^$`. -/
def fingerprintPattern (text : String) : Bool :=
  text = "" || text.length = 32 && text.toList.all fun c => c.isDigit || 'a' ≤ c && c ≤ 'f'

inductive RelayCodeEvent
  | relayCode (call : Call) (o : OpenedFrame)
  | groupMeta (o : OpenedFrame)
  /-- `set_group_relay_fingerprint`, or a proposal that the founder accepts. -/
  | setFingerprint (groupId fingerprint : String)
  /-- The founder binds a relay with this source. -/
  | bindRelay (groupId source : String)
  /-- The founder's node answers a member's refresh of the relays. -/
  | refreshRelays (groupId : String) (response : List (String × Json))
  /-- A change to the other columns of a group. -/
  | putGroup (groupId : String) (g : Group)

def freeze (db : Db) (groupId : String) (g : Group) (fingerprint : String) : Db :=
  { db with groups := db.groups.put groupId { g with relayCodeFingerprint := fingerprint } }

def relayCodeStep (p : Primitives) (db : Db) : RelayCodeEvent → Db
  | .relayCode call o => ((applyRelayCode p call db o).map Prod.fst).getD db
  | .groupMeta o => ((applyGroupMeta p db o).map Prod.fst).getD db
  | .setFingerprint groupId fingerprint =>
    match db.groups.get groupId with
    | some g => if fingerprintPattern fingerprint then freeze db groupId g fingerprint else db
    | none => db
  | .bindRelay groupId source =>
    match db.groups.get groupId with
    | some g => if g.relayCodeFingerprint = "" then freeze db groupId g (p.fingerprint source) else db
    | none => db
  | .refreshRelays groupId response =>
    let fingerprint := Json.textAt p.repr response "relay_code_fingerprint"
    match db.groups.get groupId with
    | some g => if fingerprint ≠ "" then freeze db groupId g fingerprint else db
    | none => db
  | .putGroup groupId g =>
    freeze db groupId g (((db.groups.get groupId).map Group.relayCodeFingerprint).getD "")

variable {p : Primitives} {db : Db} {groupId : String} {row : RelayCode}

/-- The stored row is the source's, and fits the frozen fingerprint but for blanks. -/
def Fits (p : Primitives) (db : Db) (groupId : String) (row : RelayCode) : Prop :=
  row.fingerprint = p.fingerprint row.source ∧
    (db.groups.get groupId).map (fun g => PyStr.strip g.relayCodeFingerprint) = some row.fingerprint

theorem fits_of_applyRelayCode {call : Call} {o : OpenedFrame}
    (h : (relayCodeStep p db (.relayCode call o)).relayCode.get groupId = some row) :
    db.relayCode.get groupId = some row ∨ Fits p db groupId row := by
  simp only [relayCodeStep, applyRelayCode] at h
  split at h
  · exact .inl h
  split_ifs at h
  · exact .inl h
  · exact .inl h
  split at h
  · exact .inl h
  case h_2 g hg =>
    split_ifs at h with hfrozen
    · exact .inl h
    rw [not_or, not_not] at hfrozen
    simp only [Option.map_some, Option.getD_some, Table.get_put] at h
    split_ifs at h with hid
    · cases h
      exact .inr ⟨rfl, by rw [hid, hg, Option.map_some, hfrozen.2]⟩
    · exact .inl h

theorem relayCode_applyGroupMeta (o : OpenedFrame) : (relayCodeStep p db (.groupMeta o)).relayCode = db.relayCode := by
  simp only [relayCodeStep, applyGroupMeta]
  split
  · rfl
  split_ifs
  · rfl
  · rfl
  · rfl
  split <;> rfl

/-- Only `relay.code` frames store sources. -/
theorem relayCode_step {e : RelayCodeEvent} (h : ∀ call o, e ≠ .relayCode call o) :
    (relayCodeStep p db e).relayCode = db.relayCode := by
  cases e with
  | relayCode call o => exact absurd rfl (h call o)
  | groupMeta o => exact relayCode_applyGroupMeta o
  | putGroup groupId g => rfl
  | setFingerprint groupId fingerprint | bindRelay groupId source | refreshRelays groupId response =>
    simp only [relayCodeStep]
    split
    · split <;> rfl
    · rfl

/-- Every row was there before, or it fitted when a frame stored it. -/
def StoredFitting (p : Primitives) (db : Db) (es : List RelayCodeEvent) : Prop :=
  ∀ groupId row, (run (relayCodeStep p) db es).relayCode.get groupId = some row → db.relayCode.get groupId = some row ∨
      ∃ pre call o rest, es = pre ++ .relayCode call o :: rest ∧
        (run (relayCodeStep p) db (pre ++ [.relayCode call o])).relayCode.get groupId = some row ∧
        Fits p (run (relayCodeStep p) db pre) groupId row

/-- **The stored source fits its fingerprints**, whatever frames came and however the groups have changed. -/
theorem relay_code_stored_fitting (p : Primitives) (db : Db) (es : List RelayCodeEvent) : StoredFitting p db es := by
  induction es using List.reverseRecOn with
  | nil => exact fun groupId row h => .inl h
  | append_singleton es e ih =>
    intro groupId row h
    -- a row that was there before the last event is one of the shorter run
    have hbefore (hold : (run (relayCodeStep p) db es).relayCode.get groupId = some row) :
        db.relayCode.get groupId = some row ∨ ∃ pre call o rest, es ++ [e] = pre ++ .relayCode call o :: rest ∧
          (run (relayCodeStep p) db (pre ++ [.relayCode call o])).relayCode.get groupId = some row ∧
          Fits p (run (relayCodeStep p) db pre) groupId row := by
      refine (ih groupId row hold).imp_right ?_
      rintro ⟨pre, call, o, rest, hes, hfit⟩
      exact ⟨pre, call, o, rest ++ [e], by simp [hes], hfit⟩
    cases e with
    | relayCode call o =>
      rcases fits_of_applyRelayCode (run_concat (relayCodeStep p) db es _ ▸ h) with hold | hfits
      · exact hbefore hold
      · exact .inr ⟨es, call, o, [], rfl, h, hfits⟩
    | _ =>
      rw [run_concat, relayCode_step (fun _ _ => by simp)] at h
      exact hbefore h

/-- **Blanks around the frozen fingerprint**, which the founder's node has answered, are not part of the
stored one. -/
theorem padded_fingerprint_stored :
    let p := examplePrimitives [("group_id", .str "g"), ("source", .str "f")]
    let db := run (relayCodeStep p) exampleNode.db
      [.putGroup "g" { founderPubkey := "alice", groupSymkeyEnc := [] },
        .refreshRelays "g" [("relay_code_fingerprint", .str " f")],
        .relayCode ⟨"2", id, fun _ _ => none⟩ ⟨"1", "g", "relay.code", "alice", ⟨"g", "alice", [], "", "", "", ""⟩, []⟩]
    (db.relayCode.get "g").map RelayCode.fingerprint = some "f" ∧
      (db.groups.get "g").map Group.relayCodeFingerprint = some " f" := by
  decide +kernel

end NexusGrid.Groups
