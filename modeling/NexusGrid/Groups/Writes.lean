import NexusGrid.Groups.GroupOps
import NexusGrid.Groups.Handlers

/-! # Operations as writes to the tables

The handlers of the replicated frames write rows of a database.
-/

namespace NexusGrid.Groups

open Lib

theorem act_idle (v : GroupView) : GroupOp.idle.action.act v = v := by
  funext c
  cases c <;> rfl

namespace Db

variable {db : Db} {g m name id url : String}

theorem groupView_member : db.groupView (.member g m) = (db.members.get (g, m)).map Member.shared := rfl

theorem groupView_message : db.groupView (.message g id) = (db.messages.get (g, id)).map Message.shared := rfl

theorem groupView_role : db.groupView (.role g name) = db.roles.get (g, name) := rfl

theorem view_mute_unknown {muted : Bool} (h : db.members.get (g, m) = none) :
    db.groupView = (GroupOp.mute g m muted).action.act db.groupView := by
  funext c
  cases c with
  | member g' m' =>
    refine (when_self ?_).symm
    rintro ⟨rfl, rfl⟩
    rw [groupView_member, h]
    rfl
  | _ => rfl

theorem view_mute {muted : Bool} {row : Member} (h : db.members.get (g, m) = some row) :
    ({ db with members := db.members.put (g, m) { row with muted } } : Db).groupView =
      (GroupOp.mute g m muted).action.act db.groupView := by
  funext c
  cases c with
  | member g' m' =>
    refine map_get_put_when ?_ ?_
    · rw [Prod.mk.injEq]
    rw [h]
    rfl
  | _ => rfl

theorem isMuted_groupView : isMuted (db.groupView (.member g m)) = memberIsMuted db g m := by
  unfold isMuted memberIsMuted
  rw [groupView_member]
  cases db.members.get (g, m) with
  | none => rfl
  | some row => rfl

theorem view_say_muted {msg : Message} (h : memberIsMuted db g msg.senderPubkey = true) :
    db.groupView = (GroupOp.say g id msg).action.act db.groupView := by
  funext c
  cases c with
  | message g' id' =>
    rw [GroupOp.act_message, GroupOp.onMessage]
    refine (when_self ?_).symm
    rintro ⟨-, -, hnot⟩
    rw [isMuted_groupView, h] at hnot
    cases hnot
  | _ => rfl

theorem view_say_there {msg row : Message} (h : db.messages.get (g, id) = some row) :
    db.groupView = (GroupOp.say g id msg).action.act db.groupView := by
  funext c
  cases c with
  | message g' id' =>
    rw [GroupOp.act_message, GroupOp.onMessage]
    refine (when_self ?_).symm
    rintro ⟨rfl, rfl, -⟩
    rw [groupView_message, h]
    rfl
  | _ => rfl

theorem view_say {row : Message} (hmuted : memberIsMuted db g row.senderPubkey = false)
    (h : db.messages.get (g, id) = none) :
    ({ db with messages := db.messages.put (g, id) row } : Db).groupView =
      (GroupOp.say g id row.shared).action.act db.groupView := by
  have hnot : isMuted (db.groupView (.member g row.senderPubkey)) = false := isMuted_groupView.trans hmuted
  funext c
  cases c with
  | message g' id' =>
    rw [GroupOp.act_message, GroupOp.onMessage]
    refine map_get_put_when ?_ ?_
    · rw [Prod.mk.injEq]
      exact ⟨fun hk => ⟨hk.1, hk.2.1⟩, fun hk => ⟨hk.1, hk.2, hnot⟩⟩
    rw [h]
    rfl
  | _ => rfl

theorem view_erase_nothing {sender : String}
    (h : ∀ row, db.messages.get (g, id) = some row → row.senderPubkey ≠ sender) :
    db.groupView = (GroupOp.erase g id sender).action.act db.groupView := by
  funext c
  cases c with
  | message g' id' =>
    refine (when_self ?_).symm
    rintro ⟨rfl, rfl⟩
    rw [groupView_message]
    cases hrow : db.messages.get (g', id') with
    | none => rfl
    | some row => exact congrArg some (GroupOp.erasedBy_of_ne (h row hrow))
  | _ => rfl

theorem view_erase {sender : String} {row : Message} (h : db.messages.get (g, id) = some row)
    (hsender : row.senderPubkey = sender) :
    ({ db with messages := db.messages.put (g, id) { row with deleted := true, body := "" } } : Db).groupView =
      (GroupOp.erase g id sender).action.act db.groupView := by
  funext c
  cases c with
  | message g' id' =>
    refine map_get_put_when ?_ ?_
    · rw [Prod.mk.injEq]
    rw [h]
    exact congrArg some (if_pos hsender)
  | _ => rfl

theorem view_bind_same {change : Option RelayBinding → Option RelayBinding}
    (h : change ((db.relayBindings.get (g, url)).map RelayBinding.shared) =
      (db.relayBindings.get (g, url)).map RelayBinding.shared) :
    db.groupView = (GroupOp.bind g url change).action.act db.groupView := by
  funext c
  cases c with
  | binding g' url' =>
    refine (when_self ?_).symm
    rintro ⟨rfl, rfl⟩
    exact h
  | _ => rfl

theorem view_bind {change : Option RelayBinding → Option RelayBinding} {row : RelayBinding}
    (h : change ((db.relayBindings.get (g, url)).map RelayBinding.shared) = some row.shared) :
    ({ db with relayBindings := db.relayBindings.put (g, url) row } : Db).groupView =
      (GroupOp.bind g url change).action.act db.groupView := by
  funext c
  cases c with
  | binding g' url' =>
    refine map_get_put_when ?_ h
    rw [Prod.mk.injEq]
  | _ => rfl

theorem granted_groupView (db : Db) (g m : String) (names : List String) : db.groupView.granted g m names =
      match db.groups.get g, db.members.get (g, m) with
      | some group, some _ =>
        ((names ++ ["member"] ++ if m = group.founderPubkey then ["founder"] else []).dedup).filter
          fun name => (db.roles.get (g, name)).isSome
      | _, _ => [] := by
  have hfounder : db.groupView (.founder g) = (db.groups.get g).map Group.founderPubkey := rfl
  unfold GroupView.granted
  rw [groupView_member, hfounder]
  cases db.groups.get g with
  | none => cases db.members.get (g, m) <;> rfl
  | some group => cases db.members.get (g, m) <;> rfl

theorem map_get_replaced (g m : String) (names : List String) (row : RoleAssignment) (g' m' name : String) :
    (((db.memberRoles.deleteWhere fun k _ => k.1 = g && k.2.1 = m).putAll
        (names.map fun name => ((g, m, name), row))).get (g', m', name)).map RoleAssignment.assignedByPubkey =
      if g' = g ∧ m' = m then if name ∈ names then some row.assignedByPubkey else none
      else (db.memberRoles.get (g', m', name)).map RoleAssignment.assignedByPubkey := by
  have hlist : (names.map fun name => ((g, m, name), row)) =
      (names.map fun name => (g, m, name)).map fun k => (k, row) := by
    rw [List.map_map]
    rfl
  have hmem : (g', m', name) ∈ (names.map fun name => (g, m, name)) ↔ (g' = g ∧ m' = m) ∧ name ∈ names := by
    simp only [List.mem_map, Prod.mk.injEq]
    constructor
    · rintro ⟨_, hname, rfl, rfl, rfl⟩
      exact ⟨⟨rfl, rfl⟩, hname⟩
    rintro ⟨⟨rfl, rfl⟩, hname⟩
    exact ⟨name, hname, rfl, rfl, rfl⟩
  rw [hlist, Table.get_putAll_const, Table.get_deleteWhere]
  by_cases hk : g' = g ∧ m' = m
  · by_cases hname : name ∈ names
    · rw [if_pos (hmem.mpr ⟨hk, hname⟩), if_pos hk, if_pos hname]
      rfl
    rw [if_neg fun h => hname (hmem.mp h).2, if_pos hk, if_neg hname]
    simp [hk]
  · rw [if_neg fun h => hk (hmem.mp h).1, if_neg hk, ← Bool.decide_and, decide_eq_false hk]
    cases db.memberRoles.get (g', m', name) <;> rfl

theorem view_assign_nothing {names : List String} {sender : String} (h : db.groupView.granted g m names = []) :
    db.groupView = (GroupOp.assign g m names sender).action.act db.groupView := by
  funext c
  cases c with
  | assignment g' m' name =>
    rw [GroupOp.act_assignment, GroupOp.onAssignment]
    refine (when_self ?_).symm
    rintro ⟨-, -, hsome⟩
    exact absurd h hsome
  | _ => rfl

theorem view_assign {names : List String} {row : RoleAssignment} (h : db.groupView.granted g m names ≠ []) :
    ({ db with
      memberRoles := (db.memberRoles.deleteWhere fun k _ => k.1 = g && k.2.1 = m).putAll
        ((db.groupView.granted g m names).map fun name => ((g, m, name), row)) } : Db).groupView =
      (GroupOp.assign g m names row.assignedByPubkey).action.act db.groupView := by
  funext c
  cases c with
  | assignment g' m' name =>
    refine (map_get_replaced g m _ row g' m' name).trans (if_congr ?_ rfl rfl)
    exact ⟨fun hk => ⟨hk.1, hk.2, h⟩, fun hk => ⟨hk.1, hk.2.1⟩⟩
  | _ => rfl

theorem view_define {role : OrdinaryRole} {permissions : List String} {now : String} {row : Role}
    (hrow : row = (db.roles.get (g, role)).elim ⟨permissions, now, now⟩ ({ · with permissions, updatedAt := now })) :
    ({ db with roles := db.roles.put (g, role) row } : Db).groupView =
      (GroupOp.define g role permissions now).action.act db.groupView := by
  funext c
  cases c with
  | role g' name =>
    rw [GroupOp.act_role, GroupOp.onRole]
    refine get_put_when ?_ ?_
    · rw [Prod.mk.injEq]
    rw [hrow]
    cases db.roles.get (g, role.1) <;> rfl
  | _ => rfl

theorem map_get_unassigned (g name g' m name' : String) :
    ((db.memberRoles.deleteWhere fun k _ => k.1 = g && k.2.2 = name).get (g', m, name')).map
        RoleAssignment.assignedByPubkey =
      when (g' = g ∧ name' = name) (fun _ => none)
        ((db.memberRoles.get (g', m, name')).map RoleAssignment.assignedByPubkey) := by
  rw [Table.get_deleteWhere]
  by_cases hk : g' = g ∧ name' = name
  · rw [when_pos hk]
    simp [hk]
  rw [when_neg hk, ← Bool.decide_and, decide_eq_false hk]
  cases db.memberRoles.get (g', m, name') <;> rfl

theorem view_undefine_unknown {role : OrdinaryRole} (h : db.roles.get (g, role) = none) :
    db.groupView = (GroupOp.undefine g role).action.act db.groupView := by
  funext c
  cases c with
  | role g' name =>
    rw [GroupOp.act_role, GroupOp.onRole]
    refine (when_self ?_).symm
    rintro ⟨rfl, rfl⟩
    rw [groupView_role, h]
  | assignment g' m' name =>
    rw [GroupOp.act_assignment, GroupOp.onAssignment]
    refine (when_self ?_).symm
    rintro ⟨-, -, hsome⟩
    rw [groupView_role, h] at hsome
    cases hsome
  | _ => rfl

theorem view_undefine {role : OrdinaryRole} {row : Role} (h : db.roles.get (g, role) = some row) :
    ({ db with
      memberRoles := db.memberRoles.deleteWhere fun k _ => k.1 = g && k.2.2 = role
      roles := db.roles.delete (g, role) } : Db).groupView =
      (GroupOp.undefine g role).action.act db.groupView := by
  funext c
  cases c with
  | role g' name =>
    refine (Table.get_delete ..).trans (if_congr ?_ rfl rfl)
    rw [Prod.mk.injEq]
  | assignment g' m' name =>
    refine (map_get_unassigned g role g' m' name).trans (if_congr ?_ rfl rfl)
    rw [groupView_role, h]
    exact ⟨fun hk => ⟨hk.1, hk.2, rfl⟩, fun hk => ⟨hk.1, hk.2.1⟩⟩
  | _ => rfl

theorem map_get_addSystemMessage (call : Call) (e : Enrolment) (t : Table (String × String) Message) {body : String}
    (hbody : body = e.line.body) :
    ((addSystemMessage call e.groupId e.msgId body t).get (g, id)).map Message.shared =
      when (g = e.groupId ∧ id = e.msgId) (fun old => old.or (some e.line)) ((t.get (g, id)).map Message.shared) := by
  subst hbody
  unfold addSystemMessage
  cases hrow : t.get (e.groupId, e.msgId) with
  | some row =>
    refine (when_self ?_).symm
    rintro ⟨rfl, rfl⟩
    rw [hrow]
    rfl
  | none =>
    refine map_get_put_when ?_ ?_
    · rw [Prod.mk.injEq]
    rw [hrow]
    rfl

def withMemberRole (t : Table (String × String × String) RoleAssignment) (e : Enrolment) (now : String) :
    Table (String × String × String) RoleAssignment :=
  match t.get (e.groupId, e.pubkey, "member") with
  | some _ => t
  | none => t.put (e.groupId, e.pubkey, "member") ⟨e.sender, now⟩

theorem map_get_withMemberRole (t : Table (String × String × String) RoleAssignment) (e : Enrolment) (now : String) :
    ((withMemberRole t e now).get (g, m, name)).map RoleAssignment.assignedByPubkey =
      when (g = e.groupId ∧ m = e.pubkey ∧ name = "member") (fun old => old.or (some e.sender))
        ((t.get (g, m, name)).map RoleAssignment.assignedByPubkey) := by
  unfold withMemberRole
  cases hrow : t.get (e.groupId, e.pubkey, "member") with
  | some row =>
    refine (when_self ?_).symm
    rintro ⟨rfl, rfl, rfl⟩
    rw [hrow]
    rfl
  | none =>
    refine map_get_put_when ?_ ?_
    · rw [Prod.mk.injEq, Prod.mk.injEq]
    rw [hrow]
    rfl

theorem view_enroll_new (call : Call) (e : Enrolment) {row : Member} {body : String}
    (h : db.members.get (e.groupId, e.pubkey) = none) (hrow : row.shared = e.row) (hbody : body = e.line.body) :
    ({ db with
      members := db.members.put (e.groupId, e.pubkey) row
      messages := addSystemMessage call e.groupId e.msgId body db.messages
      memberRoles := withMemberRole db.memberRoles e call.now } : Db).groupView =
      (GroupOp.enroll e).action.act db.groupView := by
  funext c
  cases c with
  | member g m =>
    rw [GroupOp.act_member, GroupOp.onMember]
    refine map_get_put_when ?_ ?_
    · rw [Prod.mk.injEq]
    rw [h, hrow]
    rfl
  | message g id =>
    refine (map_get_addSystemMessage call e db.messages hbody).trans (if_congr ?_ rfl rfl)
    rw [groupView_member, h]
    exact ⟨fun hk => ⟨hk.1, hk.2, rfl⟩, fun hk => ⟨hk.1, hk.2.1⟩⟩
  | assignment g m name =>
    exact map_get_withMemberRole db.memberRoles e call.now
  | _ => rfl

theorem view_enroll_known (call : Call) (e : Enrolment) {row : Member}
    (h : db.members.get (e.groupId, e.pubkey) = some row) :
    ({ db with
      members := db.members.put (e.groupId, e.pubkey) (e.update row)
      memberRoles := withMemberRole db.memberRoles e call.now } : Db).groupView =
      (GroupOp.enroll e).action.act db.groupView := by
  funext c
  cases c with
  | member g m =>
    rw [GroupOp.act_member, GroupOp.onMember]
    refine map_get_put_when ?_ ?_
    · rw [Prod.mk.injEq]
    rw [h]
    rfl
  | message g id =>
    rw [GroupOp.act_message, GroupOp.onMessage]
    refine (when_self ?_).symm
    rintro ⟨-, -, hnew⟩
    rw [groupView_member, h] at hnew
    cases hnew
  | assignment g m name =>
    exact map_get_withMemberRole db.memberRoles e call.now
  | _ => rfl

end Db

end NexusGrid.Groups
