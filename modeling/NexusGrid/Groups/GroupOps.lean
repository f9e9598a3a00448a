import NexusGrid.Groups.State
import NexusGrid.Lib.Cells

/-! # Operations on the shared state of a group

What the members of a group share is a family of cells: roles, assignments, members, messages, bindings.
-/

namespace NexusGrid.Groups

open Lib

inductive Cell
  | founder (groupId : String)
  | role (groupId name : String)
  | assignment (groupId member name : String)
  | member (groupId pubkey : String)
  | message (groupId msgId : String)
  | binding (groupId relayUrl : String)

abbrev Cell.Value : Cell → Type
  | founder _ => Option String
  | role _ _ => Option Role
  | assignment _ _ _ => Option String
  | member _ _ => Option Member
  | message _ _ => Option Message
  | binding _ _ => Option RelayBinding

abbrev GroupView := (c : Cell) → c.Value

def Member.shared (m : Member) : Member := { m with lastHeartbeatAt := "", lastSeenAt := "" }

/-- A message without the time that it got here. -/
def Message.shared (m : Message) : Message :=
  { m with receivedAt := "", sentAt := if m.senderPubkey = "system" then "" else m.sentAt }

def RelayBinding.shared (b : RelayBinding) : RelayBinding :=
  { b with registeredAt := "", lastSeenAt := "", contentShareAt := "" }

def Db.groupView (db : Db) : GroupView
  | .founder g => (db.groups.get g).map Group.founderPubkey
  | .role g name => db.roles.get (g, name)
  | .assignment g m name => (db.memberRoles.get (g, m, name)).map RoleAssignment.assignedByPubkey
  | .member g m => (db.members.get (g, m)).map Member.shared
  | .message g id => (db.messages.get (g, id)).map Message.shared
  | .binding g url => (db.relayBindings.get (g, url)).map RelayBinding.shared

abbrev OrdinaryRole := { name : String // name ≠ "founder" ∧ name ≠ "member" }

def OrdinaryRole.of (name : String) : Option OrdinaryRole :=
  if h : name ≠ "founder" ∧ name ≠ "member" then some ⟨name, h⟩ else none

theorem OrdinaryRole.of_eq_none {name : String} (h : OrdinaryRole.of name = none) :
    name = "founder" ∨ name = "member" := by
  unfold OrdinaryRole.of at h
  split at h
  · cases h
  next hnot => rwa [← not_or, not_not] at hnot

theorem OrdinaryRole.of_eq_some {name : String} {r : OrdinaryRole} (h : OrdinaryRole.of name = some r) :
    r.1 = name := by
  unfold OrdinaryRole.of at h
  split at h
  · exact congrArg Subtype.val (Option.some.inj h).symm
  · cases h

structure Enrolment where
  groupId : String
  pubkey : String
  joinedAt : String
  displayName : Option String
  peerAddress : Option String
  nodeId : Option String
  sender : String

namespace Enrolment

variable (e : Enrolment)

def row : Member where
  joinedAt := e.joinedAt
  displayName := e.displayName.getD ""
  peerAddress := e.peerAddress.getD ""
  nodeId := e.nodeId.getD ""

def update (row : Member) : Member :=
  { row with
    displayName := e.displayName.getD row.displayName
    peerAddress := e.peerAddress.getD row.peerAddress
    nodeId := e.nodeId.getD row.nodeId }

def msgId : String := "sysjoin-" ++ e.pubkey ++ "-" ++ e.joinedAt

def line : Message where
  senderPubkey := "system"
  senderName := ""
  body := (if e.displayName.getD "" = "" then PyStr.take 8 e.pubkey else e.displayName.getD "") ++ " joined the chat"
  sentAt := ""
  receivedAt := ""
  deleted := false
  replyTo := ""
  replySnippet := ""
  replySender := ""
  attachKind := ""
  attachName := ""
  attachMime := ""
  attachSize := 0
  attachData := ""

end Enrolment

inductive GroupOp
  | idle
  /-- The member gets these roles and no others. -/
  | assign (groupId member : String) (names : List String) (sender : String)
  | define (groupId : String) (name : OrdinaryRole) (permissions : List String) (now : String)
  | undefine (groupId : String) (name : OrdinaryRole)
  | enroll (e : Enrolment)
  | mute (groupId member : String) (muted : Bool)
  | say (groupId msgId : String) (message : Message)
  | erase (groupId msgId sender : String)
  | bind (groupId relayUrl : String) (change : Option RelayBinding → Option RelayBinding)

/-- The roles of an assignment that this node knows, if it knows the member. -/
def GroupView.granted (v : GroupView) (groupId member : String) (names : List String) : List String :=
  if (v (.member groupId member)).isNone then []
  else match v (.founder groupId) with
    | none => []
    | some founder =>
      let requested := names ++ ["member"] ++ if member = founder then ["founder"] else []
      requested.dedup.filter fun name => (v (.role groupId name)).isSome

def isMuted (row : Option Member) : Bool := row.any Member.muted

/-- A message after a deletion by `sender`: only its author deletes it. -/
def Message.erasedBy (m : Message) (sender : String) : Message :=
  if m.senderPubkey = sender then { m with deleted := true, body := "" } else m

namespace GroupOp

def onRole (g name : String) : GroupOp → Option Role → Option Role
  | define g' name' permissions now => when (g = g' ∧ name = name') fun old =>
    some (match old with
      | none => ⟨permissions, now, now⟩
      | some row => { row with permissions, updatedAt := now })
  | undefine g' name' => when (g = g' ∧ name = name') fun _ => none
  | _ => id

def onAssignment (v : GroupView) (g m name : String) : GroupOp → Option String → Option String
  | assign g' m' names sender => when (g = g' ∧ m = m' ∧ v.granted g' m' names ≠ []) fun _ =>
    if name ∈ v.granted g' m' names then some sender else none
  | undefine g' name' => when (g = g' ∧ name = name' ∧ (v (.role g' name')).isSome) fun _ => none
  | enroll e => when (g = e.groupId ∧ m = e.pubkey ∧ name = "member") fun old => old.or (some e.sender)
  | _ => id

def onMember (g m : String) : GroupOp → Option Member → Option Member
  | enroll e => when (g = e.groupId ∧ m = e.pubkey) fun old => some (old.elim e.row e.update)
  | mute g' m' muted => when (g = g' ∧ m = m') fun old => old.map fun row => { row with muted }
  | _ => id

def onMessage (v : GroupView) (g id : String) : GroupOp → Option Message → Option Message
  | enroll e => when (g = e.groupId ∧ id = e.msgId ∧ (v (.member e.groupId e.pubkey)).isNone) fun old =>
    old.or (some e.line)
  | say g' id' m => when (g = g' ∧ id = id' ∧ isMuted (v (.member g' m.senderPubkey)) = false) fun old =>
    old.or (some m)
  | erase g' id' sender => when (g = g' ∧ id = id') fun old => old.map (·.erasedBy sender)
  | _ => fun old => old

def onBinding (g url : String) : GroupOp → Option RelayBinding → Option RelayBinding
  | bind g' url' change => when (g = g' ∧ url = url') change
  | _ => id

def action (op : GroupOp) : Action Cell Cell.Value := fun v c =>
  match c with
  | .founder _ => id
  | .role g name => op.onRole g name
  | .assignment g m name => op.onAssignment v g m name
  | .member g m => op.onMember g m
  | .message g id => op.onMessage v g id
  | .binding g url => op.onBinding g url

def Clash : GroupOp → GroupOp → Prop
  | assign g m _ _, assign g' m' _ _ => g = g' ∧ m = m'
  | assign g _ names _, define g' name _ _ => g = g' ∧ name.1 ∈ names
  | assign g _ names _, undefine g' name => g = g' ∧ name.1 ∈ names
  | assign g m _ _, enroll e => g = e.groupId ∧ m = e.pubkey
  | define g name _ _, define g' name' _ _ => g = g' ∧ name = name'
  | define g name _ _, undefine g' name' => g = g' ∧ name = name'
  | enroll e, enroll e' => e.groupId = e'.groupId ∧ (e.pubkey = e'.pubkey ∨ e.msgId = e'.msgId)
  | enroll e, mute g m _ => e.groupId = g ∧ e.pubkey = m
  | enroll e, say g id _ => e.groupId = g ∧ e.msgId = id
  | enroll e, erase g id sender => e.groupId = g ∧ e.msgId = id ∧ sender = "system"
  | mute g m _, mute g' m' _ => g = g' ∧ m = m'
  | mute g m _, say g' _ msg => g = g' ∧ m = msg.senderPubkey
  | say g id _, say g' id' _ => g = g' ∧ id = id'
  | say g id msg, erase g' id' sender => g = g' ∧ id = id' ∧ msg.senderPubkey = sender
  | bind g url _, bind g' url' _ => g = g' ∧ url = url'
  | _, _ => False

def Conflict (x y : GroupOp) : Prop := x ≠ y ∧ (Clash x y ∨ Clash y x)

section Commuting

variable {x y : GroupOp}

theorem not_clash_of_not_conflict (hne : x ≠ y) (h : ¬ Conflict x y) : ¬ Clash x y ∧ ¬ Clash y x := by
  rw [← not_or]
  exact fun hclash => h ⟨hne, hclash⟩

theorem act_member (v : GroupView) (g m : String) :
    y.action.act v (.member g m) = y.onMember g m (v (.member g m)) := rfl

theorem act_founder (v : GroupView) (g : String) : y.action.act v (.founder g) = v (.founder g) := rfl

theorem act_role (v : GroupView) (g name : String) :
    y.action.act v (.role g name) = y.onRole g name (v (.role g name)) := rfl

theorem act_assignment (v : GroupView) (g m name : String) :
    y.action.act v (.assignment g m name) = y.onAssignment v g m name (v (.assignment g m name)) := rfl

theorem act_message (v : GroupView) (g id : String) :
    y.action.act v (.message g id) = y.onMessage v g id (v (.message g id)) := rfl

variable {g g' id m sender : String} {names : List String}

theorem isNone_onMember (h : ∀ e, y = enroll e → ¬ (e.groupId = g ∧ e.pubkey = m))
    (old : Option Member) : (y.onMember g m old).isNone = old.isNone := by
  cases y with
  | enroll e =>
    have hother : ¬ (g = e.groupId ∧ m = e.pubkey) := fun hk => h e rfl ⟨hk.1.symm, hk.2.symm⟩
    rw [onMember, when_neg hother]
  | mute g' m' muted =>
    rw [onMember, when]
    split
    · exact Option.isNone_map
    · rfl
  | _ => rfl

theorem isMuted_onMember (h : ∀ g' m' muted, y = mute g' m' muted → ¬ (g' = g ∧ m' = m))
    (old : Option Member) : isMuted (y.onMember g m old) = isMuted old := by
  cases y with
  | enroll e =>
    rw [onMember, when]
    split
    · cases old with
      | none => rfl
      | some row => rfl
    · rfl
  | mute g' m' muted =>
    have hother : ¬ (g = g' ∧ m = m') := fun hk => h g' m' muted rfl ⟨hk.1.symm, hk.2.symm⟩
    rw [onMember, when_neg hother]
  | _ => rfl

theorem onRole_other {name : String}
    (hdefine : ∀ g' name' ps now, y = define g' name' ps now → ¬ (g' = g ∧ name'.1 = name))
    (hundefine : ∀ g' name', y = undefine g' name' → ¬ (g' = g ∧ name'.1 = name)) (old : Option Role) :
    y.onRole g name old = old := by
  cases y with
  | define g' name' ps now =>
    have hother : ¬ (g = g' ∧ name = name') := fun hk => hdefine g' name' ps now rfl ⟨hk.1.symm, hk.2.symm⟩
    rw [onRole, when_neg hother]
  | undefine g' name' =>
    have hother : ¬ (g = g' ∧ name = name') := fun hk => hundefine g' name' rfl ⟨hk.1.symm, hk.2.symm⟩
    rw [onRole, when_neg hother]
  | _ => rfl

/-- An operation on another role, or another member, keeps the roles. -/
theorem granted_act (hxy : ¬ Clash (assign g m names "") y) (v : GroupView) :
    GroupView.granted (y.action.act v) g m names = v.granted g m names := by
  have hmember : (y.onMember g m (v (.member g m))).isNone = (v (.member g m)).isNone := by
    refine isNone_onMember ?_ _
    rintro e rfl ⟨rfl, rfl⟩
    exact hxy ⟨rfl, rfl⟩
  have hrole : ∀ name, name ∈ names ∨ name = "member" ∨ name = "founder" →
      y.action.act v (.role g name) = v (.role g name) := by
    intro name hname
    have hspecial : ∀ name' : OrdinaryRole, name'.1 = name → name'.1 ∈ names := by
      rintro name' rfl
      rcases hname with hmem | heq | heq
      · exact hmem
      · exact absurd heq name'.2.2
      · exact absurd heq name'.2.1
    refine onRole_other ?_ ?_ _
    · rintro g' name' ps now rfl ⟨rfl, heq⟩
      exact hxy ⟨rfl, hspecial name' heq⟩
    rintro g' name' rfl ⟨rfl, heq⟩
    exact hxy ⟨rfl, hspecial name' heq⟩
  unfold GroupView.granted
  rw [act_member, hmember]
  split
  · rfl
  rw [act_founder]
  split
  · rfl
  refine List.filter_congr fun name hname => ?_
  have hnames : name ∈ names ∨ name = "member" ∨ name = "founder" := by
    simp only [List.mem_dedup, List.mem_append, List.mem_singleton, List.mem_ite_nil_right, or_assoc] at hname
    exact hname.imp_right (Or.imp_right And.right)
  rw [hrole name hnames]

theorem blind_of_not_clash (hxy : ¬ Clash x y) (hyx : ¬ Clash y x) (hne : x ≠ y) : x.action.Blind y.action := by
  intro (v : GroupView)
  funext c
  cases c with
  | assignment g m name =>
    show x.onAssignment (y.action.act v) g m name = x.onAssignment v g m name
    cases x with
    | assign g' m' names sender =>
      have hgranted : GroupView.granted (y.action.act v) g' m' names = v.granted g' m' names := by
        refine granted_act (fun h => hxy ?_) v
        cases y <;> exact h
      rw [onAssignment, onAssignment, hgranted]
    | undefine g' name' =>
      have hrole : y.action.act v (.role g' name') = v (.role g' name') := by
        refine onRole_other ?_ ?_ _
        · rintro g'' name'' ps now rfl ⟨rfl, heq⟩
          exact hyx ⟨rfl, Subtype.ext heq⟩
        rintro g'' name'' rfl ⟨rfl, heq⟩
        exact hne (by rw [Subtype.ext heq])
      rw [onAssignment, onAssignment, hrole]
    | _ => rfl
  | message g id =>
    show x.onMessage (y.action.act v) g id = x.onMessage v g id
    cases x with
    | enroll e =>
      have hmember : (y.action.act v (.member e.groupId e.pubkey)).isNone =
          (v (.member e.groupId e.pubkey)).isNone := by
        refine isNone_onMember ?_ _
        rintro e' rfl ⟨hg, hm⟩
        exact hxy ⟨hg.symm, .inl hm.symm⟩
      rw [onMessage, onMessage, hmember]
    | say g' id' msg =>
      have hmuted : isMuted (y.action.act v (.member g' msg.senderPubkey)) =
          isMuted (v (.member g' msg.senderPubkey)) := by
        refine isMuted_onMember ?_ _
        rintro g'' m'' muted rfl ⟨rfl, rfl⟩
        exact hyx ⟨rfl, rfl⟩
      rw [onMessage, onMessage, hmuted]
    | _ => rfl
  | _ => rfl

/-! ### Single cells

Two operations of different kinds are compared in the order of their ranks only. -/

def rank : GroupOp → Nat
  | assign .. => 0
  | define .. => 1
  | undefine .. => 2
  | enroll _ => 3
  | mute .. => 4
  | say .. => 5
  | erase .. => 6
  | bind .. => 7
  | idle => 8

theorem onRole_comm (hrank : x.rank ≤ y.rank) (hxy : ¬ Clash x y) (gc name : String) (old : Option Role) :
    x.onRole gc name (y.onRole gc name old) = y.onRole gc name (x.onRole gc name old) := by
  cases x with
  | define g role permissions now =>
    cases y with
    | define g' role' permissions' now' =>
      simp only [onRole]
      refine when_comm ?_
      rintro ⟨rfl, hname⟩ ⟨rfl, hname'⟩
      exact absurd ⟨rfl, Subtype.ext (hname.symm.trans hname')⟩ hxy
    | undefine g' role' =>
      simp only [onRole]
      refine when_comm ?_
      rintro ⟨rfl, hname⟩ ⟨rfl, hname'⟩
      exact absurd ⟨rfl, Subtype.ext (hname.symm.trans hname')⟩ hxy
    | _ => rfl
  | undefine g role =>
    cases y with
    | define g' role' permissions' now' => exact absurd hrank (by simp [rank])
    | undefine g' role' =>
      simp only [onRole]
      exact when_comm fun _ _ => rfl
    | _ => rfl
  | _ => rfl

theorem onMember_comm (hrank : x.rank ≤ y.rank) (hxy : ¬ Clash x y) (gc mc : String) (old : Option Member) :
    x.onMember gc mc (y.onMember gc mc old) = y.onMember gc mc (x.onMember gc mc old) := by
  cases x with
  | enroll e =>
    cases y with
    | enroll e' =>
      simp only [onMember]
      refine when_comm ?_
      rintro ⟨rfl, rfl⟩ ⟨hg, hm⟩
      exact absurd ⟨hg, .inl hm⟩ hxy
    | mute g' m' muted' =>
      simp only [onMember]
      refine when_comm ?_
      rintro ⟨rfl, rfl⟩ ⟨hg, hm⟩
      exact absurd ⟨hg, hm⟩ hxy
    | _ => rfl
  | mute g m muted =>
    cases y with
    | enroll e' => exact absurd hrank (by simp [rank])
    | mute g' m' muted' =>
      simp only [onMember]
      refine when_comm ?_
      rintro ⟨rfl, rfl⟩ ⟨rfl, rfl⟩
      exact absurd ⟨rfl, rfl⟩ hxy
    | _ => rfl
  | _ => rfl

theorem mem_granted {v : GroupView} {name : String} (h : name ∈ v.granted g m names) :
    name ∈ names ∨ name = "member" ∨ name = "founder" := by
  unfold GroupView.granted at h
  split at h
  · cases h
  split at h
  · cases h
  have hname := List.mem_dedup.mp (List.mem_filter.mp h).1
  simp only [List.mem_append, List.mem_singleton, List.mem_ite_nil_right, or_assoc] at hname
  exact hname.imp_right (Or.imp_right And.right)

theorem not_granted {v : GroupView} {name : OrdinaryRole} (h : name.1 ∉ names) : name.1 ∉ v.granted g m names := by
  intro hmem
  rcases mem_granted hmem with hnames | hmember | hfounder
  · exact h hnames
  · exact name.2.2 hmember
  · exact name.2.1 hfounder

theorem onAssignment_comm (hrank : x.rank ≤ y.rank) (hxy : ¬ Clash x y) (v : GroupView) (gc mc name : String)
    (old : Option String) : x.onAssignment v gc mc name (y.onAssignment v gc mc name old) =
      y.onAssignment v gc mc name (x.onAssignment v gc mc name old) := by
  cases x with
  | assign g m names sender =>
    cases y with
    | assign g' m' names' sender' =>
      simp only [onAssignment]
      refine when_comm ?_
      rintro ⟨rfl, rfl, -⟩ ⟨rfl, rfl, -⟩
      exact absurd ⟨rfl, rfl⟩ hxy
    | undefine g' role' =>
      simp only [onAssignment]
      refine when_comm ?_
      rintro ⟨rfl, rfl, -⟩ ⟨rfl, rfl, -⟩
      exact if_neg (not_granted fun hmem => hxy ⟨rfl, hmem⟩)
    | enroll e' =>
      simp only [onAssignment]
      refine when_comm ?_
      rintro ⟨rfl, rfl, -⟩ ⟨rfl, rfl, -⟩
      exact absurd ⟨rfl, rfl⟩ hxy
    | _ => rfl
  | undefine g role =>
    cases y with
    | assign g' m' names' sender' => exact absurd hrank (by simp [rank])
    | undefine g' role' =>
      simp only [onAssignment]
      exact when_comm fun _ _ => rfl
    | enroll e' =>
      simp only [onAssignment]
      refine when_comm ?_
      rintro ⟨-, rfl, -⟩ ⟨-, -, hname⟩
      exact absurd hname role.2.2
    | _ => rfl
  | enroll e =>
    cases y with
    | assign g' m' names' sender' => exact absurd hrank (by simp [rank])
    | undefine g' role' => exact absurd hrank (by simp [rank])
    | enroll e' =>
      simp only [onAssignment]
      refine when_comm ?_
      rintro ⟨rfl, rfl, -⟩ ⟨hg, hm, -⟩
      exact absurd ⟨hg, .inl hm⟩ hxy
    | _ => rfl
  | _ => rfl

theorem erasedBy_of_ne {m : Message} (h : m.senderPubkey ≠ sender) : m.erasedBy sender = m := if_neg h

theorem senderPubkey_erasedBy (m : Message) (sender : String) : (m.erasedBy sender).senderPubkey = m.senderPubkey := by
  unfold Message.erasedBy
  split <;> rfl

theorem erasedBy_comm (m : Message) (sender sender' : String) :
    (m.erasedBy sender).erasedBy sender' = (m.erasedBy sender').erasedBy sender := by
  by_cases h : m.senderPubkey = sender
  · by_cases h' : m.senderPubkey = sender'
    · rw [← h, ← h']
    · rw [erasedBy_of_ne h', erasedBy_of_ne (by rwa [senderPubkey_erasedBy])]
  · rw [erasedBy_of_ne h, erasedBy_of_ne (m := m.erasedBy sender') (by rwa [senderPubkey_erasedBy])]

theorem or_map_erasedBy {m : Message} (h : m.senderPubkey ≠ sender) (old : Option Message) :
    (old.map (·.erasedBy sender)).or (some m) = (old.or (some m)).map (·.erasedBy sender) := by
  cases old with
  | none => simp [erasedBy_of_ne h]
  | some row => rfl

theorem onMessage_comm (hrank : x.rank ≤ y.rank) (hxy : ¬ Clash x y) (v : GroupView) (gc idc : String)
    (old : Option Message) :
    x.onMessage v gc idc (y.onMessage v gc idc old) = y.onMessage v gc idc (x.onMessage v gc idc old) := by
  cases x with
  | enroll e =>
    cases y with
    | enroll e' =>
      simp only [onMessage]
      refine when_comm ?_
      rintro ⟨rfl, rfl, -⟩ ⟨hg, hid, -⟩
      exact absurd ⟨hg, .inr hid⟩ hxy
    | say g' id' msg' =>
      simp only [onMessage]
      refine when_comm ?_
      rintro ⟨rfl, rfl, -⟩ ⟨hg, hid, -⟩
      exact absurd ⟨hg, hid⟩ hxy
    | erase g' id' sender' =>
      simp only [onMessage]
      refine when_comm ?_
      rintro ⟨rfl, rfl, -⟩ ⟨hg, hid⟩
      exact or_map_erasedBy (fun heq => hxy ⟨hg, hid, heq.symm⟩) old
    | _ => rfl
  | say g id msg =>
    cases y with
    | enroll e' => exact absurd hrank (by simp [rank])
    | say g' id' msg' =>
      simp only [onMessage]
      refine when_comm ?_
      rintro ⟨rfl, rfl, -⟩ ⟨rfl, rfl, -⟩
      exact absurd ⟨rfl, rfl⟩ hxy
    | erase g' id' sender' =>
      simp only [onMessage]
      refine when_comm ?_
      rintro ⟨rfl, rfl, -⟩ ⟨rfl, rfl⟩
      exact or_map_erasedBy (fun heq => hxy ⟨rfl, rfl, heq⟩) old
    | _ => rfl
  | erase g id sender =>
    cases y with
    | enroll e' => exact absurd hrank (by simp [rank])
    | say g' id' msg' => exact absurd hrank (by simp [rank])
    | erase g' id' sender' =>
      simp only [onMessage]
      refine when_comm fun _ _ => ?_
      simp only [Option.map_map, Function.comp_def, erasedBy_comm]
    | _ => rfl
  | _ => rfl

theorem onBinding_comm (hxy : ¬ Clash x y) (g url : String) (old : Option RelayBinding) :
    x.onBinding g url (y.onBinding g url old) = y.onBinding g url (x.onBinding g url old) := by
  cases x with
  | bind g₁ url₁ change₁ =>
    cases y with
    | bind g₂ url₂ change₂ =>
      refine when_comm ?_
      rintro ⟨rfl, rfl⟩ ⟨rfl, rfl⟩
      exact absurd ⟨rfl, rfl⟩ hxy
    | _ => rfl
  | _ => rfl

theorem cell_comm (hrank : x.rank ≤ y.rank) (hxy : ¬ Clash x y) (v : GroupView) (c : Cell) (old : c.Value) :
    x.action v c (y.action v c old) = y.action v c (x.action v c old) := by
  cases c with
  | founder g => rfl
  | role g name => exact onRole_comm hrank hxy g name old
  | assignment g m name => exact onAssignment_comm hrank hxy v g m name old
  | member g m => exact onMember_comm hrank hxy g m old
  | message g id => exact onMessage_comm hrank hxy v g id old
  | binding g url => exact onBinding_comm hxy g url old

/-- **Operations commute** unless they are in conflict. -/
theorem act_comm_of_not_conflict (h : ¬ Conflict x y) (v : GroupView) :
    x.action.act (y.action.act v) = y.action.act (x.action.act v) := by
  by_cases hne : x = y
  · rw [hne]
  obtain ⟨hxy, hyx⟩ := not_clash_of_not_conflict hne h
  refine Action.act_comm (blind_of_not_clash hxy hyx hne) (blind_of_not_clash hyx hxy (Ne.symm hne)) ?_ v
  intro v c old
  rcases Nat.le_total x.rank y.rank with hrank | hrank
  · exact cell_comm hrank hxy v c old
  · exact (cell_comm hrank hyx v c old).symm

end Commuting

end GroupOp

end NexusGrid.Groups
