import NexusGrid.Lib.Base64
import NexusGrid.Lib.Blocks
import NexusGrid.Storage.Reach

/-! # A deposit in several transfers

`transfer_deposit` sends the chunks of a file, and after an interruption `_handle_resume_reply` launches it again for
the chunks that the host does not report.
-/

namespace NexusGrid.Storage

open Lib

/-- The file, `encrypt_chunk` under its key, and where the host keeps it. -/
structure Source where
  file : List UInt8
  encrypt : List UInt8 → Nat → List UInt8
  depositor : String
  id : String
  depositDir : String → String → String

structure Series where
  host : Node
  plan : List Nat
  /-- The chunks with a positive acknowledgement. -/
  acked : List Nat

inductive SeriesEvent
  | initial
  | resume (e : Env)
  | chunk (e : Env) (i : Nat) (heard : Bool)
  | restart

namespace Source

variable (c : Source)

def chunks : Nat := chunkCount c.file.length

/-- `fh.seek` and `fh.read` for a chunk. -/
def block (i : Nat) : List UInt8 := slice c.file (i * chunkPlaintextBytes) ((i + 1) * chunkPlaintextBytes)

/-- The blob of a frame. -/
def blob (i : Nat) : List UInt8 := c.encrypt (c.block i) i

def b64 (i : Nat) : String := String.ofList (Base64.encode false (c.blob i))

def dir : String := c.depositDir c.id c.depositor

def env (e : Env) : Env := { e with b64decode := fun s => Base64.decode false s.toList, depositDir := c.depositDir }

/-- What the host reports to a resume request, if it answers. -/
def reported (n : Node) : Option (List Nat) :=
  if c.id = "" then none
  else ((n.row? .host c.id).filter fun row => row.depositorUuid = c.depositor).map fun _ => n.chunksIn c.dir

/-- The host after the frame of a chunk. -/
def arrive (e : Env) (n : Node) (i : Nat) : Node := n.receiveChunk (c.env e) c.depositor c.id i (c.b64 i)

def step (s : Series) : SeriesEvent → Series
  | .initial => { s with plan := List.range c.chunks }
  | .resume e =>
    match c.reported s.host with
    | none => s
    | some received => { s with
        host := s.host.handleResumeRequest (c.env e) c.depositor c.id
        plan := (List.range c.chunks).filter (· ∉ received) }
  | .chunk e i heard =>
    if i ∈ s.plan then
      let host := c.arrive e s.host i
      let acks := host.sent.drop s.host.sent.length
      ⟨host, s.plan.erase i, if heard ∧ (c.depositor, c.id, .chunkAck i true "") ∈ acks then i :: s.acked else s.acked⟩
    else s
  | .restart => { s with host := { s.host with pumps := ∅ } }

/-- A write that fails leaves acknowledged chunks alone. -/
def Harmless (s : Series) : SeriesEvent → Prop
  | .chunk e i _ => i ∈ s.plan → ∀ left, e.write = .failed (some left) → i ∉ s.acked
  | _ => True

/-- All chunks are sent only when none is acknowledged. -/
def InitialFirst (s : Series) : SeriesEvent → Prop
  | .initial => s.acked = []
  | _ => True

/-- The host keeps the deposit in one directory, and what is acknowledged is there. -/
structure Sound (row : DepositRow) (s : Series) : Prop where
  row : s.host.row? .host c.id = some row
  pump : ∀ p, s.host.pumps.get c.id = some p → p.dir = c.dir
  acked : ∀ i ∈ s.acked, s.host.chunkFiles.get (c.dir, i) = some (c.blob i)

variable {c} {row : DepositRow} {s : Series} {e : Env} {i : Nat}

theorem decode_b64 (c : Source) (e : Env) (i : Nat) : (c.env e).b64decode (c.b64 i) = some (c.blob i) := by
  simp [env, b64, Base64.decode_encode]

/-- The report is the reply that `_handle_resume_request` sends. -/
theorem handleResumeRequest_reported {n : Node} {received : List Nat} (h : c.reported n = some received) :
    received = n.chunksIn c.dir ∧ ∃ pumps, n.handleResumeRequest (c.env e) c.depositor c.id = { n with
        pumps := pumps, sent := n.sent ++ [(c.depositor, c.id, .resumeReply received)] } ∧
      ∀ p, pumps.get c.id = some p → n.pumps.get c.id = some p ∨ p.dir = c.dir := by
  unfold reported at h
  split at h
  · cases h
  next hid =>
  obtain ⟨row, hrow, rfl⟩ := Option.map_eq_some_iff.mp h
  obtain ⟨hrow, hdep⟩ := Option.filter_eq_some_iff.mp hrow
  have hdep : row.depositorUuid = c.depositor := by simpa using hdep
  refine ⟨rfl, ?_⟩
  simp only [Node.handleResumeRequest, hid, hrow, hdep, if_false, ne_eq, not_true_eq_false]
  cases hpump : n.pumps.get c.id with
  | some p => exact ⟨n.pumps, rfl, fun p' hp' => .inl (hpump.symm.trans hp')⟩
  | none =>
    refine ⟨n.pumps.put c.id (Node.rebuiltPump (c.env e) n c.depositor c.id row), rfl, fun p hp => .inr ?_⟩
    rw [Table.get_put_self] at hp
    cases hp
    exact congrArg (c.depositDir c.id) hdep

theorem Sound.get_put (h : c.Sound row s) {x : List UInt8} (hx : x = c.blob i ∨ i ∉ s.acked) :
    ∀ j ∈ s.acked, (s.host.chunkFiles.put (c.dir, i) x).get (c.dir, j) = some (c.blob j) := by
  intro j hj
  rw [Table.get_put]
  split
  next heq =>
    obtain rfl : j = i := (Prod.mk.inj heq).2
    obtain rfl | hnot := hx
    · rfl
    · exact absurd hj hnot
  · exact h.acked j hj

theorem sound_chunk (h : c.Sound row s) {heard : Bool} (hsafe : Harmless s (.chunk e i heard)) :
    c.Sound row (c.step s (.chunk e i heard)) := by
  unfold step
  dsimp only
  split
  case isFalse => exact h
  case isTrue hplan =>
    have hfresh := hsafe hplan
    obtain ⟨out, heq, hneg⟩ | ⟨p, blob, hp, -, hdecode, hwritten⟩ :=
      Node.receiveChunk_cases (c.env e) s.host c.depositor c.id i (c.b64 i)
    · simp only [arrive, heq, List.drop_left, hneg, and_false, if_false]
      exact ⟨h.row, h.pump, h.acked⟩
    cases hdecode.symm.trans (c.decode_b64 e i)
    have hdir : p.dir = c.dir := h.pump p hp
    obtain ⟨-, heq⟩ | ⟨left, hwrite, heq⟩ := hwritten
    · rw [hdir] at heq
      simp only [arrive, heq, List.drop_left, List.mem_singleton, and_true]
      refine ⟨h.row, fun p' hp' => ?_, ?_⟩
      · rw [Table.get_put_self] at hp'
        exact Option.some.inj hp' ▸ hdir
      intro j hj
      have hold := h.get_put (i := i) (.inl rfl)
      split at hj
      · rcases List.mem_cons.mp hj with rfl | hj
        · exact Table.get_put_self _ _ _
        · exact hold j hj
      · exact hold j hj
    · rw [hdir] at heq
      simp only [arrive, heq, List.drop_left, List.mem_singleton, Prod.mk.injEq, Reply.chunkAck.injEq,
        Bool.true_eq_false, and_false, false_and, if_false]
      exact ⟨h.row, h.pump, h.get_put (.inr (hfresh left hwrite))⟩

theorem sound_step (h : c.Sound row s) (ev : SeriesEvent) (hsafe : Harmless s ev) : c.Sound row (c.step s ev) := by
  cases ev with
  | initial =>
    simp only [step]
    exact ⟨h.row, h.pump, h.acked⟩
  | restart => exact ⟨h.row, fun p hp => by simp [step] at hp, h.acked⟩
  | chunk e i heard => exact sound_chunk h hsafe
  | resume e =>
    cases hrep : c.reported s.host with
    | none => simpa [step, hrep] using h
    | some received =>
      obtain ⟨-, pumps, heq, hpumps⟩ := handleResumeRequest_reported (e := e) hrep
      simp only [step, hrep, heq]
      exact ⟨h.row, fun p hp => (hpumps p hp).elim (h.pump p) fun hdir => hdir, h.acked⟩

/-- No chunk under way is acknowledged. -/
structure Fresh (s : Series) : Prop where
  nodup : s.plan.Nodup
  new : ∀ i ∈ s.plan, i ∉ s.acked

theorem harmless_of_fresh (h : Fresh s) (ev : SeriesEvent) : Harmless s ev := by
  cases ev with
  | chunk e i heard => exact fun hplan _ _ => h.new i hplan
  | _ => trivial

theorem fresh_step (hsound : c.Sound row s) (h : Fresh s) (ev : SeriesEvent) (hfirst : InitialFirst s ev) :
    Fresh (c.step s ev) := by
  cases ev with
  | initial =>
    have hnone : s.acked = [] := hfirst
    exact ⟨List.nodup_range, fun i _ => by simp [step, hnone]⟩
  | restart => exact ⟨h.nodup, h.new⟩
  | chunk e i heard =>
    unfold step
    dsimp only
    split
    · refine ⟨h.nodup.erase i, fun j hj => ?_⟩
      obtain ⟨hne, hmem⟩ := (h.nodup.mem_erase_iff).mp hj
      split
      · simp [hne, h.new j hmem]
      · exact h.new j hmem
    · exact h
  | resume e =>
    cases hrep : c.reported s.host with
    | none => simpa [step, hrep] using h
    | some received =>
      obtain ⟨rfl, -⟩ := handleResumeRequest_reported (e := e) hrep
      simp only [step, hrep]
      refine ⟨List.nodup_range.filter _, fun i hi hacked => ?_⟩
      have hthere := Node.mem_chunksIn.mpr ⟨_, hsound.acked i hacked⟩
      simp only [List.mem_filter, decide_eq_true_eq] at hi
      exact hi.2 hthere

theorem sound_run {s : Series} {es : List SeriesEvent} (hs : c.Sound row s) (hfresh : Fresh s)
    (h : Along c.step Harmless s es ∨ Along c.step InitialFirst s es) : c.Sound row (run c.step s es) := by
  obtain h | h := h
  · exact run_invariant (P := c.Sound row) (fun s ev hsafe hs => sound_step hs ev hsafe) hs h
  exact (run_invariant (P := fun s => c.Sound row s ∧ Fresh s) (fun s ev hfirst hs =>
    ⟨sound_step hs.1 ev (harmless_of_fresh hs.2 ev), fresh_step hs.1 hs.2 ev hfirst⟩) ⟨hs, hfresh⟩ h).1

theorem flatMap_block (c : Source) : (List.range c.chunks).flatMap c.block = c.file := by
  have hend : c.file.length ≤ c.chunks * chunkPlaintextBytes :=
    Nat.le_of_not_lt fun h => Nat.lt_irrefl _ ((lt_chunkCount_iff _ _).mpr h)
  exact flatMap_slice_all c.file hend

end Source

/-- **A deposit in several transfers.** -/
theorem series_restores_file (c : Source) (decrypt : List UInt8 → Nat → Option (List UInt8))
    (hdecrypt : ∀ plaintext i, decrypt (c.encrypt plaintext i) i = some plaintext) (n : Node) (row : DepositRow)
    (hrow : n.row? .host c.id = some row) (hpump : ∀ p, n.pumps.get c.id = some p → p.dir = c.dir)
    (es : List SeriesEvent)
    (hes : Along c.step Source.Harmless ⟨n, [], []⟩ es ∨ Along c.step Source.InitialFirst ⟨n, [], []⟩ es)
    (hacked : ∀ i < c.chunks, i ∈ (run c.step ⟨n, [], []⟩ es).acked) :
    reassemble (fun i => ((run c.step ⟨n, [], []⟩ es).host.chunkFiles.get (c.dir, i)).bind fun blob => decrypt blob i)
      c.chunks = some c.file := by
  have hstart : c.Sound row ⟨n, [], []⟩ := ⟨hrow, hpump, nofun⟩
  have hend := Source.sound_run hstart ⟨List.nodup_nil, nofun⟩ hes
  have hread : ∀ i < c.chunks, (((run c.step ⟨n, [], []⟩ es).host.chunkFiles.get (c.dir, i)).bind fun blob =>
      decrypt blob i) = some (c.block i) := by
    intro i hi
    rw [hend.acked i (hacked i hi)]
    exact hdecrypt (c.block i) i
  rw [reassemble_eq_some hread, c.flatMap_block]

/-- A file of one byte, with a cipher that puts the index in front. -/
def Source.tiny : Source :=
  ⟨[7], fun plaintext i => UInt8.ofNat i :: plaintext, "depositor", "d", fun id depositor => depositor ++ "/" ++ id⟩

/-- A resume finds a chunk missing whose acknowledgement was lost. -/
def tinySeries : List SeriesEvent := [.initial, .restart, .chunk .plain 0 true, .resume .plain, .chunk .plain 0 true]

theorem series_restores_file_tiny :
    reassemble (fun i => ((run Source.tiny.step ⟨{ Node.hosting .transferring with chunkFiles := ∅ }, [], []⟩
      tinySeries).host.chunkFiles.get (Source.tiny.dir, i)).bind fun blob => some blob.tail) Source.tiny.chunks =
      some [7] :=
  series_restores_file .tiny (fun blob _ => some blob.tail) (fun _ _ => rfl)
    { Node.hosting .transferring with chunkFiles := ∅ } (.plain .host .transferring) rfl
    (fun p hp => by obtain rfl := Option.some.inj hp; decide) tinySeries
    (.inr ⟨rfl, trivial, trivial, trivial, trivial, trivial⟩) (by decide +kernel)

end NexusGrid.Storage
