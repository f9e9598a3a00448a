import NexusGrid.Groups.Authority
import NexusGrid.Groups.UsageLedger

/-! # Who can raise a member's standing

The consumer signs a receipt, so that the provider can prove its contribution (`security/usage_receipt.py`).
-/

namespace NexusGrid.Groups

open Lib

/-- One side of the exchanges that `global_usage_summary` adds up. -/
structure UsageSide where
  computeSecs : Int := 0
  tasks : Nat := 0
  storageBytes : Int := 0
  serviceSecs : Int := 0
  serviceBytes : Int := 0
  partners : List String := []
deriving DecidableEq

/-- What `global_usage_summary` counts. -/
structure UsageSummary where
  given : UsageSide := {}
  taken : UsageSide := {}
  serviceUsers : List String := []
deriving DecidableEq

def UsageSide.add (s : UsageSide) (r : UsageReceipt) (partner : String) : UsageSide :=
  let s := { s with partners := s.partners.insert partner }
  if r.kind = "compute" then { s with computeSecs := s.computeSecs + r.amount, tasks := s.tasks + 1 }
  else if r.kind = "storage" then { s with storageBytes := s.storageBytes + r.amount }
  else if r.kind = "service" then { s with serviceSecs := s.serviceSecs + r.amount }
  else if r.kind = "service_bytes" then { s with serviceBytes := s.serviceBytes + r.amount }
  else s

/-- The body of the loop of `global_usage_summary`. -/
def UsageSummary.add (me : String) (s : UsageSummary) (r : UsageReceipt) : UsageSummary :=
  -- a receipt for oneself is on the side of the provider only
  if r.providerPubkey = me then { s with
    given := s.given.add r r.consumerPubkey
    serviceUsers := if r.kind = "service" then s.serviceUsers.insert r.consumerPubkey else s.serviceUsers }
  else { s with taken := s.taken.add r r.providerPubkey }

namespace Db

/-- `global_usage_summary` of the node with the key `me`. -/
def globalUsageSummary (db : Db) (me : String) : UsageSummary :=
  ((db.usageReceipts.rows.map Prod.snd).filter fun r => r.providerPubkey = me || r.consumerPubkey = me).foldl
    (UsageSummary.add me) {}

end Db

namespace UsageSummary

def contributions (s : UsageSummary) : UsageSide × List String := (s.given, s.serviceUsers)

variable {me : String} {s s' : UsageSummary} {r : UsageReceipt}

theorem contributions_add_of_ne (h : r.providerPubkey ≠ me) : (s.add me r).contributions = s.contributions := by
  rw [add, if_neg h]
  rfl

theorem contributions_add_congr (h : s.contributions = s'.contributions) (r : UsageReceipt) :
    (s.add me r).contributions = (s'.add me r).contributions := by
  obtain ⟨hgiven, husers⟩ := Prod.mk.inj h
  by_cases hprovider : r.providerPubkey = me
  · simp only [add, if_pos hprovider, contributions, hgiven, husers]
  · rw [contributions_add_of_ne hprovider, contributions_add_of_ne hprovider, h]

theorem contributions_foldl (h : s.contributions = s'.contributions) (rows : List UsageReceipt) :
    (rows.foldl (add me) s).contributions =
      ((rows.filter fun r => r.providerPubkey = me).foldl (add me) s').contributions := by
  induction rows generalizing s s' with
  | nil => exact h
  | cons r rows ih =>
    by_cases hprovider : r.providerPubkey = me
    · rw [List.filter_cons_of_pos (by simpa using hprovider)]
      exact ih (contributions_add_congr h r)
    rw [List.filter_cons_of_neg (by simpa using hprovider)]
    exact ih ((contributions_add_of_ne hprovider).trans h)

end UsageSummary

/-- Key pairs and signatures. -/
structure Signing (p : Primitives) where
  Key : Type
  pub : Key → String
  sign : Key → List UInt8 → List UInt8
  exclusive : ∀ {key pubkey message message'}, p.verify pubkey (sign key message) message' = true → pubkey = pub key

def UsageDelivery.SignedWith {p : Primitives} (S : Signing p) (known : S.Key → Prop) (d : UsageDelivery) : Prop :=
  ∃ key message, known key ∧ p.b64decode d.sig = some (S.sign key message)

def UsageDelivery.consumer (p : Primitives) (d : UsageDelivery) : String :=
  Json.textAt p.repr d.receipt "consumer_pubkey"

def UsageDelivery.provider (p : Primitives) (d : UsageDelivery) : String :=
  Json.textAt p.repr d.receipt "provider_pubkey"

/-- The receipt is one of compute in a group, and names `key` as its provider. -/
def UsageDelivery.Credits (p : Primitives) (key : String) (d : UsageDelivery) : Prop :=
  (Json.textAt p.repr d.receipt "group_id" ≠ "" ∧ Json.textAt p.repr d.receipt "kind" = "compute") ∧ d.provider p = key

namespace Db

variable {p : Primitives} {call : Call} {db : Db} {d : UsageDelivery} {key : String}

theorem verifyReceipt_of_applies (h : db.applies p d = true) : verifyReceipt p d.receipt d.sig = true := by
  by_contra hfalse
  rw [Bool.not_eq_true] at hfalse
  simp [applies, storeAndApply, hfalse] at h

theorem consumer_of_signedWith {S : Signing p} {known : S.Key → Prop} (hsigned : d.SignedWith S known)
    (h : db.applies p d = true) : ∃ k, known k ∧ d.consumer p = S.pub k := by
  obtain ⟨k, message, hk, hsig⟩ := hsigned
  have hverify := verifyReceipt_of_applies h
  simp only [verifyReceipt, hsig, Bool.and_eq_true] at hverify
  exact ⟨k, hk, S.exclusive hverify.2⟩

theorem contributed_deliver (db : Db) (d : UsageDelivery) (g m : String) :
    (db.applies p d = false ∧ (db.deliver p d).contributed g m = db.contributed g m) ∨
      (db.applies p d = true ∧ (db.deliver p d).contributed g m = db.contributed g m +
        if (Json.textAt p.repr d.receipt "group_id" ≠ "" ∧ Json.textAt p.repr d.receipt "kind" = "compute") ∧
          g = Json.textAt p.repr d.receipt "group_id" ∧ m = d.provider p then 1 else 0) := by
  rcases deliver_cases p db d with ⟨hno, hdb⟩ | ⟨amount, hyes, -, hdb⟩
  · exact .inl ⟨hno, by rw [hdb]⟩
  refine .inr ⟨hyes, ?_⟩
  rw [hdb, (counters_record ..).1]
  rfl

theorem contributed_le_deliver (db : Db) (d : UsageDelivery) (g m : String) :
    db.contributed g m ≤ (db.deliver p d).contributed g m := by
  rcases contributed_deliver db d g m with ⟨-, h⟩ | ⟨-, h⟩
  · exact h.ge
  rw [h]
  exact Nat.le_add_right ..

theorem contributed_le_run (db : Db) (ds : List UsageDelivery) (g m : String) :
    db.contributed g m ≤ (run (deliver p) db ds).contributed g m := by
  induction ds generalizing db with
  | nil => exact Nat.le_refl _
  | cons d ds ih => exact (contributed_le_deliver db d g m).trans (ih (db.deliver p d))

theorem contributed_deliver_le_iff (db : Db) (d : UsageDelivery) :
    (∀ g, (db.deliver p d).contributed g key ≤ db.contributed g key) ↔ (db.applies p d = true → ¬ d.Credits p key) := by
  constructor
  · rintro hle hyes ⟨hcompute, rfl⟩
    have hg := hle (Json.textAt p.repr d.receipt "group_id")
    rcases contributed_deliver db d (Json.textAt p.repr d.receipt "group_id") (d.provider p) with
      ⟨hno, -⟩ | ⟨-, hadd⟩
    · rw [hno] at hyes
      cases hyes
    rw [hadd, if_pos ⟨hcompute, rfl, rfl⟩] at hg
    omega
  intro hcredits g
  rcases contributed_deliver db d g key with ⟨-, hsame⟩ | ⟨hyes, hadd⟩
  · exact hsame.le
  rw [hadd, if_neg fun h => hcredits hyes ⟨h.1, h.2.2.symm⟩]
  exact Nat.le_refl _

theorem contributed_run_le_iff (db : Db) (ds : List UsageDelivery) :
    (∀ g, (run (deliver p) db ds).contributed g key ≤ db.contributed g key) ↔
      Along (deliver p) (fun db d => db.applies p d = true → ¬ d.Credits p key) db ds := by
  induction ds generalizing db with
  | nil => simp
  | cons d ds ih =>
    constructor
    · intro hle
      -- both the first call and the rest stay between the first value and the last
      refine ⟨(contributed_deliver_le_iff db d).mp fun g => ?_, (ih (db.deliver p d)).mp fun g => ?_⟩
      · exact (contributed_le_run (db.deliver p d) ds g key).trans (hle g)
      · exact (hle g).trans (contributed_le_deliver db d g key)
    · rintro ⟨hfirst, hrest⟩ g
      exact ((ih (db.deliver p d)).mpr hrest g).trans ((contributed_deliver_le_iff db d).mpr hfirst g)

theorem contributions_globalUsageSummary (db : Db) (key : String) : (db.globalUsageSummary key).contributions =
      (((db.usageReceipts.rows.map Prod.snd).filter fun r => r.providerPubkey = key).foldl
        (UsageSummary.add key) {}).contributions := by
  unfold globalUsageSummary
  rw [UsageSummary.contributions_foldl rfl, List.filter_filter]
  congr 3
  funext r
  by_cases h : r.providerPubkey = key <;> simp [h]

theorem contributions_deliver (h : db.applies p d = true → d.provider p ≠ key) :
    ((db.deliver p d).globalUsageSummary key).contributions = (db.globalUsageSummary key).contributions := by
  rcases deliver_cases p db d with ⟨-, hdb⟩ | ⟨amount, hyes, hnew, hdb⟩
  · rw [hdb]
  have hother : (d.row p amount).providerPubkey ≠ key := h hyes
  rw [hdb, contributions_globalUsageSummary, contributions_globalUsageSummary]
  unfold record
  rw [Table.rows_put_of_new hnew, List.map_cons, List.filter_cons_of_neg (by simpa using hother)]

theorem contributions_run {ds : List UsageDelivery}
    (h : Along (deliver p) (fun db d => db.applies p d = true → d.provider p ≠ key) db ds) :
    ((run (deliver p) db ds).globalUsageSummary key).contributions = (db.globalUsageSummary key).contributions := by
  refine run_invariant
    (P := fun db' => (db'.globalUsageSummary key).contributions = (db.globalUsageSummary key).contributions) ?_ rfl h
  exact fun db' d hC hP => (contributions_deliver hC).trans hP

/-- **Whose receipts raise a standing.** -/
theorem standing_kept_iff (S : Signing p) (known : S.Key → Prop) (db : Db) (ds : List UsageDelivery) (key : String)
    (hsigned : ∀ d ∈ ds, d.SignedWith S known) :
    Along (deliver p) (fun db d => db.applies p d = true → ∃ k, known k ∧ d.consumer p = S.pub k) db ds ∧
    ((∀ g, (run (deliver p) db ds).contributed g key ≤ db.contributed g key) ↔
      Along (deliver p) (fun db d => db.applies p d = true → ¬ d.Credits p key) db ds) ∧
    (Along (deliver p) (fun db d => db.applies p d = true → d.provider p ≠ key) db ds →
      ((run (deliver p) db ds).globalUsageSummary key).contributions = (db.globalUsageSummary key).contributions) := by
  refine ⟨?_, contributed_run_le_iff db ds, contributions_run⟩
  induction ds generalizing db with
  | nil => exact along_nil _ _ db
  | cons d ds ih =>
    refine ⟨consumer_of_signedWith (hsigned d (.head _)), ?_⟩
    exact ih (db.deliver p d) fun d' hd' => hsigned d' (List.mem_cons_of_mem d hd')

end Db

/-! ### One party with two keys

A signature is the name of its key. `mallory` is a member of `g`, and has made the key `fresh`. -/

def examplePair : Primitives :=
  { examplePrimitives [] with
    verify := fun pubkey sig _ =>
      (pubkey = "mallory" ∧ sig = exampleBytes "1") ∨ (pubkey = "fresh" ∧ sig = exampleBytes "2") }

def exampleSigning : Signing examplePair where
  Key := Bool
  pub own := if own then "mallory" else "fresh"
  sign own _ := exampleBytes (if own then "1" else "2")
  exclusive := by
    intro own pubkey message message' h
    rcases of_decide_eq_true h with ⟨rfl, hsig⟩ | ⟨rfl, hsig⟩
    · cases own with
      | true => rfl
      | false => cases hsig
    cases own with
    | true => cases hsig
    | false => rfl

/-- One hour of compute in `g`, signed by the consumer. -/
def exampleReceipt (receiptId provider consumer : String) : UsageDelivery where
  call := ⟨"2", id, fun _ _ => none⟩
  receipt := [("receipt_id", .str receiptId), ("group_id", .str "g"), ("provider_pubkey", .str provider),
    ("consumer_pubkey", .str consumer), ("kind", .str "compute"), ("ref_id", .str "t"), ("amount", .int 3600),
    ("ts", .str "1")]
  sig := if consumer = "mallory" then "1" else "2"
  commits := true

theorem exampleReceipt_signedWith (receiptId provider consumer : String) :
    (exampleReceipt receiptId provider consumer).SignedWith exampleSigning fun _ => True := by
  refine ⟨decide (consumer = "mallory"), [], trivial, ?_⟩
  by_cases h : consumer = "mallory"
  · simp only [exampleReceipt, h, if_true]
    rfl
  simp only [exampleReceipt, h, if_false]
  rfl

/-- A receipt of `mallory` for the work of `bob` is applied. -/
theorem standing_kept_iff_other : exampleNode.db.applies examplePair (exampleReceipt "1" "bob" "mallory") = true ∧
      (run (Db.deliver examplePair) exampleNode.db [exampleReceipt "1" "bob" "mallory"]).contributed "g" "mallory" ≤
        exampleNode.db.contributed "g" "mallory" := by
  refine ⟨by decide +kernel, ?_⟩
  have hsigned : ∀ d ∈ [exampleReceipt "1" "bob" "mallory"], d.SignedWith exampleSigning fun _ => True := by
    intro d hd
    rw [List.mem_singleton.mp hd]
    exact exampleReceipt_signedWith ..
  have hkept := (Db.standing_kept_iff exampleSigning (fun _ => True) exampleNode.db _ "mallory" hsigned).2.1
  exact hkept.mpr ⟨fun _ hcredits => absurd hcredits.2 (by decide), along_nil ..⟩ "g"

/-- **Inflated.** -/
theorem raises_own_standing :
    let ds := [exampleReceipt "1" "mallory" "mallory", exampleReceipt "2" "mallory" "fresh"]
    let db := run (Db.deliver examplePair) exampleNode.db ds
    (∀ d ∈ ds, d.SignedWith exampleSigning fun _ => True) ∧ exampleNode.db.contributed "g" "mallory" = 0 ∧
      db.contributed "g" "mallory" = 2 ∧
      (db.globalUsageSummary "mallory").given =
        { computeSecs := 7200, tasks := 2, partners := ["mallory", "fresh"] } := by
  refine ⟨?_, by decide +kernel, by decide +kernel, by decide +kernel⟩
  intro d hd
  simp only [List.mem_cons, List.not_mem_nil, or_false] at hd
  rcases hd with rfl | rfl
  · exact exampleReceipt_signedWith ..
  · exact exampleReceipt_signedWith ..

end NexusGrid.Groups
