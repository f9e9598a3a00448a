import NexusGrid.Groups.Rotation
import NexusGrid.Lib.Utf8

/-! # What the signature of a frame binds

The bytes that are signed for a frame, and the data that its encryption is bound to, are fields joined by `|`.
-/

namespace NexusGrid.Groups

open Lib

/-- A frame that `seal_frame` returned, with the arguments of the call. -/
structure SealedFrame where
  s : Sealing
  sender : String
  channel : String
  frameType : String
  payload : List UInt8
  symkey : List UInt8
  grantBlob : List UInt8
  frame : GroupFrame
  made : sealFrame s channel frameType payload symkey grantBlob = some frame
  nonce_length : s.nonce.length = 12

def GroupFrame.BarFree (f : GroupFrame) : Prop :=
  '|' ∉ f.frameId.toList ∧ '|' ∉ f.channel.toList ∧ '|' ∉ f.frameType.toList

namespace SealedFrame

variable (c : SealedFrame)

def ciphertext : List UInt8 := c.s.encrypt c.symkey c.s.nonce c.payload c.frame.aad

def material : List UInt8 := c.frame.signatureMaterial c.s.nonce c.ciphertext

def signature : List UInt8 := c.s.sign c.material

theorem frame_eq : c.frame = ⟨c.s.frameId, c.channel, c.frameType, c.s.b64encode c.grantBlob, c.s.b64encode c.s.nonce,
      c.s.b64encode c.ciphertext, c.s.b64encode c.signature⟩ := by
  have hmade := c.made
  unfold sealFrame at hmade
  split at hmade
  · cases hmade
  have hframe := Option.some.inj hmade
  unfold signature material ciphertext
  rw [← hframe]
  rfl

end SealedFrame

structure Unbroken (p : Primitives) (sealedFrames : SealedFrame → Prop) : Prop where
  /-- The signature of a sealed frame verifies for the signed bytes only. -/
  signature : ∀ c, sealedFrames c → ∀ message, p.verify c.sender c.signature message = true → message = c.material
  /-- What decrypts was encrypted, with this key and nonce and for this associated data. -/
  aead : ∀ key nonce ciphertext aad, (p.decrypt key nonce ciphertext aad).isSome →
    ∃ c, sealedFrames c ∧ c.symkey = key ∧ c.s.nonce = nonce ∧ c.ciphertext = ciphertext ∧ c.frame.aad = aad

theorem bar_notMem_utf8 {s : String} (h : '|' ∉ s.toList) : 124 ∉ utf8 s := notMem_toUTF8 (by decide) (by decide) h

theorem aad_inj {f g : GroupFrame} (hg : g.BarFree) (h : f.aad = g.aad) :
    f.frameId = g.frameId ∧ f.channel = g.channel ∧ f.frameType = g.frameType := by
  obtain ⟨hid, hchannel, htype⟩ := hg
  have hid := bar_notMem_utf8 hid
  have hchannel := bar_notMem_utf8 hchannel
  have htype := bar_notMem_utf8 htype
  simp only [GroupFrame.aad, bar, List.append_assoc, List.append_cancel_left_eq, List.cons_append, List.nil_append] at h
  -- Both sides have as many separators, and the right one has no more than the two that join the texts.
  have hcount := congrArg (List.count 124) h
  simp only [List.count_append, List.count_cons, List.count_eq_zero_of_not_mem hid,
    List.count_eq_zero_of_not_mem hchannel, List.count_eq_zero_of_not_mem htype] at hcount
  have hfchannel : 124 ∉ utf8 f.channel := List.count_eq_zero.mp (by omega)
  have hftype : 124 ∉ utf8 f.frameType := List.count_eq_zero.mp (by omega)
  obtain ⟨h1, h⟩ := append_cons_inj hfchannel hchannel h
  obtain ⟨h2, h3⟩ := append_cons_inj hftype htype h
  exact ⟨toUTF8_inj h3, toUTF8_inj h1, toUTF8_inj h2⟩

theorem signatureMaterial_inj {f g : GroupFrame} (hf : f.BarFree) (hg : g.BarFree)
    {nonce nonce' ciphertext ciphertext' : List UInt8} (hlen : nonce.length = nonce'.length)
    (h : f.signatureMaterial nonce ciphertext = g.signatureMaterial nonce' ciphertext') :
    f.frameId = g.frameId ∧ f.channel = g.channel ∧ f.frameType = g.frameType ∧ nonce = nonce' ∧
      ciphertext = ciphertext' := by
  simp only [GroupFrame.signatureMaterial, bar, List.append_assoc, List.append_cancel_left_eq,
    List.cons_append, List.nil_append] at h
  obtain ⟨hid, h⟩ := append_cons_inj (bar_notMem_utf8 hf.1) (bar_notMem_utf8 hg.1) h
  obtain ⟨hchannel, h⟩ := append_cons_inj (bar_notMem_utf8 hf.2.1) (bar_notMem_utf8 hg.2.1) h
  obtain ⟨htype, h⟩ := append_cons_inj (bar_notMem_utf8 hf.2.2) (bar_notMem_utf8 hg.2.2) h
  obtain ⟨hnonce, h⟩ := List.append_inj h hlen
  exact ⟨toUTF8_inj hid, toUTF8_inj hchannel, toUTF8_inj htype, hnonce, (List.cons.inj h).2⟩

theorem openFrame_checks {p : Primitives} {now : String} {symkey : List UInt8} {admins : List String}
    {frame : GroupFrame} {o : OpenedFrame} (h : openFrame p now symkey admins frame = .ok o) :
    ∃ nonce ciphertext signature, p.b64decode frame.nonceB64 = some nonce ∧
      p.b64decode frame.ciphertextB64 = some ciphertext ∧
      p.b64decode frame.signatureB64 = some signature ∧ nonce.length = 12 ∧
      p.verify o.senderPubkey signature (frame.signatureMaterial nonce ciphertext) = true ∧
      (p.decrypt symkey nonce ciphertext frame.aad).isSome := by
  unfold openFrame at h
  split at h
  case isTrue => cases h
  case isFalse =>
  split at h
  case h_2 => cases h
  case h_1 grantBlob nonce ciphertext signature _ hnonce hciphertext hsignature =>
  split at h
  case isTrue => cases h
  case isFalse hlen =>
  split at h
  case h_1 => cases h
  case h_2 grant _ =>
  split at h
  case isTrue => cases h
  case isFalse =>
  split at h
  case isTrue => cases h
  case isFalse hverify =>
  split at h
  case h_1 => cases h
  case h_2 payload hdecrypt =>
    cases h
    exact ⟨nonce, ciphertext, signature, hnonce, hciphertext, hsignature, not_not.mp hlen,
      (Bool.not_eq_false _).mp hverify, by rw [hdecrypt]; rfl⟩

/-- **A frame that opens with the signature of a sealed frame is that frame**, in its texts and its decoded bytes. -/
theorem opened_is_sealed (p : Primitives) (sealedFrames : SealedFrame → Prop)
    (hunbroken : Unbroken p sealedFrames) (now : String) (symkey : List UInt8) (admins : List String)
    (hfree : ∀ c, sealedFrames c → c.symkey = symkey → c.frame.BarFree)
    (c : SealedFrame) (hc : sealedFrames c) (hbar : c.frame.BarFree) (frame : GroupFrame)
    (o : OpenedFrame) (hopen : openFrame p now symkey admins frame = .ok o)
    (hsender : o.senderPubkey = c.sender) (hsignature : p.b64decode frame.signatureB64 = some c.signature) :
    frame.frameId = c.frame.frameId ∧ frame.channel = c.frame.channel ∧
      frame.frameType = c.frame.frameType ∧ p.b64decode frame.nonceB64 = some c.s.nonce ∧
      p.b64decode frame.ciphertextB64 = some c.ciphertext := by
  obtain ⟨nonce, ciphertext, signature, hnonce, hciphertext, hsig, hlen, hverify, hdecrypt⟩ := openFrame_checks hopen
  cases hsig.symm.trans hsignature
  rw [hsender] at hverify
  have hmaterial := hunbroken.signature c hc _ hverify
  -- The ciphertext was made for some frame under this key, whose texts are the ones in the envelope.
  obtain ⟨c', hc', hkey, -, -, haad⟩ := hunbroken.aead _ _ _ _ hdecrypt
  have hfree' := hfree c' hc' hkey
  obtain ⟨hid, hchannel, htype⟩ := aad_inj hfree' haad.symm
  have hframe : frame.BarFree := by
    unfold GroupFrame.BarFree
    rw [hid, hchannel, htype]
    exact hfree'
  obtain ⟨hid, hchannel, htype, rfl, rfl⟩ :=
    signatureMaterial_inj hframe hbar (hlen.trans c.nonce_length.symm) hmaterial
  exact ⟨hid, hchannel, htype, hnonce, hciphertext⟩

/-- **A sealed frame opens** to what was put in, after the wire. -/
theorem sealed_frame_opens (p : Primitives) (c : SealedFrame) (now : String) (admins : List String) (grant : Grant)
    (hb64 : ∀ b ∈ [c.grantBlob, c.s.nonce, c.ciphertext, c.signature], p.b64decode (c.s.b64encode b) = some b)
    (hsig : p.verify grant.memberPubkey c.signature c.material = true)
    (haead : p.decrypt c.symkey c.s.nonce c.ciphertext c.frame.aad = some c.payload)
    (hgrant : verifyGrant p now admins c.grantBlob = some grant) (hgroup : grant.groupId = c.channel) :
    (GroupFrame.fromDict p.repr c.frame.toDict).bind (openFrame p now c.symkey admins) =
      .ok ⟨c.s.frameId, c.channel, c.frameType, grant.memberPubkey, grant, c.payload⟩ := by
  obtain ⟨-, -, hlen, -⟩ := sealFrame_isSome.mp (Option.isSome_iff_exists.mpr ⟨c.frame, c.made⟩)
  have hread : GroupFrame.fromDict p.repr c.frame.toDict = .ok c.frame := rfl
  unfold SealedFrame.material at hsig
  rw [hread, Except.bind, openFrame, c.frame_eq]
  rw [c.frame_eq] at hsig haead
  simp [hlen, c.nonce_length, hb64, hgrant, hgroup, hsig, haead]

/-! ### One frame of `bob`

A signature is the text that was signed, and the one ciphertext there is is empty. -/

def exampleMessage : SealedFrame where
  s := { exampleSealing "1" "bob" 7 with encrypt := fun _ _ _ _ => [], sign := id }
  sender := "bob"
  channel := "g"
  frameType := "chat.message"
  payload := exampleBytes "hello"
  symkey := List.replicate 32 7
  grantBlob := exampleBytes "bob"
  frame := _
  made := rfl
  nonce_length := rfl

def exampleReader : Primitives :=
  { examplePrimitives [] with
    verify := fun _ sig message => sig = message
    fromHex := fun _ => some []
    decrypt := fun key nonce ciphertext aad =>
      if key = exampleMessage.symkey ∧ nonce = exampleMessage.s.nonce ∧
        ciphertext = exampleMessage.ciphertext ∧ aad = exampleMessage.frame.aad then
        some (exampleBytes "hello")
      else none }

theorem exampleReader_unbroken : Unbroken exampleReader (· = exampleMessage) where
  signature := by
    rintro c rfl message hverify
    exact (of_decide_eq_true hverify).symm
  aead := by
    intro key nonce ciphertext aad hdecrypt
    simp only [exampleReader] at hdecrypt
    split at hdecrypt
    case isTrue h => exact ⟨_, rfl, h.1.symm, h.2.1.symm, h.2.2.1.symm, h.2.2.2.symm⟩
    case isFalse => cases hdecrypt

/-- `carol` opens the frame, and it is the one that `bob` sealed. -/
theorem opened_is_sealed_message :
    ∃ o, openFrame exampleReader "2" exampleMessage.symkey ["alice"] exampleMessage.frame = .ok o ∧
      exampleReader.b64decode exampleMessage.frame.nonceB64 = some exampleMessage.s.nonce := by
  have hbar : exampleMessage.frame.BarFree := by
    exact ⟨by decide, by decide, by decide⟩
  obtain ⟨hopen, hsignature⟩ : openFrame exampleReader "2" exampleMessage.symkey ["alice"] exampleMessage.frame =
        .ok ⟨"1", "g", "chat.message", "bob", ⟨"g", "bob", [], "alice", "1", "9", ""⟩, exampleBytes "hello"⟩ ∧
      exampleReader.b64decode exampleMessage.frame.signatureB64 = some exampleMessage.signature := by
    decide +kernel
  have hsealed := opened_is_sealed exampleReader (· = exampleMessage) exampleReader_unbroken "2"
    exampleMessage.symkey ["alice"] (fun c hc _ => hc ▸ hbar) exampleMessage rfl hbar
    exampleMessage.frame _ hopen rfl hsignature
  exact ⟨_, hopen, hsealed.2.2.2.1⟩

theorem sealed_frame_opens_message : ∃ grant,
    (GroupFrame.fromDict exampleReader.repr exampleMessage.frame.toDict).bind
        (openFrame exampleReader "2" exampleMessage.symkey ["alice"]) =
      .ok ⟨"1", "g", "chat.message", "bob", grant, exampleBytes "hello"⟩ :=
  ⟨_, sealed_frame_opens _ _ _ _ ⟨"g", "bob", [], "alice", "1", "9", ""⟩ (by decide +kernel) (by decide +kernel)
    (by decide +kernel) (by decide +kernel) rfl⟩

end NexusGrid.Groups
