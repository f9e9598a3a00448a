import Mathlib.Data.List.Infix
import Mathlib.Data.String.Basic

/-! # How a POSIX shell reads a line

Quoting (2.2 of the Shell Command Language) and token recognition (2.3), up to words and operators. A `Reader`
takes a line character by character. `op_of_tokens` and `op_of_mem_code` say which operators it finds: those of
the characters that are neither quoted nor in a comment.
-/

namespace NexusGrid.Lib.Shell

inductive Quote
  | bare
  | single
  | double
deriving DecidableEq

structure Mode where
  quote : Quote := .bare
  /-- A backslash quotes the next character. -/
  escaped : Bool := false
deriving DecidableEq

def Mode.next (m : Mode) (c : Char) : Mode :=
  if m.escaped then { m with escaped := false }
  else match m.quote with
    | .single => if c = '\x27' then { m with quote := .bare } else m
    | .double =>
      if c = '\\' then { m with escaped := true }
      else if c = '"' then { m with quote := .bare }
      else m
    | .bare =>
      if c = '\\' then { m with escaped := true }
      else if c = '\x27' then { m with quote := .single }
      else if c = '"' then { m with quote := .double }
      else m

/-- The characters that are not quoted, those that start a quotation included. -/
def bareChars : Mode → List Char → List Char
  | _, [] => []
  | m, c :: cs => if m = {} then c :: bareChars (m.next c) cs else bareChars (m.next c) cs

def finalMode (m : Mode) (cs : List Char) : Mode := cs.foldl Mode.next m

def startsSubstitution : List Char → Bool
  | '$' :: c :: _ => c = '(' || c = '\x7b'
  | c :: _ => c = '\x60'
  | [] => false

def hasSubstitution : Mode → List Char → Bool
  | _, [] => false
  | m, c :: cs => (m.quote ≠ .single && !m.escaped && startsSubstitution (c :: cs)) || hasSubstitution (m.next c) cs

inductive Token
  | word (cs : List Char)
  | op (s : String)
deriving DecidableEq

def controlOperators : List String := [";", "&", "&&", "||", "|", ";;", "(", ")", "\n"]

def redirections : List String := ["<", ">", "<<", ">>", "<&", ">&", "<>", "<<-", ">|"]

def isOperator (cs : List Char) : Bool := String.ofList cs ∈ controlOperators || String.ofList cs ∈ redirections

def isOpStart (c : Char) : Bool := isOperator [c]

def isBlank (c : Char) : Bool := c = ' ' || c = '\t'

inductive Pending
  | gap
  | word (cs : List Char)
  | op (cs : List Char)
  | comment
deriving DecidableEq

def Pending.flush : Pending → List Token
  | .word cs => [.word cs]
  | .op cs => [.op (String.ofList cs)]
  | _ => []

structure Reader where
  mode : Mode
  pending : Pending
deriving DecidableEq

def Reader.start (c : Char) : Reader :=
  if isOpStart c then ⟨{}, .op [c]⟩
  else if isBlank c then ⟨{}, .gap⟩
  else if c = '#' then ⟨{}, .comment⟩
  else ⟨Mode.next {} c, .word [c]⟩

def Reader.read (r : Reader) (c : Char) : List Token × Reader :=
  match r.pending with
  | .gap => ([], .start c)
  | .comment => if c = '\n' then ([], .start c) else ([], r)
  | .op cs =>
    if isOperator (cs ++ [c]) then ([], ⟨{}, .op (cs ++ [c])⟩) else (r.pending.flush, .start c)
  | .word cs =>
    if r.mode = {} ∧ (isOpStart c ∨ isBlank c) then (r.pending.flush, .start c)
    else ([], ⟨r.mode.next c, .word (cs ++ [c])⟩)

/-- `none` when the text ends inside of a quotation. -/
def tokensFrom : Reader → List Char → Option (List Token)
  | r, [] => if r.mode = {} then some r.pending.flush else none
  | r, c :: cs => (tokensFrom (r.read c).2 cs).map fun ts => (r.read c).1 ++ ts

def tokens (cs : List Char) : Option (List Token) := tokensFrom ⟨{}, .gap⟩ cs

/-- What the reader has read when it comes to a comment, or to the end. -/
def Reader.code : Reader → List Char → List Char
  | _, [] => []
  | r, c :: cs => if (r.read c).2.pending = .comment then [] else c :: Reader.code (r.read c).2 cs

/-- A line without its comment. -/
def code (cs : List Char) : List Char := Reader.code ⟨{}, .gap⟩ cs

namespace Reader

def opChars (r : Reader) : List Char :=
  match r.pending with
  | .op cs => cs
  | _ => []

structure Ok (r : Reader) : Prop where
  mode : (∀ cs, r.pending ≠ .word cs) → r.mode = {}
  op : ∀ cs, r.pending = .op cs → isOperator cs = true

variable {cs : List Char}

theorem next_of_isOperator (h : isOperator cs = true) {c : Char} (hc : c ∈ cs) : Mode.next {} c = {} := by
  have hall : ∀ s ∈ controlOperators ++ redirections, (s.toList.all fun c => decide (Mode.next {} c = {})) = true := by
    decide
  rw [isOperator, Bool.or_eq_true, decide_eq_true_iff, decide_eq_true_iff, ← List.mem_append] at h
  have hc' : c ∈ (String.ofList cs).toList := by rwa [String.toList_ofList]
  exact of_decide_eq_true (List.all_eq_true.mp (hall _ h) c hc')

theorem next_bare {c : Char} (h : isOpStart c = true ∨ isBlank c = true ∨ c = '#') : Mode.next {} c = {} := by
  rcases h with h | h | rfl
  · exact next_of_isOperator h (.head _)
  · rw [isBlank, Bool.or_eq_true, decide_eq_true_iff, decide_eq_true_iff] at h
    rcases h with rfl | rfl <;> decide
  · decide

theorem start_mode (c : Char) : (start c).mode = Mode.next {} c := by
  unfold start
  split_ifs with h1 h2 h3
  · rw [next_bare (.inl h1)]
  · rw [next_bare (.inr (.inl h2))]
  · rw [next_bare (.inr (.inr h3))]
  · rfl

theorem start_ok (c : Char) : (start c).Ok := by
  unfold start
  split_ifs with h1 h2 h3
  · refine ⟨fun _ => rfl, ?_⟩
    rintro cs hcs
    cases hcs
    exact h1
  · exact ⟨fun _ => rfl, by simp⟩
  · exact ⟨fun _ => rfl, by simp⟩
  · exact ⟨fun h => absurd rfl (h [c]), by simp⟩

theorem start_opChars (c : Char) : (start c).opChars = [c] ∨ (start c).opChars = [] := by
  unfold start opChars
  split_ifs
  · exact .inl rfl
  · exact .inr rfl
  · exact .inr rfl
  · exact .inr rfl

variable {r : Reader} {c : Char}

/-- What a character does outside of comments. -/
structure Step (r : Reader) (c : Char) : Prop where
  ok : (r.read c).2.Ok
  mode : (r.read c).2.mode = r.mode.next c
  ended : ∀ s, .op s ∈ (r.read c).1 → s = String.ofList r.opChars ∧ r.pending = .op r.opChars
  opChars : (r.read c).2.opChars = r.opChars ++ [c] ∧ r.mode = {} ∨ (r.read c).2.opChars = [c] ∧ r.mode = {} ∨
    (r.read c).2.opChars = []

theorem step_fresh {p : Pending} (hread : Reader.read ⟨{}, p⟩ c = (p.flush, start c)) : (Reader.mk {} p).Step c where
  ok := by
    rw [hread]
    exact start_ok c
  mode := by
    rw [hread]
    exact start_mode c
  ended s hs := by
    rw [hread] at hs
    cases p with
    | op cs => simpa [Pending.flush, opChars] using hs
    | _ => simp [Pending.flush] at hs
  opChars := by
    rw [hread]
    rcases start_opChars c with h | h
    · exact .inr (.inl ⟨h, rfl⟩)
    · exact .inr (.inr h)

theorem Ok.step (hr : r.Ok) (hcomment : r.pending ≠ .comment) (c : Char) : r.Step c := by
  obtain ⟨m, pending⟩ := r
  cases pending with
  | gap =>
    obtain rfl : m = {} := hr.mode (by simp)
    exact step_fresh rfl
  | comment => exact absurd rfl hcomment
  | op cs =>
    obtain rfl : m = {} := hr.mode (by simp)
    by_cases hext : isOperator (cs ++ [c]) = true
    · have hread : Reader.read ⟨{}, .op cs⟩ c = ([], ⟨{}, .op (cs ++ [c])⟩) := if_pos hext
      have hnext : Mode.next {} c = {} := next_of_isOperator hext (by simp)
      refine ⟨?_, ?_, ?_, ?_⟩
      · rw [hread]
        exact ⟨fun _ => rfl, by simpa using hext⟩
      · rw [hread, hnext]
      · simp [hread]
      rw [hread]
      exact .inl ⟨rfl, rfl⟩
    · exact step_fresh (if_neg hext)
  | word cs =>
    by_cases hend : m = {} ∧ (isOpStart c ∨ isBlank c)
    · obtain rfl : m = {} := hend.1
      exact step_fresh (if_pos hend)
    have hread : Reader.read ⟨m, .word cs⟩ c = ([], ⟨m.next c, .word (cs ++ [c])⟩) := if_neg hend
    refine ⟨?_, ?_, ?_, ?_⟩
    · rw [hread]
      exact ⟨fun h => absurd rfl (h (cs ++ [c])), by simp⟩
    · rw [hread]
    · simp [hread]
    rw [hread]
    exact .inr (.inr rfl)

theorem Step.sub (h : r.Step c) {l : List Char} (hsub : l <:+: (r.read c).2.opChars ++ cs) :
    l <:+: r.opChars ++ c :: cs := by
  rcases h.opChars with ⟨hchars, -⟩ | ⟨hchars, -⟩ | hchars
  · rwa [hchars, List.append_assoc, List.singleton_append] at hsub
  · rw [hchars, List.singleton_append] at hsub
    exact hsub.trans (List.suffix_append r.opChars (c :: cs)).isInfix
  rw [hchars, List.nil_append] at hsub
  exact hsub.trans ((List.suffix_cons c cs).trans (List.suffix_append r.opChars (c :: cs))).isInfix

theorem mem_bareChars_cons {m : Mode} {c c' : Char} (h : c' ∈ bareChars (m.next c) cs) :
    c' ∈ bareChars m (c :: cs) := by
  rw [bareChars]
  split_ifs
  · exact List.mem_cons_of_mem c h
  · exact h

theorem Step.bare (h : r.Step c) {c' : Char}
    (hc : c' ∈ (r.read c).2.opChars ∨ c' ∈ bareChars (r.read c).2.mode ((r.read c).2.code cs))
    (hcode : (r.read c).2.pending ≠ .comment) : c' ∈ r.opChars ∨ c' ∈ bareChars r.mode (r.code (c :: cs)) := by
  rw [code, if_neg hcode]
  have hhead : r.mode = {} → c ∈ bareChars r.mode (c :: (r.read c).2.code cs) := by
    intro hmode
    rw [bareChars, if_pos hmode]
    exact .head _
  rcases hc with hold | hnew
  · rcases h.opChars with ⟨hchars, hmode⟩ | ⟨hchars, hmode⟩ | hchars
    · rw [hchars, List.mem_append, List.mem_singleton] at hold
      rcases hold with hold | rfl
      · exact .inl hold
      · exact .inr (hhead hmode)
    · rw [hchars, List.mem_singleton] at hold
      exact .inr (hold ▸ hhead hmode)
    rw [hchars] at hold
    cases hold
  · rw [h.mode] at hnew
    exact .inr (mem_bareChars_cons hnew)

/-- An unquoted character that starts an operator is read as part of one. -/
theorem Ok.read_op (hr : r.Ok) (hcomment : r.pending ≠ .comment) (hmode : r.mode = {}) (hc : isOpStart c = true) :
    ∃ os, (r.read c).2.pending = .op os := by
  have hstart : (start c).pending = .op [c] := by rw [start, if_pos hc]
  obtain ⟨m, pending⟩ := r
  cases pending with
  | gap => exact ⟨[c], hstart⟩
  | comment => exact absurd rfl hcomment
  | op cs =>
    by_cases hext : isOperator (cs ++ [c]) = true
    · exact ⟨cs ++ [c], by simp [read, hext]⟩
    · exact ⟨[c], by simp [read, hext, hstart]⟩
  | word cs =>
    have hend : m = {} ∧ (isOpStart c ∨ isBlank c) := ⟨hmode, .inl hc⟩
    have hread : Reader.read ⟨m, .word cs⟩ c = ([.word cs], start c) := if_pos hend
    exact ⟨[c], by rw [hread, hstart]⟩

end Reader

theorem Reader.Ok.comment {r : Reader} (hr : r.Ok) (hcomment : r.pending = .comment) : r = ⟨{}, .comment⟩ := by
  have hmode : r.mode = {} := hr.mode (by simp [hcomment])
  rw [← hmode, ← hcomment]

variable {s : String} {cs : List Char}

theorem tokensFrom_comment (hn : '\n' ∉ cs) : tokensFrom ⟨{}, .comment⟩ cs = some [] := by
  induction cs with
  | nil => rfl
  | cons c cs ih =>
    rw [List.mem_cons, not_or] at hn
    have hread : Reader.read ⟨{}, .comment⟩ c = ([], ⟨{}, .comment⟩) := if_neg (Ne.symm hn.1)
    rw [tokensFrom, hread, ih hn.2]
    rfl

theorem Reader.Ok.ended {r : Reader} (hr : r.Ok) (hs : s = String.ofList r.opChars)
    (hop : r.pending = .op r.opChars) (cs : List Char) : isOperator s.toList = true ∧ s.toList <:+: r.opChars ++ cs ∧
      ∀ c ∈ s.toList, c ∈ r.opChars ∨ c ∈ bareChars r.mode (r.code cs) := by
  subst hs
  rw [String.toList_ofList]
  exact ⟨hr.op _ hop, ⟨[], cs, by simp⟩, fun c hc => .inl hc⟩

theorem op_of_tokensFrom (hn : '\n' ∉ cs) {r : Reader} (hr : r.Ok) {ts : List Token}
    (h : tokensFrom r cs = some ts) (hs : .op s ∈ ts) : isOperator s.toList = true ∧ s.toList <:+: r.opChars ++ cs ∧
      ∀ c ∈ s.toList, c ∈ r.opChars ∨ c ∈ bareChars r.mode (r.code cs) := by
  induction cs generalizing r ts with
  | nil =>
    rw [tokensFrom] at h
    split_ifs at h
    cases h
    obtain ⟨m, pending⟩ := r
    cases pending with
    | op os => exact hr.ended (Token.op.inj (List.mem_singleton.mp hs)) rfl []
    | _ => simp [Pending.flush] at hs
  | cons c cs ih =>
    rw [List.mem_cons, not_or] at hn
    by_cases hcomment : r.pending = .comment
    · rw [hr.comment hcomment, tokensFrom_comment (by simp [hn])] at h
      cases h
      cases hs
    have hstep := hr.step hcomment c
    rw [tokensFrom] at h
    obtain ⟨ts', hts', rfl⟩ := Option.map_eq_some_iff.mp h
    rcases List.mem_append.mp hs with hend | hlater
    · exact hr.ended (hstep.ended s hend).1 (hstep.ended s hend).2 (c :: cs)
    obtain ⟨hop, hsub, hbare⟩ := ih hn.2 hstep.ok hts' hlater
    refine ⟨hop, hstep.sub hsub, fun c' hc' => hstep.bare (hbare c' hc') fun hcode => ?_⟩
    -- nothing is read in a comment
    rw [hstep.ok.comment hcode, tokensFrom_comment hn.2] at hts'
    cases hts'
    cases hlater

/-- **Operators.** -/
theorem op_of_tokens (hn : '\n' ∉ cs) {ts : List Token} (h : tokens cs = some ts) (hs : .op s ∈ ts) :
    isOperator s.toList = true ∧ s.toList <:+: cs ∧ ∀ c ∈ s.toList, c ∈ bareChars {} (code cs) := by
  have hr : (Reader.mk {} .gap).Ok := ⟨fun _ => rfl, by simp⟩
  obtain ⟨hop, hsub, hbare⟩ := op_of_tokensFrom hn hr h hs
  refine ⟨hop, hsub, fun c hc => ?_⟩
  rcases hbare c hc with hold | hnew
  · cases hold
  · exact hnew

theorem exists_op_of_pending {r : Reader} (hn : '\n' ∉ cs) (hr : r.Ok) {os : List Char} (hop : r.pending = .op os)
    {ts : List Token} (h : tokensFrom r cs = some ts) : ∃ s, .op s ∈ ts := by
  induction cs generalizing r os ts with
  | nil =>
    rw [tokensFrom] at h
    split_ifs at h
    cases h
    exact ⟨String.ofList os, by rw [hop]; exact .head _⟩
  | cons c cs ih =>
    rw [List.mem_cons, not_or] at hn
    rw [tokensFrom] at h
    obtain ⟨ts', hts', rfl⟩ := Option.map_eq_some_iff.mp h
    by_cases hext : isOperator (os ++ [c]) = true
    · have hread : (r.read c).2.pending = .op (os ++ [c]) := by simp [Reader.read, hop, hext]
      obtain ⟨s, hs⟩ := ih hn.2 (hr.step (by simp [hop]) c).ok hread hts'
      exact ⟨s, List.mem_append_right _ hs⟩
    · have hread : (r.read c).1 = [.op (String.ofList os)] := by simp [Reader.read, hop, hext, Pending.flush]
      exact ⟨String.ofList os, by rw [hread]; exact .head _⟩

theorem op_of_mem_codeFrom {r : Reader} (hn : '\n' ∉ cs) (hr : r.Ok) {c : Char} (hop : isOpStart c = true)
    (hc : c ∈ bareChars r.mode (r.code cs)) {ts : List Token} (h : tokensFrom r cs = some ts) :
    ∃ s, .op s ∈ ts := by
  induction cs generalizing r ts with
  | nil => cases hc
  | cons c' cs ih =>
    rw [List.mem_cons, not_or] at hn
    rw [Reader.code] at hc
    split_ifs at hc with hcode
    · cases hc
    have hcomment : r.pending ≠ .comment := by
      intro hcomment
      refine hcode ?_
      have hnot : c' ≠ '\n' := Ne.symm hn.1
      simp [Reader.read, hcomment, hnot]
    have hstep := hr.step hcomment c'
    rw [tokensFrom] at h
    obtain ⟨ts', hts', rfl⟩ := Option.map_eq_some_iff.mp h
    have hlater (hrest : ∃ s, Token.op s ∈ ts') : ∃ s, .op s ∈ (r.read c').1 ++ ts' :=
      hrest.imp fun s hs => List.mem_append_right _ hs
    rw [bareChars] at hc
    split_ifs at hc with hmode
    · rcases List.mem_cons.mp hc with rfl | hc
      · obtain ⟨os, hos⟩ := hr.read_op hcomment hmode hop
        exact hlater (exists_op_of_pending hn.2 hstep.ok hos hts')
      · exact hlater (ih hn.2 hstep.ok (by rwa [hstep.mode]) hts')
    · exact hlater (ih hn.2 hstep.ok (by rwa [hstep.mode]) hts')

/-- **An operator for every such character** that is neither quoted nor in a comment. -/
theorem op_of_mem_code (hn : '\n' ∉ cs) {c : Char} (hop : isOpStart c = true) (hc : c ∈ bareChars {} (code cs))
    {ts : List Token} (h : tokens cs = some ts) : ∃ s, .op s ∈ ts :=
  op_of_mem_codeFrom hn ⟨fun _ => rfl, by simp⟩ hop hc h

/-- What is bare without the comment is bare in the line. -/
theorem bareChars_codeFrom (r : Reader) (m : Mode) {c : Char} (hc : c ∈ bareChars m (r.code cs)) :
    c ∈ bareChars m cs := by
  induction cs generalizing r m with
  | nil => exact hc
  | cons c' cs ih =>
    rw [Reader.code] at hc
    split_ifs at hc
    · cases hc
    rw [bareChars] at hc ⊢
    split_ifs at hc ⊢
    · exact (List.mem_cons.mp hc).elim (fun heq => heq ▸ .head _) fun hc => .tail _ (ih _ _ hc)
    · exact ih _ _ hc

theorem tokensFrom_isSome (hn : '\n' ∉ cs) {r : Reader} (hr : r.Ok)
    (h : finalMode r.mode cs = {}) : (tokensFrom r cs).isSome := by
  induction cs generalizing r with
  | nil =>
    have hmode : r.mode = {} := h
    rw [tokensFrom, if_pos hmode]
    rfl
  | cons c cs ih =>
    rw [List.mem_cons, not_or] at hn
    by_cases hcomment : r.pending = .comment
    · rw [hr.comment hcomment, tokensFrom_comment (by simp [hn])]
      rfl
    have hstep := hr.step hcomment c
    rw [tokensFrom, Option.isSome_map]
    exact ih hn.2 hstep.ok (by rw [hstep.mode]; exact h)

theorem tokens_isSome (hn : '\n' ∉ cs) (h : finalMode {} cs = {}) : (tokens cs).isSome :=
  tokensFrom_isSome hn ⟨fun _ => rfl, by simp⟩ h

end NexusGrid.Lib.Shell
