import NexusGrid.Lib.PyStr
import NexusGrid.Lib.Shell

/-! # The commands of a task

`validate_entrypoint` checks the lines of a task's command before they are handed to a shell: the line must
tokenize (`shlex`), contain none of a list of sequences, and have no pipe or redirection outside of quotes. The
shell itself is `Lib.Shell`, written from its standard and not from the validator.
-/

namespace NexusGrid.Security

open Lib

def forbiddenTokens : List String := [";", "\x60", "$(", "$\x7b", ">>", "&&", "||", "<(", ">("]

def redirectChars : List Char := ['|', '>', '<']

/-- The states of `shlex` under POSIX rules, as far as errors depend on them. -/
inductive Shlex
  | plain
  | single
  | double
  | escape (inDouble : Bool)
deriving DecidableEq

def Shlex.next : Shlex → Char → Shlex
  | .plain, c =>
    if c = '\\' then .escape false else if c = '\x27' then .single else if c = '"' then .double else .plain
  | .single, c => if c = '\x27' then .plain else .single
  | .double, c => if c = '"' then .plain else if c = '\\' then .escape true else .double
  | .escape inDouble, _ => if inDouble then .double else .plain

/-- `_looks_quoted`: `shlex.split` fails at the end of a text. -/
def looksQuoted (line : String) : Bool := line.toList.foldl Shlex.next .plain = .plain

/-- The loop of `_line_has_unquoted`, with its flags `in_single`, `in_double` and `escape`. -/
def hasUnquotedFrom (chars : List Char) : Bool → Bool → Bool → List Char → Bool
  | _, _, _, [] => false
  | inSingle, inDouble, true, _ :: cs => hasUnquotedFrom chars inSingle inDouble false cs
  | inSingle, inDouble, false, ch :: cs =>
    if ch = '\\' ∧ inSingle = false then hasUnquotedFrom chars inSingle inDouble true cs
    else if ch = '\x27' ∧ inDouble = false then hasUnquotedFrom chars (!inSingle) inDouble false cs
    else if ch = '"' ∧ inSingle = false then hasUnquotedFrom chars inSingle (!inDouble) false cs
    else if inSingle = false ∧ inDouble = false ∧ ch ∈ chars then true
    else hasUnquotedFrom chars inSingle inDouble false cs

def lineHasUnquoted (line : String) (chars : List Char) : Bool := hasUnquotedFrom chars false false false line.toList

/-- The programs of `_MAX_PROFILE_RE`. -/
def maxProfileHeads : List String := ["python", "python3", "py", "node", "npm", "sh", "bash", "wasmtime"]

/-- `(?:\s+\S.*)?$`. -/
def argsMatch (rest : List Char) : Bool :=
  rest = [] || (rest.head?.any PyStr.isSpace && rest.dropWhile PyStr.isSpace ≠ [])

/-- `[A-Za-z0-9_/.-]`. -/
def isScriptChar (c : Char) : Bool := c.isAlphanum || c = '_' || c = '.' || c = '/' || c = '-'

/-- `_MAX_PROFILE_RE`: one of the programs or `./` and a script, then perhaps arguments. -/
def maxProfileMatch (line : String) : Bool :=
  (maxProfileHeads.any fun head => head.toList.isPrefixOf line.toList && argsMatch (line.toList.drop head.length)) ||
  match line.toList with
  | '.' :: '/' :: rest => rest.takeWhile isScriptChar ≠ [] && argsMatch (rest.dropWhile isScriptChar)
  | _ => false

inductive EntrypointError
  | empty
  | onlyComments
  | tokenize (line : String)
  | forbidden (token line : String)
  | redirect (line : String)
  | notAllowed (line : String)
deriving DecidableEq

/-- The text of an error, with Python's `repr`. -/
def EntrypointError.text (repr : String → String) : EntrypointError → String
  | .empty => "Entrypoint is empty."
  | .onlyComments => "Entrypoint is empty after stripping comments."
  | .tokenize line => "Cannot tokenize entrypoint line: " ++ repr line
  | .forbidden token line => "Forbidden shell sequence " ++ repr token ++ " in entrypoint line: " ++ repr line
  | .redirect line => "Unquoted redirect/pipe character in entrypoint line: " ++ repr line
  | .notAllowed line =>
    "Entrypoint not on maximum-profile allowlist (allowed heads: python, python3, py, node, npm, sh, bash, " ++
      "wasmtime, ./<script>): " ++ repr line

def validateLine (profile line : String) : Except EntrypointError Unit :=
  if looksQuoted line = false then .error (.tokenize line)
  else match forbiddenTokens.find? fun token => PyStr.contains line token with
    | some token => .error (.forbidden token line)
    | none =>
      if lineHasUnquoted line redirectChars then .error (.redirect line)
      else if profile = "maximum" ∧ maxProfileMatch line = false then .error (.notAllowed line)
      else .ok ()

def commandLines (text : String) : List String :=
  ((PyStr.splitlines text).map PyStr.strip).filter fun l => l ≠ "" && !PyStr.startsWith l "#"

/-- `validate_entrypoint`; `none` for a missing entrypoint. -/
def validateEntrypoint (entrypoint : Option String) (profile : String) : Except EntrypointError (List String) :=
  match entrypoint with
  | none => .error .empty
  | some text =>
    if PyStr.strip text = "" then .error .empty
    else if commandLines text = [] then .error .onlyComments
    else (commandLines text).forM (validateLine profile) |>.map fun _ => commandLines text

def Shlex.mode : Shlex → Shell.Mode
  | .plain => {}
  | .single => { quote := .single }
  | .double => { quote := .double }
  | .escape inDouble => { quote := if inDouble then .double else .bare, escaped := true }

theorem quoting_cases (c : Char) : c = '\\' ∨ c = '\x27' ∨ c = '"' ∨ (c ≠ '\\' ∧ c ≠ '\x27' ∧ c ≠ '"') := by
  tauto

theorem Shlex.mode_next (s : Shlex) (c : Char) : (s.next c).mode = s.mode.next c := by
  rcases quoting_cases c with rfl | rfl | rfl | ⟨h1, h2, h3⟩
  · rcases s with _ | _ | _ | (_ | _) <;> rfl
  · rcases s with _ | _ | _ | (_ | _) <;> rfl
  · rcases s with _ | _ | _ | (_ | _) <;> rfl
  · rcases s with _ | _ | _ | (_ | _) <;> simp [Shlex.next, Shlex.mode, Shell.Mode.next, h1, h2, h3]

theorem Shlex.mode_foldl (s : Shlex) (cs : List Char) : (cs.foldl Shlex.next s).mode = Shell.finalMode s.mode cs := by
  induction cs generalizing s with
  | nil => rfl
  | cons c cs ih =>
    rw [List.foldl_cons, ih, Shlex.mode_next]
    rfl

variable {line profile : String} {chars cs : List Char}

theorem finalMode_of_looksQuoted (h : looksQuoted line = true) : Shell.finalMode {} line.toList = {} := by
  have hmode := Shlex.mode_foldl .plain line.toList
  rw [of_decide_eq_true h] at hmode
  exact hmode.symm

def scan (chars : List Char) (m : Shell.Mode) (cs : List Char) : Bool :=
  hasUnquotedFrom chars (m.quote = .single) (m.quote = .double) m.escaped cs

theorem scan_cons {m : Shell.Mode} (hm : m.quote = .single → m.escaped = false) {ch : Char}
     (h : scan chars m (ch :: cs) = false) :
    ((m.next ch).quote = .single → (m.next ch).escaped = false) ∧ scan chars (m.next ch) cs = false ∧
      (m = {} → ch ∈ chars → ch = '\\' ∨ ch = '\x27' ∨ ch = '"') := by
  obtain ⟨quote, escaped⟩ := m
  rcases quoting_cases ch with rfl | rfl | rfl | ⟨h1, h2, h3⟩
  · cases quote <;> cases escaped <;>
      simp_all [scan, hasUnquotedFrom, Shell.Mode.next]
  · cases quote <;> cases escaped <;>
      simp_all [scan, hasUnquotedFrom, Shell.Mode.next]
  · cases quote <;> cases escaped <;>
      simp_all [scan, hasUnquotedFrom, Shell.Mode.next]
  cases quote <;> cases escaped <;>
    simp_all [scan, hasUnquotedFrom, Shell.Mode.next]

theorem notMem_of_scan (hchars : ∀ c ∈ ['\\', '\x27', '"'], c ∉ chars) {m : Shell.Mode}
    (hm : m.quote = .single → m.escaped = false) (h : scan chars m cs = false) :
    ∀ c ∈ Shell.bareChars m cs, c ∉ chars := by
  induction cs generalizing m with
  | nil => simp [Shell.bareChars]
  | cons ch cs ih =>
    obtain ⟨hm', hrest, hhead⟩ := scan_cons hm h
    have htail := ih hm' hrest
    intro c hc hmem
    rw [Shell.bareChars] at hc
    split_ifs at hc with hbare
    · rcases List.mem_cons.mp hc with rfl | hc
      · exact hchars c (by simpa using hhead hbare hmem) hmem
      · exact htail c hc hmem
    · exact htail c hc hmem

theorem notMem_bareChars (hchars : ∀ c ∈ ['\\', '\x27', '"'], c ∉ chars)
    (h : lineHasUnquoted line chars = false) : ∀ c ∈ Shell.bareChars {} line.toList, c ∉ chars :=
  notMem_of_scan (m := {}) hchars (by simp) h

structure Accepted (line : String) : Prop where
  looksQuoted : looksQuoted line = true
  forbidden : ∀ token ∈ forbiddenTokens, ¬ token.toList <:+: line.toList
  redirect : lineHasUnquoted line redirectChars = false
  newline : '\n' ∉ line.toList

theorem newline_notMem {text : String} (h : line ∈ commandLines text) : '\n' ∉ line.toList := by
  obtain ⟨l, hl, rfl⟩ := List.mem_map.mp (List.mem_filter.mp h).1
  obtain ⟨cs, hcs, rfl⟩ := List.mem_map.mp hl
  intro hmem
  have hmem' := PyStr.mem_of_mem_strip hmem
  rw [String.toList_ofList] at hmem'
  exact absurd (PyStr.mem_lines hcs hmem').2 (by decide)

theorem accepted_of_validateLine (h : validateLine profile line = .ok ()) (hn : '\n' ∉ line.toList) :
    Accepted line := by
  unfold validateLine at h
  split at h
  · cases h
  next hquoted =>
    split at h
    · cases h
    next hnone =>
      split at h
      · cases h
      next hredirect =>
        refine ⟨by simpa using hquoted, ?_, by simpa using hredirect, hn⟩
        intro token htoken hsub
        have hfind := List.find?_eq_none.mp hnone token htoken
        exact hfind (PyStr.hasInfix_iff.mpr hsub)

theorem forM_eq_ok {α ε : Type} {f : α → Except ε Unit} {l : List α} (h : l.forM f = .ok ()) :
    ∀ x ∈ l, f x = .ok () := by
  induction l with
  | nil => simp
  | cons a l ih =>
    change (f a >>= fun _ => l.forM f) = .ok () at h
    cases ha : f a with
    | error e =>
      rw [ha] at h
      cases h
    | ok u =>
      rw [ha] at h
      intro x hx
      rcases List.mem_cons.mp hx with rfl | hx
      · exact ha
      · exact ih h x hx

theorem accepted_of_validateEntrypoint {entrypoint : Option String} {lines : List String}
    (h : validateEntrypoint entrypoint profile = .ok lines) (hline : line ∈ lines) : Accepted line := by
  unfold validateEntrypoint at h
  split at h
  · cases h
  next text =>
    split_ifs at h
    cases hall : (commandLines text).forM (validateLine profile) with
    | error e =>
      rw [hall] at h
      cases h
    | ok u =>
      rw [hall] at h
      cases h
      exact accepted_of_validateLine (forM_eq_ok hall line hline) (newline_notMem hline)

theorem operator_cases {s : String} (h : Shell.isOperator s.toList = true) :
    s ∈ ["&", "(", ")"] ∨ s = "&&" ∨ ';' ∈ s.toList ∨ '\n' ∈ s.toList ∨ ∃ c ∈ s.toList, c ∈ redirectChars := by
  have hall : ∀ s ∈ Shell.controlOperators ++ Shell.redirections, s ∈ ["&", "(", ")"] ∨ s = "&&" ∨
      ';' ∈ s.toList ∨ '\n' ∈ s.toList ∨ (s.toList.any fun c => decide (c ∈ redirectChars)) = true := by
    decide
  rw [Shell.isOperator, String.ofList_toList, Bool.or_eq_true, decide_eq_true_iff, decide_eq_true_iff,
    ← List.mem_append] at h
  simpa using hall s h

theorem accepted_ops (hline : Accepted line) : ∃ ts, Shell.tokens line.toList = some ts ∧ ∀ s, .op s ∈ ts →
      s ∈ ["&", "(", ")"] ∧ ∀ c ∈ s.toList, c ∈ Shell.bareChars {} (Shell.code line.toList) := by
  have hsome := Shell.tokens_isSome hline.newline (finalMode_of_looksQuoted hline.looksQuoted)
  obtain ⟨ts, hts⟩ := Option.isSome_iff_exists.mp hsome
  refine ⟨ts, hts, ?_⟩
  intro s hs
  obtain ⟨hop, hsub, hbare⟩ := Shell.op_of_tokens hline.newline hts hs
  have hredirect := notMem_bareChars (by simp [redirectChars]) hline.redirect
  rcases operator_cases hop with h | rfl | h | h | ⟨c, hc, hmem⟩
  · exact ⟨h, hbare⟩
  · exact absurd hsub (hline.forbidden "&&" (by decide))
  · have hsemi : [';'] <:+: line.toList := (List.singleton_infix_iff ..).mpr (hsub.subset h)
    exact absurd hsemi (hline.forbidden ";" (by decide))
  · exact absurd (hsub.subset h) hline.newline
  · exact absurd hmem (hredirect c (Shell.bareChars_codeFrom _ _ (hbare c hc)))

theorem startsSubstitution_infix (h : Shell.startsSubstitution cs = true) :
    ∃ token ∈ ["$(", "$\x7b", "\x60"], token.toList <:+: cs := by
  unfold Shell.startsSubstitution at h
  split at h
  next c rest =>
    rw [Bool.or_eq_true, decide_eq_true_iff, decide_eq_true_iff] at h
    rcases h with rfl | rfl
    · exact ⟨"$(", by decide, [], rest, rfl⟩
    · exact ⟨"$\x7b", by decide, [], rest, rfl⟩
  next c rest _ =>
    obtain rfl := of_decide_eq_true h
    exact ⟨"\x60", by decide, [], rest, rfl⟩
  · cases h

theorem hasSubstitution_eq_false (h : ∀ token ∈ ["$(", "$\x7b", "\x60"], ¬ token.toList <:+: cs)
    (m : Shell.Mode) : Shell.hasSubstitution m cs = false := by
  induction cs generalizing m with
  | nil => rfl
  | cons c cs ih =>
    have htail := ih (fun token htoken hsub => h token htoken (hsub.trans (List.suffix_cons c cs).isInfix))
      (m.next c)
    have hstart : Shell.startsSubstitution (c :: cs) = false := by
      by_contra hne
      obtain ⟨token, htoken, hsub⟩ := startsSubstitution_infix (by simpa using hne)
      exact h token htoken hsub
    simp [Shell.hasSubstitution, hstart, htail]

/-- **One command.** The only operators left are `&` and parentheses, and the line is one simple command if, and
only if, none of them stands outside of quotes and of a comment. -/
theorem accepted_line_is_one_command_iff {entrypoint : Option String} {lines : List String}
    (hok : validateEntrypoint entrypoint profile = .ok lines) (hline : line ∈ lines) :
    ∃ ts, Shell.tokens line.toList = some ts ∧ Shell.hasSubstitution {} line.toList = false ∧
      (∀ s, .op s ∈ ts → s ∈ ["&", "(", ")"]) ∧
      ((∀ t ∈ ts, ∃ w, t = .word w) ↔
        ∀ c ∈ ['&', '(', ')'], c ∉ Shell.bareChars {} (Shell.code line.toList)) := by
  have haccepted := accepted_of_validateEntrypoint hok hline
  obtain ⟨ts, hts, hops⟩ := accepted_ops haccepted
  refine ⟨ts, hts, ?_, fun s hs => (hops s hs).1, fun hwords c hc hbare => ?_, fun hnone t ht => ?_⟩
  · refine hasSubstitution_eq_false (fun token htoken => haccepted.forbidden token ?_) {}
    revert token
    decide
  · have hstarts : ['&', '(', ')'].all Shell.isOpStart = true := rfl
    obtain ⟨s, hs⟩ := Shell.op_of_mem_code haccepted.newline (List.all_eq_true.mp hstarts c hc) hbare hts
    obtain ⟨w, hw⟩ := hwords _ hs
    cases hw
  · cases t with
    | word w => exact ⟨w, rfl⟩
    | op s =>
      obtain ⟨hmem, hbare⟩ := hops s ht
      simp only [List.mem_cons, List.not_mem_nil, or_false] at hmem
      rcases hmem with rfl | rfl | rfl
      · exact absurd (hbare '&' (by decide)) (hnone '&' (by decide))
      · exact absurd (hbare '(' (by decide)) (hnone '(' (by decide))
      · exact absurd (hbare ')' (by decide)) (hnone ')' (by decide))

theorem accepted_line_is_one_command_iff_comment :
    validateEntrypoint (some "python a.py \"b & c\" # d & e") "maximum" = .ok ["python a.py \"b & c\" # d & e"] ∧
    ∃ ts, Shell.tokens "python a.py \"b & c\" # d & e".toList = some ts ∧ ∀ t ∈ ts, ∃ w, t = .word w := by
  have hok : validateEntrypoint (some "python a.py \"b & c\" # d & e") "maximum" =
      .ok ["python a.py \"b & c\" # d & e"] := by decide +kernel
  obtain ⟨ts, hts, -, -, hwords⟩ := accepted_line_is_one_command_iff hok (.head _)
  exact ⟨hok, ts, hts, hwords.mpr (List.forall_iff_forall_mem.mp (by decide +kernel))⟩

/-- The first program runs in the background, under every profile. -/
theorem background_accepted :
    validateEntrypoint (some "python a.py & curl evil") "maximum" = .ok ["python a.py & curl evil"] ∧
    Shell.tokens "python a.py & curl evil".toList =
      some [.word "python".toList, .word "a.py".toList, .op "&", .word "curl".toList, .word "evil".toList] := by
  constructor <;> decide +kernel

end NexusGrid.Security
