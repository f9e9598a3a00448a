import Mathlib.Data.List.DropRight
import NexusGrid.Lib.PyStr

/-! # The lines of a Dockerfile

How Docker reads the `FROM` instructions of a Dockerfile. The text is cut into physical lines, these are joined to
logical lines where they end in a backslash, and an instruction is read from each. `LineByLine` says that the
joining makes no difference to the `FROM` instructions.
-/

namespace NexusGrid.Lib.Dockerfile

def isSpace (c : Char) : Bool :=
  let n := c.toNat
  (9 ≤ n && n ≤ 13) || n = 32 || n = 0x85 || n = 0xA0 || n = 0x1680 || (0x2000 ≤ n && n ≤ 0x200A) ||
    n = 0x2028 || n = 0x2029 || n = 0x202F || n = 0x205F || n = 0x3000

def isBlank (c : Char) : Bool :=
  let n := c.toNat
  n = 9 || (11 ≤ n && n ≤ 13) || n = 32

def physicalLines (text : List Char) : List (List Char) :=
  (text.splitOnP fun c => c = '\n').map fun l => l.rdropWhile fun c => c = '\r'

def trimLeft (line : List Char) : List Char := line.dropWhile isSpace

def isComment (line : List Char) : Bool := (trimLeft line).head? = some '#'

def isSkipped (line : List Char) : Bool := isComment line || trimLeft line = []

/-- The line without its last backslash, when it goes on. -/
def continued (line : List Char) : Option (List Char) :=
  match line.reverse.dropWhile fun c => c = ' ' || c = '\t' with
  | '\\' :: '\\' :: _ => none
  | '\\' :: rest => some rest.reverse
  | _ => none

def logicalLines : Option (List Char) → List (List Char) → List (List Char)
  | none, [] => []
  | some line, [] => [line]
  | none, l :: ls =>
    if isSkipped l then logicalLines none ls
    else match continued (trimLeft l) with
      | some line => logicalLines (some line) ls
      | none => trimLeft l :: logicalLines none ls
  | some line, l :: ls =>
    if isSkipped l then logicalLines (some line) ls
    else match continued l with
      | some more => logicalLines (some (line ++ more)) ls
      | none => (line ++ l) :: logicalLines none ls

theorem rdropWhile_cons_of_neg {p : Char → Bool} {c : Char} (hc : p c = false) (l : List Char) :
    (c :: l).rdropWhile p = c :: l.rdropWhile p := by
  induction l using List.reverseRecOn with
  | nil => simp [List.rdropWhile_singleton, hc]
  | append_singleton l d ih =>
    rw [← List.cons_append, List.rdropWhile_concat, List.rdropWhile_concat, ih]
    split <;> rfl

theorem head?_trim (l : List Char) : ((trimLeft l).rdropWhile isSpace).head? = (trimLeft l).head? := by
  cases htrim : trimLeft l with
  | nil => rfl
  | cons c t =>
    have hc : isSpace c = false := by
      have hhead := List.head?_dropWhile_not isSpace l
      rw [← trimLeft, htrim] at hhead
      simpa using hhead
    rw [rdropWhile_cons_of_neg hc]
    rfl

structure From where
  image : String
  stage : Option String
deriving DecidableEq

def instruction (line : List Char) : List String :=
  (PyStr.wordsBy isBlank ((trimLeft line).rdropWhile isSpace)).map String.ofList

/-- An instruction, when it is a `FROM`; an error when it is malformed. -/
def readFrom (line : List Char) : Except Unit (Option From) :=
  match instruction line with
  | [] => .ok none
  | word :: args =>
    if PyStr.upper word ≠ "FROM" then .ok none
    else match args.dropWhile fun w => PyStr.startsWith w "--" with
      | [image] => .ok (some ⟨image, none⟩)
      | [image, as, name] => if PyStr.upper as = "AS" then .ok (some ⟨image, some name⟩) else .error ()
      | _ => .error ()

/-- The `FROM` instructions; `none` when one is malformed. -/
def readFroms : List (List Char) → Option (List From)
  | [] => some []
  | line :: lines =>
    match readFrom line with
    | .error () => none
    | .ok none => readFroms lines
    | .ok (some f) => (readFroms lines).map (f :: ·)

def froms (text : String) : Option (List From) := readFroms (logicalLines none (physicalLines text.toList))

/-- The same `FROM` instructions are read from the physical lines one by one. -/
def LineByLine (text : String) : Prop :=
  froms text = readFroms (((physicalLines text.toList).filter fun l => !isSkipped l).map trimLeft)

instance (text : String) : Decidable (LineByLine text) :=
  inferInstanceAs (Decidable (_ = _))

def From.isNamed (f : From) (image : String) : Bool := f.stage.any fun n => PyStr.lower n = PyStr.lower image

def dropTag : List Char → List Char
  | [] => []
  | c :: cs => if c = ':' ∧ '/' ∉ cs then [] else c :: dropTag cs

def repository (image : String) : String := String.ofList (dropTag (image.toList.takeWhile fun c => c ≠ '@'))

def hasPort (image : String) : Bool := '/' ∈ (image.toList.takeWhile fun c => c ≠ '@').dropWhile fun c => c ≠ ':'

theorem dropTag_of_noPort {cs : List Char} (h : '/' ∉ cs.dropWhile fun c => c ≠ ':') :
    dropTag cs = cs.takeWhile fun c => c ≠ ':' := by
  induction cs with
  | nil => rfl
  | cons c cs ih =>
    by_cases hc : c = ':'
    · have hslash : '/' ∉ cs := by
        rw [List.dropWhile_cons_of_neg (by simp [hc]), List.mem_cons, not_or] at h
        exact h.2
      rw [dropTag, if_pos ⟨hc, hslash⟩, List.takeWhile_cons_of_neg (by simp [hc])]
    rw [List.dropWhile_cons_of_pos (by simp [hc])] at h
    rw [dropTag, if_neg (fun hcolon => hc hcolon.1), ih h, List.takeWhile_cons_of_pos (by simp [hc])]

theorem repository_of_noPort {image : String} (h : hasPort image = false) :
    repository image = PyStr.before '@' (PyStr.before ':' image) := by
  rw [hasPort, decide_eq_false_iff_not] at h
  rw [repository, dropTag_of_noPort h, PyStr.before, PyStr.before, String.toList_ofList, List.takeWhile_takeWhile,
    List.takeWhile_takeWhile]
  simp only [and_comm]

end NexusGrid.Lib.Dockerfile
